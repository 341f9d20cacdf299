import Boringtun.Device.Routing

set_option autoImplicit false

/- `device/api.rs`: the configuration protocol on the device's Unix socket. A connection sends
   `get=1` or `set=1`, a `set` then sends lines `key=value` up to an empty line, and the reply ends
   in `errno=<status>`. The stream is a list of characters: `read_line` reads text, and the
   socket's read errors are left out with the ones of invalid UTF-8. What the socket layer answers
   when the port is bound or the mark is set, and `str::parse` for `SocketAddr` and `IpAddr`, are
   arguments; one reading of the clock and of `OsRng` serves every call of a request. The build is
   Linux's, where `fwmark` is a key, and so are the errno values. -/
namespace Boringtun.Device

open Noise

def eio : ℕ := 5
def einval : ℕ := 22
def eproto : ℕ := 71
def eaddrinuse : ℕ := 98

-- `read_line` over the whole stream: each line with its newline, and then the text after the
-- last newline.
def lines : List Char → List (List Char)
  | [] => []
  | c :: s =>
      if c = '\n' then ['\n'] :: lines s
      else
        match lines s with
        | [] => [[c]]
        | line :: rest => (c :: line) :: rest

-- `splitn(2, '=')`: the text before the first `=` and the text after it.
def splitOnce (cmd : List Char) : List (List Char) :=
  match cmd.span (· != '=') with
  | (key, []) => [key]
  | (key, _ :: val) => [key, val]

def parseBool : List Char → Option Bool
  | ['t', 'r', 'u', 'e'] => some true
  | ['f', 'a', 'l', 's', 'e'] => some false
  | _ => none

-- What the socket layer answers: the port a new IPv4 socket bound to a port got (`0` asks for any
-- free one), or none when opening or binding it failed; whether an IPv6 socket bound to that port
-- and both joined the event queue; and whether every socket took the mark.
structure Sockets where
  bind4 : UInt16 → Option UInt16
  bind6 : UInt16 → Bool
  setMark : UInt32 → Bool

variable {P : Primitives} {N : IpNetworks}

-- `open_listen_socket`: the old sockets are closed first, so a failure leaves the device with
-- none; whether it succeeded.
def openListenSocket (d : Device P N) (sockets : Sockets) (port : UInt16) : Device P N × Bool :=
  let d := { d with udp4 := none, udp6 := none }
  match sockets.bind4 port with
  | some port => if sockets.bind6 port then ({ d with udp4 := some port, udp6 := some port, listenPort := port }, true)
      else (d, false)
  | none => (d, false)

-- `set_fwmark`: the mark is kept even when a socket refuses it.
def setFwmark (d : Device P N) (sockets : Sockets) (mark : UInt32) : Device P N × Bool :=
  ({ d with fwmark := some mark }, sockets.setMark mark)

structure PeerSection where
  remove : Bool
  replaceIps : Bool
  endpoint : Option SocketAddr
  keepalive : Option UInt16
  publicKey : Bytes32
  presharedKey : Option Bytes32
  allowedIps : List AllowedIP

def PeerSection.new (publicKey : Bytes32) : PeerSection :=
  { remove := false, replaceIps := false, endpoint := none, keepalive := none, publicKey, presharedKey := none,
    allowedIps := [] }

def PeerSection.commit (s : PeerSection) (d : Device P N) (entropy : Entropy) : Except String (Device P N) :=
  d.updatePeer s.publicKey s.remove s.replaceIps s.endpoint s.allowedIps s.keepalive s.presharedKey entropy

section Set

variable (engine : Base64) (entropy : Entropy) (parseSocketAddr : List Char → Option SocketAddr)
  (parseIpAddr : List Char → Option IpAddr)

-- `api_set_peer`: an empty line, or the end of the stream, commits the section; so does the
-- `public_key` of the next one, which starts from what this one set but its allowed IPs.
def apiSetPeer (d : Device P N) (s : PeerSection) : List (List Char) → Except String (Device P N × ℕ)
  | [] => do
      let d ← s.commit d entropy
      return (d, 0)
  | line :: rest =>
      let cmd := line.dropLast
      if cmd.isEmpty then do
        let d ← s.commit d entropy
        return (d, 0)
      else
        match splitOnce cmd with
        | [key, val] =>
            match String.ofList key with
            | "remove" =>
                match parseBool val with
                | some remove => apiSetPeer d { s with remove } rest
                | none => .ok (d, einval)
            | "preshared_key" => do
                match ← KeyBytes.fromStr engine (String.ofList val) with
                | .ok keyBytes => apiSetPeer d { s with presharedKey := some keyBytes } rest
                | .error _ => return (d, einval)
            | "endpoint" =>
                match parseSocketAddr val with
                | some addr => apiSetPeer d { s with endpoint := some addr } rest
                | none => .ok (d, einval)
            | "persistent_keepalive_interval" =>
                match u16FromStrRadix (utf8 val) 10 with
                | some interval => apiSetPeer d { s with keepalive := some interval } rest
                | none => .ok (d, einval)
            | "replace_allowed_ips" =>
                match parseBool val with
                | some replaceIps => apiSetPeer d { s with replaceIps } rest
                | none => .ok (d, einval)
            | "allowed_ip" =>
                match AllowedIP.fromStr parseIpAddr val with
                | .ok ip => apiSetPeer d { s with allowedIps := s.allowedIps ++ [ip] } rest
                | .error _ => .ok (d, einval)
            | "public_key" => do
                -- Indicates a new peer section. Commit changes for current peer, and continue to next peer
                let d ← s.commit d entropy
                match ← KeyBytes.fromStr engine (String.ofList val) with
                | .ok keyBytes => apiSetPeer d { s with publicKey := keyBytes, allowedIps := [] } rest
                | .error _ => return (d, einval)
            | "protocol_version" =>
                -- Only version 1 is legal
                match u32FromStrRadix (utf8 val) 10 with
                | some 1 => apiSetPeer d s rest
                | _ => .ok (d, einval)
            | _ => .ok (d, einval)
        | _ => .ok (d, eproto)

-- `api_set`: keys of the device until a `public_key` starts the peer sections. It splits at every
-- `=`, where `api_set_peer` splits at the first. `try_writeable` always runs its closure, so the
-- `EIO` of `unwrap_or` is never returned.
def apiSet (sockets : Sockets) (d : Device P N) : List (List Char) → Except String (Device P N × ℕ)
  | [] => .ok (d, 0)
  | line :: rest =>
      let cmd := line.dropLast
      if cmd.isEmpty then .ok (d, 0)
      else
        match cmd.splitOn '=' with
        | [key, val] =>
            match String.ofList key with
            | "private_key" => do
                match ← KeyBytes.fromStr engine (String.ofList val) with
                | .ok keyBytes =>
                    let d ← d.setKey keyBytes entropy
                    apiSet sockets d rest
                | .error _ => return (d, einval)
            | "listen_port" =>
                match u16FromStrRadix (utf8 val) 10 with
                | some port =>
                    match d.openListenSocket sockets port with
                    | (d, true) => apiSet sockets d rest
                    | (d, false) => .ok (d, eaddrinuse)
                | none => .ok (d, einval)
            | "fwmark" =>
                match u32FromStrRadix (utf8 val) 10 with
                | some mark =>
                    match d.setFwmark sockets mark with
                    | (d, true) => apiSet sockets d rest
                    | (d, false) => .ok (d, eaddrinuse)
                | none => .ok (d, einval)
            | "replace_peers" =>
                match parseBool val with
                | some true => apiSet sockets d.clearPeers rest
                | some false => apiSet sockets d rest
                | none => .ok (d, einval)
            | "public_key" => do
                match ← KeyBytes.fromStr engine (String.ofList val) with
                | .ok keyBytes => apiSetPeer engine entropy parseSocketAddr parseIpAddr d (PeerSection.new keyBytes) rest
                | .error _ => return (d, einval)
            | _ => .ok (d, einval)
        | _ => .ok (d, eproto)

-- One connection: its first line is the command. `api_get` only reads the device, and what it
-- writes is left out.
def apiConnection (sockets : Sockets) (d : Device P N) (stream : List Char) : Except String (Device P N × ℕ) :=
  match lines stream with
  | [] => .ok (d, eio)
  | line :: rest =>
      match String.ofList line.dropLast with
      | "get=1" => .ok (d, 0)
      | "set=1" => apiSet engine entropy parseSocketAddr parseIpAddr sockets d rest
      | _ => .ok (d, eio)

end Set

/-! What a request does to the device: every change is one of the configuring calls of `Step`,
    or a new listening port or mark. -/

inductive Configured : Device P N → Device P N → Prop
  | step {d d' : Device P N} (step : Step d d') : Configured d d'
  | listen (d : Device P N) (sockets : Sockets) (port : UInt16) : Configured d (d.openListenSocket sockets port).1
  | fwmark (d : Device P N) (mark : UInt32) : Configured d { d with fwmark := some mark }

theorem open_listen_socket_refused (d : Device P N) (sockets : Sockets) (port : UInt16)
    (refused : sockets.bind4 port = none) :
    d.openListenSocket sockets port = ({ d with udp4 := none, udp6 := none }, false) := by
  simp only [openListenSocket, refused]

theorem open_listen_socket_tables (d : Device P N) (sockets : Sockets) (port : UInt16) :
    (d.openListenSocket sockets port).1.keyPair = d.keyPair ∧ (d.openListenSocket sockets port).1.peers = d.peers ∧
      (d.openListenSocket sockets port).1.arena = d.arena := by
  unfold openListenSocket
  split
  · split <;> exact ⟨rfl, rfl, rfl⟩
  · exact ⟨rfl, rfl, rfl⟩

theorem commit_configured {d d' : Device P N} {s : PeerSection} {entropy : Entropy}
    (committed : s.commit d entropy = .ok d') : Configured d d' :=
  .step (.updatePeer _ _ _ _ _ _ _ _ _ _ committed)

section Runs

variable (engine : Base64) (entropy : Entropy) (parseSocketAddr : List Char → Option SocketAddr)
  (parseIpAddr : List Char → Option IpAddr)

theorem api_set_peer_cons_cases {d : Device P N} {s : PeerSection} {line : List Char} {rest : List (List Char)}
    {result : Device P N × ℕ} (set : apiSetPeer engine entropy parseSocketAddr parseIpAddr d s (line :: rest) = .ok result) :
    (∃ status, result = (d, status)) ∨
    (∃ d' status, s.commit d entropy = .ok d' ∧ result = (d', status)) ∨
    (∃ s', apiSetPeer engine entropy parseSocketAddr parseIpAddr d s' rest = .ok result) ∨
    (∃ d' s', s.commit d entropy = .ok d' ∧ apiSetPeer engine entropy parseSocketAddr parseIpAddr d' s' rest = .ok result) := by
  unfold apiSetPeer at set
  dsimp only at set
  split at set
  · obtain ⟨d', committed, returned⟩ := Loop.bind_eq_ok.mp set
    exact .inr (.inl ⟨d', 0, committed, (Except.ok.inj returned).symm⟩)
  split at set
  · split at set
    -- `preshared_key`: a key's text may panic, or be refused
    case h_2 =>
      obtain ⟨parsed, -, set⟩ := Loop.bind_eq_ok.mp set
      split at set
      · exact .inr (.inr (.inl ⟨_, set⟩))
      · exact .inl ⟨_, (Except.ok.inj set).symm⟩
    -- `public_key`: the section is committed before the next key is read
    case h_7 =>
      obtain ⟨d', committed, set⟩ := Loop.bind_eq_ok.mp set
      obtain ⟨parsed, -, set⟩ := Loop.bind_eq_ok.mp set
      split at set
      · exact .inr (.inr (.inr ⟨d', _, committed, set⟩))
      · exact .inr (.inl ⟨d', _, committed, (Except.ok.inj set).symm⟩)
    case h_9 => exact .inl ⟨_, (Except.ok.inj set).symm⟩
    all_goals
      split at set
      · exact .inr (.inr (.inl ⟨_, set⟩))
      · exact .inl ⟨_, (Except.ok.inj set).symm⟩
  · cases set
    exact .inl ⟨_, rfl⟩

theorem api_set_cons_cases {sockets : Sockets} {d : Device P N} {line : List Char} {rest : List (List Char)}
    {result : Device P N × ℕ} (set : apiSet engine entropy parseSocketAddr parseIpAddr sockets d (line :: rest) = .ok result) :
    (∃ d' status, Relation.ReflTransGen Configured d d' ∧ result = (d', status)) ∨
    (∃ d', Relation.ReflTransGen Configured d d' ∧ apiSet engine entropy parseSocketAddr parseIpAddr sockets d' rest = .ok result) ∨
    (∃ publicKey, apiSetPeer engine entropy parseSocketAddr parseIpAddr d (PeerSection.new publicKey) rest = .ok result) := by
  unfold apiSet at set
  dsimp only at set
  split at set
  · exact .inl ⟨d, 0, .refl, (Except.ok.inj set).symm⟩
  split at set
  · split at set
    case h_1 =>
      obtain ⟨parsed, -, set⟩ := Loop.bind_eq_ok.mp set
      split at set
      · obtain ⟨d', keyed, set⟩ := Loop.bind_eq_ok.mp set
        exact .inr (.inl ⟨d', .single (.step (.setKey _ _ _ _ keyed)), set⟩)
      · exact .inl ⟨d, _, .refl, (Except.ok.inj set).symm⟩
    -- `listen_port`: a port that cannot be bound leaves the device without sockets
    case h_2 =>
      split at set
      · rename_i port _
        split at set
        · rename_i d' opened
          have closed : (d.openListenSocket sockets port).1 = d' := by rw [opened]
          exact .inr (.inl ⟨d', closed ▸ .single (.listen d sockets port), set⟩)
        · rename_i d' opened
          have closed : (d.openListenSocket sockets port).1 = d' := by rw [opened]
          exact .inl ⟨d', _, closed ▸ .single (.listen d sockets port), (Except.ok.inj set).symm⟩
      · exact .inl ⟨d, _, .refl, (Except.ok.inj set).symm⟩
    -- `fwmark`: the mark stays set when a socket refuses it
    case h_3 =>
      split at set
      · rename_i mark _
        split at set
        · rename_i marked
          obtain ⟨rfl, -⟩ := Prod.mk.inj marked
          exact .inr (.inl ⟨_, .single (.fwmark d mark), set⟩)
        · rename_i marked
          obtain ⟨rfl, -⟩ := Prod.mk.inj marked
          exact .inl ⟨_, _, .single (.fwmark d mark), (Except.ok.inj set).symm⟩
      · exact .inl ⟨d, _, .refl, (Except.ok.inj set).symm⟩
    case h_4 =>
      split at set
      · exact .inr (.inl ⟨_, .single (.step (.clearPeers d)), set⟩)
      · exact .inr (.inl ⟨d, .refl, set⟩)
      · exact .inl ⟨d, _, .refl, (Except.ok.inj set).symm⟩
    case h_5 =>
      obtain ⟨parsed, -, set⟩ := Loop.bind_eq_ok.mp set
      split at set
      · exact .inr (.inr ⟨_, set⟩)
      · exact .inl ⟨d, _, .refl, (Except.ok.inj set).symm⟩
    case h_6 => exact .inl ⟨d, _, .refl, (Except.ok.inj set).symm⟩
  · exact .inl ⟨d, _, .refl, (Except.ok.inj set).symm⟩

-- A peer section and all after it, by induction on the lines with the device and the section
-- generalized: each commit is one `update_peer`.
theorem api_set_peer_configures : ∀ {lines : List (List Char)} {d : Device P N} {s : PeerSection}
    {result : Device P N × ℕ}, apiSetPeer engine entropy parseSocketAddr parseIpAddr d s lines = .ok result →
      Relation.ReflTransGen Configured d result.1
  | [], d, s, result, set => by
      obtain ⟨d', committed, returned⟩ := Loop.bind_eq_ok.mp set
      cases Except.ok.inj returned
      exact .single (commit_configured committed)
  | line :: rest, d, s, result, set => by
      rcases api_set_peer_cons_cases engine entropy parseSocketAddr parseIpAddr set with
        ⟨status, rfl⟩ | ⟨d', status, committed, rfl⟩ | ⟨s', later⟩ | ⟨d', s', committed, later⟩
      · exact .refl
      · exact .single (commit_configured committed)
      · exact api_set_peer_configures later
      · exact .head (commit_configured committed) (api_set_peer_configures later)

theorem api_set_configures {sockets : Sockets} : ∀ {lines : List (List Char)} {d : Device P N}
    {result : Device P N × ℕ}, apiSet engine entropy parseSocketAddr parseIpAddr sockets d lines = .ok result →
      Relation.ReflTransGen Configured d result.1
  | [], d, result, set => by
      cases Except.ok.inj set
      exact .refl
  | line :: rest, d, result, set => by
      rcases api_set_cons_cases engine entropy parseSocketAddr parseIpAddr set with
        ⟨d', status, configured, rfl⟩ | ⟨d', configured, later⟩ | ⟨publicKey, peers⟩
      · exact configured
      · exact configured.trans (api_set_configures later)
      · exact api_set_peer_configures engine entropy parseSocketAddr parseIpAddr peers

theorem api_connection_configures {sockets : Sockets} {d d' : Device P N} {stream : List Char} {status : ℕ}
    (served : apiConnection engine entropy parseSocketAddr parseIpAddr sockets d stream = .ok (d', status)) :
    Relation.ReflTransGen Configured d d' := by
  unfold apiConnection at served
  split at served
  · cases served
    exact .refl
  · split at served
    · cases served
      exact .refl
    · exact api_set_configures engine entropy parseSocketAddr parseIpAddr served
    · cases served
      exact .refl

end Runs

theorem keyed_configured {d d' : Device P N} (keyed : Keyed d) (configured : Configured d d') : Keyed d' := by
  cases configured with
  | step step => exact keyed_step keyed step
  | listen sockets port =>
      obtain ⟨pair, peers, arena⟩ := open_listen_socket_tables d sockets port
      exact keyed.of_tables pair arena fun filed => by rwa [peers] at filed
  | fwmark mark => exact keyed.of_tables rfl rfl id

theorem keyed_configured_run {d d' : Device P N} (keyed : Keyed d) (run : Relation.ReflTransGen Configured d d') :
    Keyed d' := by
  induction run with
  | refl => exact keyed
  | tail _ configured keyed' => exact keyed_configured keyed' configured

theorem api_connection_keyed {engine : Base64} {entropy : Entropy} {parseSocketAddr : List Char → Option SocketAddr}
    {parseIpAddr : List Char → Option IpAddr} {sockets : Sockets} {d d' : Device P N} {stream : List Char} {status : ℕ}
    (keyed : Keyed d) (served : apiConnection engine entropy parseSocketAddr parseIpAddr sockets d stream = .ok (d', status)) :
    Keyed d' :=
  keyed_configured_run keyed (api_connection_configures engine entropy parseSocketAddr parseIpAddr served)

def plainSockets : Sockets := ⟨some, fun _ => true, fun _ => true⟩

def plainRequest : List Char :=
  ("set=1\nprivate_key=" ++ String.join (List.replicate 32 "01") ++ "\nlisten_port=51820\nfwmark=1\npublic_key=" ++
    String.join (List.replicate 32 "02") ++ "\npersistent_keepalive_interval=25\n\n").toList

theorem plain_api_connection_keyed :
    Keyed (Device.new Primitives.plain IpNetworks.prefixMap ⟨1, IndexLfsr.in_range_one⟩ ⟨1, IndexLfsr.in_range_one⟩) ∧
      ∃ d' status, apiConnection Base64.standard plainEntropy (fun _ => none) (fun _ => none) plainSockets
          (Device.new Primitives.plain IpNetworks.prefixMap ⟨1, IndexLfsr.in_range_one⟩ ⟨1, IndexLfsr.in_range_one⟩) plainRequest =
          .ok (d', status) ∧ Keyed d' := by
  have keyed := keyed_new (P := Primitives.plain) (N := IpNetworks.prefixMap) ⟨1, IndexLfsr.in_range_one⟩
    ⟨1, IndexLfsr.in_range_one⟩
  have ran : (apiConnection Base64.standard plainEntropy (fun _ => none) (fun _ => none) plainSockets
      (Device.new Primitives.plain IpNetworks.prefixMap ⟨1, IndexLfsr.in_range_one⟩ ⟨1, IndexLfsr.in_range_one⟩) plainRequest).map
      (·.2) = .ok 0 := by
    decide +kernel
  obtain ⟨⟨d', status⟩, served, -⟩ := Loop.map_eq_ok.mp ran
  exact ⟨keyed, d', status, served, api_connection_keyed keyed served⟩

end Boringtun.Device
