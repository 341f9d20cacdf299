import Boringtun.Device.Api
import Boringtun.Device.Events
import Boringtun.KeyText

set_option autoImplicit false

/- `api_set` and `api_set_peer` on requests whose keys are texts of `to_lower_hex` and
   `to_base64`: what the split of each line gives, and what a later peer section keeps of an
   earlier one. -/
namespace Boringtun.Device

open Noise

variable {P : Primitives} {N : IpNetworks}

/-! Requests whose keys are written as `to_lower_hex` writes them, line by line. -/

def keyLine (key value : String) : List Char := (key ++ "=" ++ value ++ "\n").toList

theorem lines_line (l rest : List Char) (noNewline : '\n' ∉ l) :
    lines (l ++ '\n' :: rest) = (l ++ ['\n']) :: lines rest := by
  induction l with
  | nil => rw [List.nil_append, lines, if_pos rfl, List.nil_append]
  | cons c l ih =>
      have apart : c ≠ '\n' := fun same => noNewline (same ▸ List.mem_cons_self)
      rw [List.cons_append, lines, if_neg apart, ih (fun mem => noNewline (List.mem_cons_of_mem _ mem))]
      -- the first line of the rest is never missing, so `c` joins it
      rfl

section KeyLine

variable (key value : String)

theorem key_line_eq : keyLine key value = (key.toList ++ '=' :: value.toList) ++ ['\n'] := by
  simp [keyLine, String.toList_append]

theorem lines_key_line (oneLine : '\n' ∉ key.toList ∧ '\n' ∉ value.toList) (rest : List Char) :
    lines (keyLine key value ++ rest) = keyLine key value :: lines rest := by
  have noNewline : '\n' ∉ key.toList ++ '=' :: value.toList := by
    simp only [List.mem_append, List.mem_cons, not_or]
    exact ⟨oneLine.1, by decide, oneLine.2⟩
  rw [key_line_eq, List.append_assoc, List.singleton_append, lines_line _ _ noNewline]

theorem key_line_command : (keyLine key value).dropLast = key.toList ++ '=' :: value.toList := by
  rw [key_line_eq, List.dropLast_concat]

theorem key_line_split_on (noSign : '=' ∉ key.toList) (plain : '=' ∉ value.toList) :
    (keyLine key value).dropLast.splitOn '=' = [key.toList, value.toList] := by
  rw [key_line_command, List.splitOn_append_cons_self_of_not_mem noSign, List.splitOn_eq_singleton plain]

theorem key_line_split_once (noSign : '=' ∉ key.toList) :
    splitOnce (keyLine key value).dropLast = [key.toList, value.toList] := by
  have before : ∀ c ∈ key.toList, (c != '=') = true := fun c mem => bne_iff_ne.mpr fun same => noSign (same ▸ mem)
  rw [key_line_command, splitOnce, List.span_eq_takeWhile_dropWhile, List.takeWhile_append_of_pos before,
    List.dropWhile_append_of_pos before]
  simp

end KeyLine

section Lines

variable (engine : Base64) (entropy : Entropy) (parseSocketAddr : List Char → Option SocketAddr)
  (parseIpAddr : List Char → Option IpAddr) (sockets : Sockets) (d : Device P N)

theorem api_set_public_key (a : Bytes32) (rest : List (List Char)) :
    apiSet engine entropy parseSocketAddr parseIpAddr sockets d (keyLine "public_key" (KeyBytes.toLowerHex a) :: rest) =
      apiSetPeer engine entropy parseSocketAddr parseIpAddr d (PeerSection.new a) rest := by
  rw [apiSet]
  simp only [key_line_split_on "public_key" _ (by decide) (KeyBytes.to_lower_hex_plain a).1, String.ofList_toList,
    KeyBytes.read_lower_hex]
  rw [if_neg (by simp [key_line_command _ _])]
  rfl

theorem api_set_peer_preshared_key (s : PeerSection) (k : Bytes32) (rest : List (List Char)) :
    apiSetPeer engine entropy parseSocketAddr parseIpAddr d s (keyLine "preshared_key" (KeyBytes.toLowerHex k) :: rest) =
      apiSetPeer engine entropy parseSocketAddr parseIpAddr d { s with presharedKey := some k } rest := by
  rw [apiSetPeer]
  simp only [key_line_split_once "preshared_key" _ (by decide), String.ofList_toList, KeyBytes.read_lower_hex]
  rw [if_neg (by simp [key_line_command _ _])]
  rfl

theorem api_set_peer_public_key (s : PeerSection) (b : Bytes32) (rest : List (List Char)) :
    apiSetPeer engine entropy parseSocketAddr parseIpAddr d s (keyLine "public_key" (KeyBytes.toLowerHex b) :: rest) =
      (s.commit d entropy >>= fun d =>
        apiSetPeer engine entropy parseSocketAddr parseIpAddr d { s with publicKey := b, allowedIps := [] } rest) := by
  rw [apiSetPeer]
  simp only [key_line_split_once "public_key" _ (by decide), String.ofList_toList, KeyBytes.read_lower_hex]
  rw [if_neg (by simp [key_line_command _ _])]
  rfl

theorem api_set_peer_end (s : PeerSection) (rest : List (List Char)) :
    apiSetPeer engine entropy parseSocketAddr parseIpAddr d s (['\n'] :: rest) =
      (s.commit d entropy >>= fun d => pure (d, 0)) := by
  rw [apiSetPeer]
  rfl

-- `api_set` splits a line at every `=`, where `api_set_peer` splits it at the first: a key in
-- base64, whose text ends in its padding `=`, is refused with `EPROTO` as the device's private
-- key, and taken as a peer's preshared key.
theorem base64_key_split {engine : Base64} (decodeEncode : engine.DecodeEncode) (padded : engine.Padded)
    (entropy : Entropy) (parseSocketAddr : List Char → Option SocketAddr) (parseIpAddr : List Char → Option IpAddr)
    (sockets : Sockets) (d : Device P N) (s : PeerSection) (k : Bytes32) (rest : List (List Char)) :
    apiSet engine entropy parseSocketAddr parseIpAddr sockets d
        (keyLine "private_key" (KeyBytes.toBase64 engine k) :: rest) = .ok (d, eproto) ∧
    apiSetPeer engine entropy parseSocketAddr parseIpAddr d s
        (keyLine "preshared_key" (KeyBytes.toBase64 engine k) :: rest) =
      apiSetPeer engine entropy parseSocketAddr parseIpAddr d { s with presharedKey := some k } rest := by
  obtain ⟨body, text, unpadded⟩ := KeyBytes.to_base64_to_list padded k
  constructor
  · have three : (keyLine "private_key" (KeyBytes.toBase64 engine k)).dropLast.splitOn '=' =
        ["private_key".toList, body, []] := by
      rw [key_line_command _ _, text, List.splitOn_append_cons_self_of_not_mem (by decide),
        List.splitOn_append_cons_self_of_not_mem unpadded]
      rfl
    rw [apiSet]
    simp only [three]
    rw [if_neg (by simp [key_line_command _ _])]
  · rw [apiSetPeer]
    simp only [key_line_split_once "preshared_key" _ (by decide), String.ofList_toList,
      KeyBytes.read_base64 decodeEncode padded]
    rw [if_neg (by simp [key_line_command _ _])]
    rfl

theorem plain_base64_key_split :
    Base64.standard.DecodeEncode ∧ Base64.standard.Padded ∧
      apiSet Base64.standard plainEntropy (fun _ => none) (fun _ => none) plainSockets plainKeyed
          (keyLine "private_key" (KeyBytes.toBase64 Base64.standard (Vector.replicate 32 4)) :: []) =
        .ok (plainKeyed, eproto) ∧
      apiSetPeer Base64.standard plainEntropy (fun _ => none) (fun _ => none) plainKeyed
          (PeerSection.new (Vector.replicate 32 2))
          (keyLine "preshared_key" (KeyBytes.toBase64 Base64.standard (Vector.replicate 32 4)) :: []) =
        apiSetPeer Base64.standard plainEntropy (fun _ => none) (fun _ => none) plainKeyed
          { PeerSection.new (Vector.replicate 32 2) with presharedKey := some (Vector.replicate 32 4) } [] :=
  ⟨Base64.standard_decode_encode, Base64.standard_padded,
    base64_key_split Base64.standard_decode_encode Base64.standard_padded _ _ _ _ _ _ _ _⟩

theorem api_set_listen_port_refused (val : String) (port : UInt16) (plain : '=' ∉ val.toList)
    (parsed : u16FromStrRadix (utf8 val.toList) 10 = some port) (refused : sockets.bind4 port = none)
    (rest : List (List Char)) :
    apiSet engine entropy parseSocketAddr parseIpAddr sockets d (keyLine "listen_port" val :: rest) =
      .ok ({ d with udp4 := none, udp6 := none }, eaddrinuse) := by
  rw [apiSet]
  simp only [key_line_split_on "listen_port" _ (by decide) plain, String.ofList_toList, parsed,
    open_listen_socket_refused d sockets port refused]
  rw [if_neg (by simp [key_line_command _ _])]

-- `open_listen_socket` closes both listening sockets before it binds new ones: a request for a
-- port that cannot be bound ends with `EADDRINUSE` and leaves none, and from then on, along any
-- run of the data plane, the interface handler panics at its `expect`.
theorem listen_port_refused_disconnects (val : String) (port : UInt16) (oneLine : '\n' ∉ val.toList)
    (plain : '=' ∉ val.toList) (parsed : u16FromStrRadix (utf8 val.toList) 10 = some port)
    (refused : sockets.bind4 port = none) (rest : List Char) :
    ∃ d', apiConnection engine entropy parseSocketAddr parseIpAddr sockets d
        (keyLine "set" "1" ++ keyLine "listen_port" val ++ rest) = .ok (d', eaddrinuse) ∧
      ∀ d'', Relation.ReflTransGen (fun d d' => ∃ outputs, Handled d outputs d') d' d'' →
        ∀ dst ephemeralPrivate now packets, d''.ifaceHandler dst ephemeralPrivate now packets = .error "Not connected" := by
  have command : String.ofList (keyLine "set" "1").dropLast = "set=1" := by decide
  refine ⟨{ d with udp4 := none, udp6 := none }, ?_, fun d'' run dst ephemeralPrivate now packets => ?_⟩
  · unfold apiConnection
    rw [List.append_assoc, lines_key_line _ _ ⟨by decide, by decide⟩, lines_key_line _ _ ⟨by decide, oneLine⟩]
    simp only [command]
    exact api_set_listen_port_refused engine entropy parseSocketAddr parseIpAddr sockets d val port plain parsed
      refused _
  -- the data plane never opens a socket
  · have closed : d''.udp4 = none := (data_plane_keeps run).udp4
    rcases iface_handler_cases d'' packets with ⟨open4, -, -⟩ | ⟨-, panicked⟩
    · simp [closed] at open4
    · exact panicked

def busySockets : Sockets := ⟨fun _ => none, fun _ => false, fun _ => true⟩

theorem plain_listen_port_refused_disconnects :
    '\n' ∉ "51820".toList ∧ '=' ∉ "51820".toList ∧ u16FromStrRadix (utf8 "51820".toList) 10 = some 51820 ∧
      busySockets.bind4 51820 = none ∧
      ∃ d', apiConnection Base64.standard plainEntropy (fun _ => none) (fun _ => none) busySockets plainDataDevice
          (keyLine "set" "1" ++ keyLine "listen_port" "51820" ++ []) = .ok (d', eaddrinuse) ∧
        ∀ d'', Relation.ReflTransGen (fun d d' => ∃ outputs, Handled d outputs d') d' d'' →
          ∀ dst ephemeralPrivate now packets, d''.ifaceHandler dst ephemeralPrivate now packets = .error "Not connected" := by
  have oneLine : '\n' ∉ "51820".toList := by decide
  have plain : '=' ∉ "51820".toList := by decide
  have parsed : u16FromStrRadix (utf8 "51820".toList) 10 = some 51820 := by decide +kernel
  have refused : busySockets.bind4 51820 = none := rfl
  exact ⟨oneLine, plain, parsed, refused,
    listen_port_refused_disconnects _ _ _ _ _ _ "51820" 51820 oneLine plain parsed refused []⟩

end Lines

/-! A later peer section is not started afresh: `public_key` only replaces the key and clears the
    allowed IPs, so a peer whose section gives no preshared key gets the one of the section before
    it, and likewise its endpoint, keepalive and `remove`. -/

theorem update_peer_new_key {d : Device P N} {pubKey : Bytes32} {replaceIps : Bool} {endpoint : Option SocketAddr}
    {keepalive : Option UInt16} {presharedKey : Option Bytes32} {entropy : Entropy} {g : IndexLfsr} {index : UInt32}
    {privateKey publicKey : Bytes32} (fresh : pubKey ∉ d.peers) (next : d.nextIndex.next = .ok (g, index))
    (keys : d.keyPair = some (privateKey, publicKey)) :
    ∃ d', d.updatePeer pubKey false replaceIps endpoint [] keepalive presharedKey entropy = .ok d' ∧
      d'.nextIndex = g ∧ d'.keyPair = d.keyPair ∧ (∀ key, key ∈ d'.peers ↔ key = pubKey ∨ key ∈ d.peers) ∧
      ∃ p, d'.peers.lookup pubKey = some d.arena.length ∧ d'.peer d.arena.length = some p ∧
        p.presharedKey = presharedKey := by
  let p : Peer P N :=
    { tunnel := Tunn.new P privateKey pubKey presharedKey keepalive index none entropy.stamper entropy.now
        entropy.nonceKey entropy.secretKey
      index, endpoint := ⟨endpoint⟩, allowedIps := AllowedIps.new, presharedKey }
  have added : d.updatePeer pubKey false replaceIps endpoint [] keepalive presharedKey entropy =
      .ok (({ d with nextIndex := g } : Device P N).addPeer pubKey index p d.peersByIp) := by
    simp [p, updatePeer, fresh, takeNextIndex, next, keys, Peer.new, AllowedIps.fromIter, AllowedIps.insertAll, bind,
      Except.bind, pure, Except.pure]
  refine ⟨_, added, rfl, rfl, fun key => ?_, p, ?_, ?_, rfl⟩
  · simp [addPeer, AList.mem_insert]
  · simp [addPeer]
  · simp [addPeer, peer]

def twoSections (a k b : Bytes32) : List Char :=
  keyLine "set" "1" ++ keyLine "public_key" (KeyBytes.toLowerHex a) ++ keyLine "preshared_key" (KeyBytes.toLowerHex k) ++
    keyLine "public_key" (KeyBytes.toLowerHex b) ++ ['\n']

theorem lines_two_sections (a k b : Bytes32) :
    lines (twoSections a k b) = [keyLine "set" "1", keyLine "public_key" (KeyBytes.toLowerHex a),
      keyLine "preshared_key" (KeyBytes.toLowerHex k), keyLine "public_key" (KeyBytes.toLowerHex b), ['\n']] := by
  have hex := fun key => (KeyBytes.to_lower_hex_plain key).2
  rw [twoSections, List.append_assoc, List.append_assoc, List.append_assoc,
    lines_key_line _ _ ⟨by decide, by decide⟩, lines_key_line _ _ ⟨by decide, hex a⟩,
    lines_key_line _ _ ⟨by decide, hex k⟩, lines_key_line _ _ ⟨by decide, hex b⟩]
  rfl

section Sections

variable (engine : Base64) (entropy : Entropy) (parseSocketAddr : List Char → Option SocketAddr)
  (parseIpAddr : List Char → Option IpAddr) (sockets : Sockets)

theorem later_section_takes_earlier_key {d : Device P N} {privateKey publicKey : Bytes32} {g g' : IndexLfsr}
    {i i' : UInt32} (keys : d.keyPair = some (privateKey, publicKey)) (first : d.nextIndex.next = .ok (g, i))
    (second : g.next = .ok (g', i')) {a k b : Bytes32} (freshA : a ∉ d.peers) (freshB : b ∉ d.peers) (apart : a ≠ b) :
    ∃ d' r p, apiConnection engine entropy parseSocketAddr parseIpAddr sockets d (twoSections a k b) = .ok (d', 0) ∧
      d'.peers.lookup b = some r ∧ d'.peer r = some p ∧ p.presharedKey = some k := by
  have command : String.ofList (keyLine "set" "1").dropLast = "set=1" := by decide
  unfold apiConnection
  rw [lines_two_sections]
  simp only [command]
  rw [api_set_public_key, api_set_peer_preshared_key, api_set_peer_public_key]
  simp only [api_set_peer_end, PeerSection.commit, PeerSection.new]
  -- the section of `a` is committed with `k`, on the device as it is
  obtain ⟨dA, addedA, nextA, keysA, memA, -⟩ := update_peer_new_key freshA first keys
  have freshB' : b ∉ dA.peers := by
    rw [memA]
    rintro (same | mem)
    · exact apart same.symm
    · exact freshB mem
  -- the section of `b` is committed with `k` too
  obtain ⟨dB, addedB, -, -, -, pB, lookupB, storedB, keyB⟩ :=
    update_peer_new_key freshB' (nextA ▸ second) (keysA ▸ keys)
  refine ⟨dB, _, pB, ?_, lookupB, storedB, keyB⟩
  rw [addedA]
  simp only [bind, Except.bind]
  rw [addedB]
  rfl

end Sections

theorem plain_later_section_takes_earlier_key :
    plainKeyed.keyPair = some (Vector.replicate 32 1, Vector.replicate 32 1) ∧
      plainKeyed.nextIndex.next = .ok (⟨1, 14155776, 1⟩, 1) ∧
      IndexLfsr.next ⟨1, 14155776, 1⟩ = .ok (⟨1, 7077888, 1⟩, 14155774) ∧
      (Vector.replicate 32 2 : Bytes32) ∉ plainKeyed.peers ∧ (Vector.replicate 32 3 : Bytes32) ∉ plainKeyed.peers ∧
      (Vector.replicate 32 2 : Bytes32) ≠ Vector.replicate 32 3 ∧
      ∃ d' r p, apiConnection Base64.standard plainEntropy (fun _ => none) (fun _ => none) plainSockets plainKeyed
          (twoSections (Vector.replicate 32 2) (Vector.replicate 32 4) (Vector.replicate 32 3)) = .ok (d', 0) ∧
        d'.peers.lookup (Vector.replicate 32 3) = some r ∧ d'.peer r = some p ∧
        p.presharedKey = some (Vector.replicate 32 4) := by
  have keys : plainKeyed.keyPair = some (Vector.replicate 32 1, Vector.replicate 32 1) := rfl
  have first : plainKeyed.nextIndex.next = .ok (⟨1, 14155776, 1⟩, 1) := rfl
  have second : IndexLfsr.next ⟨1, 14155776, 1⟩ = .ok (⟨1, 7077888, 1⟩, 14155774) := rfl
  have freshA : (Vector.replicate 32 2 : Bytes32) ∉ plainKeyed.peers := by simp [plainKeyed, Device.new]
  have freshB : (Vector.replicate 32 3 : Bytes32) ∉ plainKeyed.peers := by simp [plainKeyed, Device.new]
  have apart : (Vector.replicate 32 2 : Bytes32) ≠ Vector.replicate 32 3 := by decide
  exact ⟨keys, first, second, freshA, freshB, apart,
    later_section_takes_earlier_key _ _ _ _ _ keys first second freshA freshB apart⟩

end Boringtun.Device
