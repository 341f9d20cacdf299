import Boringtun.Noise.Messages

set_option autoImplicit false

/- Runs of one handshake: every interleaving of the calls a tunnel makes on it. Two things
   carry across the whole run: the TAI64N timestamp of the last accepted initiation only moves
   forward, and the two initiations that may be in flight, `state` and `previous`, never share a
   local index. -/
namespace Boringtun.Noise

def Tai64N.NotBefore (t other : Tai64N) : Prop := t = other ∨ t.after other = true

namespace Tai64N

theorem not_before_refl (t : Tai64N) : t.NotBefore t := .inl rfl

theorem NotBefore.trans {t u v : Tai64N} (tu : t.NotBefore u) (uv : u.NotBefore v) : t.NotBefore v := by
  rcases tu with rfl | later
  · exact uv
  · rcases uv with rfl | later'
    · exact .inr later
    · exact .inr (after_trans later later')

theorem after_of_after_of_not_before {t u v : Tai64N} (tu : t.after u = true) (uv : u.NotBefore v) :
    t.after v = true := by
  rcases uv with rfl | later
  · exact tu
  · exact after_trans tu later

theorem not_after_of_not_before {t u : Tai64N} (ut : u.NotBefore t) : t.after u = false := by
  rcases ut with rfl | later
  · exact after_irrefl _
  · cases back : t.after u
    · rfl
    · have := after_trans back later
      rw [after_irrefl] at this
      cases this

end Tai64N

namespace Handshake

variable {P : Primitives}

-- The first half of `receive_handshake_initialization`: the checks that read only the keys, up to
-- the timestamp the initiation carries, with the hash and chaining key reached there.
def openInitiation (params : NoiseParams P) (packet : HandshakeInit) :
    Except String (Except WireGuardError (Tai64N × Bytes32 × Bytes32)) := do
  let hash := b2sHash P initialChainHash.toList params.staticPublic.toList
  let peerEphemeralPublic := packet.unencryptedEphemeral
  let hash := b2sHash P hash.toList peerEphemeralPublic.toList
  let chainingKey := b2sKdf1 P initialChainKey.toList peerEphemeralPublic.toList
  let ephemeralShared := P.diffieHellman params.staticPrivate peerEphemeralPublic
  let (chainingKey, key) := b2sKdf2 P chainingKey.toList ephemeralShared.toList
  match ← aeadChacha20Open P keyLen key 0 packet.encryptedStatic hash.toList with
  | .error e => return .error e
  | .ok peerStaticPublicDecrypted =>
      if params.peerStaticPublic.toList ≠ peerStaticPublicDecrypted then return .error .wrongKey
      let hash := b2sHash P hash.toList packet.encryptedStatic
      let (chainingKey, key) := b2sKdf2 P chainingKey.toList params.staticShared.toList
      match ← aeadChacha20Open P timestampLen key 0 packet.encryptedTimestamp hash.toList with
      | .error e => return .error e
      | .ok timestamp => return .ok (Tai64N.parse timestamp, b2sHash P hash.toList packet.encryptedTimestamp, chainingKey)

def acceptInitiation (h : Handshake P) (packet : HandshakeInit) (dst : Bytes) (ephemeralPrivate : Bytes32)
    (timestamp : Tai64N) (hash chainingKey : Bytes32) :
    Except String (Handshake P × Except WireGuardError (Bytes × Session)) :=
  if !timestamp.after h.lastHandshakeTimestamp then .ok (h, .error .wrongTai64nTimestamp)
  else
    formatHandshakeResponse { h with
        lastHandshakeTimestamp := timestamp
        previous := h.state
        state := .initReceived hash chainingKey packet.unencryptedEphemeral packet.senderIdx }
      dst ephemeralPrivate

theorem receive_initiation_eq (h : Handshake P) (packet : HandshakeInit) (dst : Bytes) (ephemeralPrivate : Bytes32) :
    h.receiveHandshakeInitialization packet dst ephemeralPrivate =
      match openInitiation h.params packet with
      | .error msg => .error msg
      | .ok (.error e) => .ok (h, .error e)
      | .ok (.ok (timestamp, hash, chainingKey)) =>
          h.acceptInitiation packet dst ephemeralPrivate timestamp hash chainingKey := by
  simp only [receiveHandshakeInitialization, openInitiation, acceptInitiation, bind, Except.bind, pure, Except.pure]
  -- both sides branch on the same two openings and the same two guards
  generalize aeadChacha20Open P keyLen _ 0 packet.encryptedStatic _ = opened
  rcases opened with e | e | decrypted
  · rfl
  · rfl
  by_cases wrongKey : h.params.peerStaticPublic.toList ≠ decrypted
  · simp only [if_pos wrongKey]
  simp only [if_neg wrongKey]
  generalize aeadChacha20Open P timestampLen _ 0 packet.encryptedTimestamp _ = opened
  rcases opened with e | e | timestamp
  · rfl
  · rfl
  by_cases stale : (!(Tai64N.parse timestamp).after h.lastHandshakeTimestamp) = true
  · simp only [if_pos stale]
  · simp only [if_neg stale]

-- The static-key step that `receive_handshake_initialization` shares with `parse_handshake_anon`.
def openStatic (params : NoiseParams P) (packet : HandshakeInit) :
    Except String (Except WireGuardError (Bytes32 × Bytes32 × Bytes)) := do
  let hash := b2sHash P initialChainHash.toList params.staticPublic.toList
  let peerEphemeralPublic := packet.unencryptedEphemeral
  let hash := b2sHash P hash.toList peerEphemeralPublic.toList
  let chainingKey := b2sKdf1 P initialChainKey.toList peerEphemeralPublic.toList
  let ephemeralShared := P.diffieHellman params.staticPrivate peerEphemeralPublic
  let (chainingKey, key) := b2sKdf2 P chainingKey.toList ephemeralShared.toList
  match ← aeadChacha20Open P keyLen key 0 packet.encryptedStatic hash.toList with
  | .error e => return .error e
  | .ok peerStaticPublicDecrypted =>
      if params.peerStaticPublic.toList ≠ peerStaticPublicDecrypted then return .error .wrongKey
      return .ok (hash, chainingKey, peerStaticPublicDecrypted)

def openTimestamp (params : NoiseParams P) (packet : HandshakeInit) (hash chainingKey : Bytes32) :
    Except String (Except WireGuardError (Tai64N × Bytes32 × Bytes32)) := do
  let hash := b2sHash P hash.toList packet.encryptedStatic
  let (chainingKey, key) := b2sKdf2 P chainingKey.toList params.staticShared.toList
  match ← aeadChacha20Open P timestampLen key 0 packet.encryptedTimestamp hash.toList with
  | .error e => return .error e
  | .ok timestamp => return .ok (Tai64N.parse timestamp, b2sHash P hash.toList packet.encryptedTimestamp, chainingKey)

theorem open_initiation_split (params : NoiseParams P) (packet : HandshakeInit) :
    openInitiation params packet =
      match openStatic params packet with
      | .error msg => .error msg
      | .ok (.error e) => .ok (.error e)
      | .ok (.ok (hash, chainingKey, _)) => openTimestamp params packet hash chainingKey := by
  simp only [openInitiation, openStatic, openTimestamp, bind, Except.bind, pure, Except.pure]
  generalize aeadChacha20Open P keyLen _ 0 packet.encryptedStatic _ = opened
  rcases opened with e | e | decrypted
  · rfl
  · rfl
  by_cases wrongKey : params.peerStaticPublic.toList ≠ decrypted
  · simp only [if_pos wrongKey]
  · simp only [if_neg wrongKey]

theorem parse_anon_open_static (params : NoiseParams P) (packet : HandshakeInit) :
    (∀ hh, parseHandshakeAnon P params.staticPrivate params.staticPublic packet = .ok (.ok hh) →
      params.peerStaticPublic = hh.peerStaticPublic →
      ∃ hash chainingKey, openStatic params packet = .ok (.ok (hash, chainingKey, hh.peerStaticPublic.toList))) ∧
    ∀ e, parseHandshakeAnon P params.staticPrivate params.staticPublic packet = .ok (.error e) →
      openStatic params packet = .ok (.error e) := by
  simp only [parseHandshakeAnon, openStatic, bind, Except.bind, pure, Except.pure]
  generalize aeadChacha20Open P keyLen _ 0 packet.encryptedStatic _ = opened
  rcases opened with msg | e | decrypted
  · -- the opening panicked in both
    refine ⟨fun _ read _ => ?_, fun _ read => ?_⟩ <;> simp at read
  · refine ⟨fun _ read _ => ?_, fun e' read => ?_⟩
    · simp at read
    · simp only [Except.ok.injEq, Except.error.injEq] at read
      rw [read]
  · -- the lookup copies the opened bytes into a key: they are that key
    cases copied : fromSlice 32 decrypted with
    | error msg =>
        simp only [copied]
        refine ⟨fun _ read _ => ?_, fun _ read => ?_⟩ <;> simp at read
    | ok key =>
        simp only [copied]
        refine ⟨fun hh read peer => ?_, fun _ read => ?_⟩
        · simp only [Except.ok.injEq] at read
          subst read
          have opened := to_list_of_from_slice copied
          subst opened
          simp only at peer
          simp only [peer, ne_eq, not_true_eq_false, if_false]
          exact ⟨_, _, rfl⟩
        · simp at read

def receiveAfterStatic (h : Handshake P) (packet : HandshakeInit) (dst : Bytes) (ephemeralPrivate : Bytes32)
    (hash chainingKey : Bytes32) : Except String (Handshake P × Except WireGuardError (Bytes × Session)) :=
  match openTimestamp h.params packet hash chainingKey with
  | .error msg => .error msg
  | .ok (.error e) => .ok (h, .error e)
  | .ok (.ok (timestamp, hash, chainingKey)) => h.acceptInitiation packet dst ephemeralPrivate timestamp hash chainingKey

theorem receive_initiation_static (h : Handshake P) (packet : HandshakeInit) (dst : Bytes)
    (ephemeralPrivate : Bytes32) :
    h.receiveHandshakeInitialization packet dst ephemeralPrivate =
      match openStatic h.params packet with
      | .error msg => .error msg
      | .ok (.error e) => .ok (h, .error e)
      | .ok (.ok (hash, chainingKey, _)) => h.receiveAfterStatic packet dst ephemeralPrivate hash chainingKey := by
  rw [receive_initiation_eq, open_initiation_split]
  rcases openStatic h.params packet with msg | e | ⟨hash, chainingKey, _⟩ <;> rfl

/-! What each call can do to a handshake, guards included. -/

theorem format_initiation_cases {h h' : Handshake P} {dst : Bytes} {ephemeralPrivate : Bytes32} {now : Instant}
    {r : Except WireGuardError Bytes} (formatted : h.formatHandshakeInitiation dst ephemeralPrivate now = (h', r)) :
    h' = h ∨ h'.params = h.params ∧ h'.previous = h.state ∧ h'.nextIndex = h.incIndex.2 ∧
      h'.lastHandshakeTimestamp = h.lastHandshakeTimestamp ∧ ∃ s, h'.state = .initSent s ∧ s.localIndex = h.incIndex.2 := by
  by_cases roomy : handshakeInitSz ≤ dst.length
  · obtain ⟨params, previous, next, state⟩ := format_initiation_sent h dst ephemeralPrivate now roomy
    have stamp : (h.formatHandshakeInitiation dst ephemeralPrivate now).1.lastHandshakeTimestamp =
        h.lastHandshakeTimestamp := by
      rw [format_initiation_refines h dst ephemeralPrivate now roomy]
      rfl
    rw [formatted] at params previous next state stamp
    exact .inr ⟨params, previous, next, stamp, _, state, rfl⟩
  · rw [format_initiation_too_small h dst ephemeralPrivate now (by omega)] at formatted
    exact .inl (congrArg Prod.fst formatted).symm

theorem format_response_cases {h h' : Handshake P} {dst : Bytes} {ephemeralPrivate : Bytes32}
    {r : Except WireGuardError (Bytes × Session)} (formatted : h.formatHandshakeResponse dst ephemeralPrivate = .ok (h', r)) :
    h' = h ∧ r = .error .destinationBufferTooSmall ∨
      h'.params = h.params ∧ h'.state = .none ∧ h'.previous = h.previous ∧ h'.nextIndex = h.incIndex.2 ∧
        h'.lastHandshakeTimestamp = h.lastHandshakeTimestamp ∧
        ∃ m s, r = .ok (m, s) ∧ s.receivingIndex = h.incIndex.2 := by
  unfold formatHandshakeResponse at formatted
  split at formatted
  · cases formatted
    exact .inl ⟨rfl, rfl⟩
  · split at formatted
    · cases formatted
      exact .inr ⟨rfl, rfl, rfl, rfl, rfl, _, _, rfl, rfl⟩
    · cases formatted

theorem receive_initiation_cases {h h' : Handshake P} {packet : HandshakeInit} {dst : Bytes} {ephemeralPrivate : Bytes32}
    {r : Except WireGuardError (Bytes × Session)}
    (received : h.receiveHandshakeInitialization packet dst ephemeralPrivate = .ok (h', r)) :
    h' = h ∧ (∃ e, r = .error e) ∨
      ∃ timestamp hash chainingKey, openInitiation h.params packet = .ok (.ok (timestamp, hash, chainingKey)) ∧
        timestamp.after h.lastHandshakeTimestamp = true ∧
        formatHandshakeResponse { h with
            lastHandshakeTimestamp := timestamp
            previous := h.state
            state := .initReceived hash chainingKey packet.unencryptedEphemeral packet.senderIdx }
          dst ephemeralPrivate = .ok (h', r) := by
  rw [receive_initiation_eq] at received
  split at received
  · cases received
  · cases received
    exact .inl ⟨rfl, _, rfl⟩
  · rename_i timestamp hash chainingKey opened
    unfold acceptInitiation at received
    split at received
    · cases received
      exact .inl ⟨rfl, _, rfl⟩
    · rename_i fresh
      exact .inr ⟨timestamp, hash, chainingKey, opened, by simpa using fresh, received⟩

theorem receive_response_cases {h h' : Handshake P} {packet : HandshakeResponse} {now : Instant}
    {r : Except WireGuardError Session} (received : h.receiveHandshakeResponse packet now = .ok (h', r)) :
    h' = h ∧ (∃ e, r = .error e) ∨
      ∃ s isPrevious session rtt, awaiting h.state h.previous packet.receiverIdx = some (s, isPrevious) ∧
        r = .ok session ∧ session.receivingIndex = s.localIndex ∧
        h' = if isPrevious then { h with lastRtt := rtt, previous := .none } else { h with lastRtt := rtt, state := .none } := by
  simp only [receiveHandshakeResponse, bind, Except.bind, pure, Except.pure] at received
  split at received
  · cases received
    exact .inl ⟨rfl, _, rfl⟩
  · rename_i s isPrevious found
    split at received
    · cases received
    · split at received
      · cases received
        exact .inl ⟨rfl, _, rfl⟩
      · cases received
        exact .inr ⟨s, isPrevious, _, _, found, rfl, rfl, rfl⟩

theorem receive_cookie_reply_cases {h h' : Handshake P} {packet : PacketCookieReply} {r : Except WireGuardError Unit}
    (received : h.receiveCookieReply packet = .ok (h', r)) :
    h' = h ∧ (∃ e, r = .error e) ∨ ∃ cookie, h' = { h with cookies := { h.cookies with writeCookie := some cookie } } := by
  unfold receiveCookieReply at received
  split at received
  -- no mac1 was sent
  case h_2 =>
    cases received
    exact .inl ⟨rfl, _, rfl⟩
  case h_1 mac1 sent =>
    dsimp only at received
    split at received
    -- the index is not the last one sent
    · cases received
      exact .inl ⟨rfl, _, rfl⟩
    split at received
    -- a short cookie panics
    · cases received
    obtain ⟨nonce, -, received⟩ := Loop.bind_eq_ok.mp received
    obtain ⟨tag, -, received⟩ := Loop.bind_eq_ok.mp received
    split at received
    -- the cookie does not open
    · cases received
      exact .inl ⟨rfl, _, rfl⟩
    -- it opens, and is kept for mac2
    · cases received
      exact .inr ⟨_, rfl⟩

theorem set_static_private_cases {h h' : Handshake P} {privateKey publicKey : Bytes32}
    (changed : h.setStaticPrivate privateKey publicKey = .ok h') : ∃ params, h' = { h with params } := by
  simp only [setStaticPrivate, bind, Except.bind, pure, Except.pure] at changed
  split at changed
  · cases changed
  · cases changed
    exact ⟨_, rfl⟩

/-! The calls a tunnel makes on its handshake, as a transition system. The flag marks the calls
    of `format_handshake_initiation`. -/

inductive Step : Bool → Handshake P → Handshake P → Prop
  | formatInitiation (h : Handshake P) (dst : Bytes) (ephemeralPrivate : Bytes32) (now : Instant) :
      Step true h (h.formatHandshakeInitiation dst ephemeralPrivate now).1
  | receiveInitiation (h h' : Handshake P) (packet : HandshakeInit) (dst : Bytes) (ephemeralPrivate : Bytes32)
      (r : Except WireGuardError (Bytes × Session)) :
      h.receiveHandshakeInitialization packet dst ephemeralPrivate = .ok (h', r) → Step false h h'
  | receiveResponse (h h' : Handshake P) (packet : HandshakeResponse) (now : Instant)
      (r : Except WireGuardError Session) :
      h.receiveHandshakeResponse packet now = .ok (h', r) → Step false h h'
  | receiveCookieReply (h h' : Handshake P) (packet : PacketCookieReply) (r : Except WireGuardError Unit) :
      h.receiveCookieReply packet = .ok (h', r) → Step false h h'
  | setExpired (h : Handshake P) : Step false h h.setExpired
  | setStaticPrivate (h h' : Handshake P) (privateKey publicKey : Bytes32) :
      h.setStaticPrivate privateKey publicKey = .ok h' → Step false h h'

def Run (h h' : Handshake P) : Prop := Relation.ReflTransGen (fun h h' => ∃ initiates, Step initiates h h') h h'

def Reachable (h : Handshake P) : Prop :=
  ∃ staticPrivate staticPublic peerStaticPublic globalIdx presharedKey stamper,
    Run (Handshake.new P staticPrivate staticPublic peerStaticPublic globalIdx presharedKey stamper) h

/-! The timestamp of the last accepted initiation never moves back, and an accepted initiation
    moves it strictly forward to the timestamp it carries. -/

theorem accepted_stamp {h h' : Handshake P} {packet : HandshakeInit} {dst : Bytes} {ephemeralPrivate : Bytes32}
    {out : Bytes × Session} (received : h.receiveHandshakeInitialization packet dst ephemeralPrivate = .ok (h', .ok out)) :
    ∃ timestamp hash chainingKey, openInitiation h.params packet = .ok (.ok (timestamp, hash, chainingKey)) ∧
      timestamp.after h.lastHandshakeTimestamp = true ∧ h'.lastHandshakeTimestamp = timestamp := by
  rcases receive_initiation_cases received with ⟨-, _, failed⟩ | ⟨timestamp, hash, chainingKey, opened, fresh, formatted⟩
  · cases failed
  · rcases format_response_cases formatted with ⟨-, failed⟩ | ⟨-, -, -, -, stamp, -⟩
    · cases failed
    · exact ⟨timestamp, hash, chainingKey, opened, fresh, stamp⟩

theorem step_stamp {initiates : Bool} {h h' : Handshake P} (step : Step initiates h h') :
    h'.lastHandshakeTimestamp.NotBefore h.lastHandshakeTimestamp := by
  cases step with
  | formatInitiation _ dst ephemeralPrivate now =>
      rcases formatted : h.formatHandshakeInitiation dst ephemeralPrivate now with ⟨h', r⟩
      rcases format_initiation_cases formatted with rfl | ⟨-, -, -, stamp, -⟩
      · exact Tai64N.not_before_refl _
      · exact .inl stamp
  | receiveInitiation _ h' packet dst ephemeralPrivate r received =>
      rcases receive_initiation_cases received with ⟨rfl, -⟩ | ⟨timestamp, _, _, _, fresh, formatted⟩
      · exact Tai64N.not_before_refl _
      -- the new timestamp is stored before the response is formatted, and the formatting keeps it
      · rcases format_response_cases formatted with ⟨rfl, -⟩ | ⟨-, -, -, -, stamp, -⟩
        · exact .inr fresh
        · rw [stamp]
          exact .inr fresh
  | receiveResponse _ h' packet now r received =>
      rcases receive_response_cases received with ⟨rfl, -⟩ | ⟨_, isPrevious, _, _, _, _, _, rfl⟩
      · exact Tai64N.not_before_refl _
      · cases isPrevious <;> exact Tai64N.not_before_refl _
  | receiveCookieReply _ h' packet r received =>
      rcases receive_cookie_reply_cases received with ⟨rfl, -⟩ | ⟨-, rfl⟩ <;> exact Tai64N.not_before_refl _
  | setExpired => exact Tai64N.not_before_refl _
  | setStaticPrivate _ h' privateKey publicKey changed =>
      obtain ⟨-, rfl⟩ := set_static_private_cases changed
      exact Tai64N.not_before_refl _

theorem run_stamp {h h' : Handshake P} (run : Run h h') :
    h'.lastHandshakeTimestamp.NotBefore h.lastHandshakeTimestamp := by
  induction run with
  | refl => exact Tai64N.not_before_refl _
  | tail _ step later =>
      obtain ⟨_, step⟩ := step
      exact (step_stamp step).trans later

/-! `state` holds the initiation sent last, under the index handed out last, and `previous` one
    sent before it under another index. -/

structure Paired (h : Handshake P) : Prop where
  current : ∀ s, h.state = .initSent s → s.localIndex = h.nextIndex
  apart : ∀ s s', h.state = .initSent s → h.previous = .initSent s' → s.localIndex ≠ s'.localIndex

theorem Paired.of_eq {h h' : Handshake P} (paired : Paired h) (state : h'.state = h.state)
    (previous : h'.previous = h.previous) (next : h'.nextIndex = h.nextIndex) : Paired h' := by
  refine ⟨fun s sent => ?_, fun s s' sent earlier => ?_⟩
  · rw [next]
    exact paired.current s (state ▸ sent)
  · exact paired.apart s s' (state ▸ sent) (previous ▸ earlier)

theorem paired_of_not_sent {h : Handshake P} (idle : ∀ s, h.state ≠ .initSent s) : Paired h :=
  ⟨fun s sent => absurd sent (idle s), fun s _ sent => absurd sent (idle s)⟩

theorem paired_new (staticPrivate staticPublic peerStaticPublic : Bytes32) (globalIdx : UInt32)
    (presharedKey : Option Bytes32) (stamper : TimeStamper) :
    Paired (Handshake.new P staticPrivate staticPublic peerStaticPublic globalIdx presharedKey stamper) :=
  paired_of_not_sent fun _ sent => by cases sent

theorem receive_initiation_paired {h h' : Handshake P} {packet : HandshakeInit} {dst : Bytes}
    {ephemeralPrivate : Bytes32} {r : Except WireGuardError (Bytes × Session)} (paired : Paired h)
    (received : h.receiveHandshakeInitialization packet dst ephemeralPrivate = .ok (h', r)) : Paired h' := by
  rcases receive_initiation_cases received with ⟨rfl, -⟩ | ⟨_, _, _, _, _, formatted⟩
  · exact paired
  · rcases format_response_cases formatted with ⟨rfl, -⟩ | ⟨-, idle, -⟩
    · exact paired_of_not_sent fun _ sent => by cases sent
    · exact paired_of_not_sent fun _ sent => by rw [idle] at sent; cases sent

theorem step_paired {initiates : Bool} {h h' : Handshake P} (step : Step initiates h h') (paired : Paired h) :
    Paired h' := by
  cases step with
  | formatInitiation _ dst ephemeralPrivate now =>
      rcases formatted : h.formatHandshakeInitiation dst ephemeralPrivate now with ⟨h', r⟩
      rcases format_initiation_cases formatted with rfl | ⟨-, previous, next, -, s, state, index⟩
      · exact paired
      -- the new initiation takes the next index, the old one keeps the index it was sent under
      · refine ⟨fun s' sent => ?_, fun s' s'' sent earlier => ?_⟩
        · rw [state] at sent
          cases sent
          rw [index, next]
        · rw [state] at sent
          cases sent
          rw [previous] at earlier
          rw [index, paired.current s'' earlier]
          exact inc_index_ne h
  | receiveInitiation _ h' packet dst ephemeralPrivate r received => exact receive_initiation_paired paired received
  | receiveResponse _ h' packet now r received =>
      rcases receive_response_cases received with ⟨rfl, -⟩ | ⟨_, isPrevious, _, _, _, _, _, rfl⟩
      · exact paired
      · cases isPrevious
        · exact paired_of_not_sent fun _ sent => by cases sent
        · exact ⟨paired.current, fun _ _ _ earlier => by cases earlier⟩
  | receiveCookieReply _ h' packet r received =>
      rcases receive_cookie_reply_cases received with ⟨rfl, -⟩ | ⟨-, rfl⟩
      · exact paired
      · exact paired.of_eq rfl rfl rfl
  | setExpired => exact paired_of_not_sent fun _ sent => by cases sent
  | setStaticPrivate _ h' privateKey publicKey changed =>
      obtain ⟨-, rfl⟩ := set_static_private_cases changed
      exact paired.of_eq rfl rfl rfl

theorem reachable_paired {h : Handshake P} (reachable : Reachable h) : Paired h := by
  obtain ⟨staticPrivate, staticPublic, peerStaticPublic, globalIdx, presharedKey, stamper, run⟩ := reachable
  induction run with
  | refl => exact paired_new staticPrivate staticPublic peerStaticPublic globalIdx presharedKey stamper
  | tail _ step paired =>
      obtain ⟨_, step⟩ := step
      exact step_paired step paired

/-! Once a response to `receiverIdx` is taken, neither slot waits for it any more, and only a new
    initiation can make one wait again. -/

def NotAwaiting (receiverIdx : UInt32) (h : Handshake P) : Prop :=
  h.state.sentWith receiverIdx = none ∧ h.previous.sentWith receiverIdx = none

theorem sent_with_some {state : HandshakeState} {receiverIdx : UInt32} {s : HandshakeInitSentState}
    (sent : state.sentWith receiverIdx = some s) : state = .initSent s ∧ s.localIndex = receiverIdx := by
  cases state with
  | initSent s' =>
      simp only [HandshakeState.sentWith] at sent
      split at sent
      · cases sent
        exact ⟨rfl, by assumption⟩
      · cases sent
  | _ => cases sent

theorem awaiting_index {state previous : HandshakeState} {receiverIdx : UInt32} {s : HandshakeInitSentState}
    {isPrevious : Bool} (found : awaiting state previous receiverIdx = some (s, isPrevious)) :
    s.localIndex = receiverIdx := by
  unfold awaiting at found
  split at found
  · cases found
    exact (sent_with_some ‹_›).2
  · cases found
    exact (sent_with_some ‹_›).2
  · cases found

theorem receive_initiation_index {h h' : Handshake P} {packet : HandshakeInit} {dst : Bytes}
    {ephemeralPrivate : Bytes32} {m : Bytes} {s : Session}
    (received : h.receiveHandshakeInitialization packet dst ephemeralPrivate = .ok (h', .ok (m, s))) :
    s.receivingIndex = h'.nextIndex := by
  rcases receive_initiation_cases received with ⟨-, _, failed⟩ | ⟨_, _, _, -, -, formatted⟩
  · cases failed
  · rcases format_response_cases formatted with ⟨-, failed⟩ | ⟨-, -, -, next, -, m', s', answered, index⟩
    · cases failed
    · cases answered
      rw [index, next]

theorem format_response_session {h h' : Handshake P} {dst : Bytes} {ephemeralPrivate : Bytes32} {m : Bytes}
    {s : Session} (formatted : h.formatHandshakeResponse dst ephemeralPrivate = .ok (h', .ok (m, s))) :
    s.receivingIndex = h.incIndex.2 ∧ s.receivingKeyCounter = ReceivingKeyCounterValidator.default := by
  unfold formatHandshakeResponse at formatted
  split at formatted
  · cases formatted
  · split at formatted
    · cases formatted
      exact ⟨rfl, rfl⟩
    · cases formatted

theorem receive_initiation_session {h h' : Handshake P} {packet : HandshakeInit} {dst : Bytes}
    {ephemeralPrivate : Bytes32} {m : Bytes} {s : Session}
    (received : h.receiveHandshakeInitialization packet dst ephemeralPrivate = .ok (h', .ok (m, s))) :
    s.receivingIndex = h.incIndex.2 ∧ s.receivingKeyCounter = ReceivingKeyCounterValidator.default := by
  rcases receive_initiation_cases received with ⟨-, _, failed⟩ | ⟨_, _, _, -, -, formatted⟩
  · cases failed
  · -- the response is formatted from `h` with its timestamp and state replaced, and its index
    have fresh := format_response_session formatted
    exact fresh

theorem receive_response_index {h h' : Handshake P} {packet : HandshakeResponse} {now : Instant} {s : Session}
    (received : h.receiveHandshakeResponse packet now = .ok (h', .ok s)) : s.receivingIndex = packet.receiverIdx := by
  rcases receive_response_cases received with ⟨-, _, failed⟩ | ⟨_, _, _, _, found, answered, index, -⟩
  · cases failed
  · cases answered
    rw [index, awaiting_index found]

theorem response_not_awaiting {h h' : Handshake P} {packet : HandshakeResponse} {now : Instant} {session : Session}
    (paired : Paired h) (received : h.receiveHandshakeResponse packet now = .ok (h', .ok session)) :
    NotAwaiting packet.receiverIdx h' := by
  rcases receive_response_cases received with ⟨-, _, failed⟩ | ⟨s, isPrevious, -, -, found, -, -, rfl⟩
  · cases failed
  · unfold awaiting at found
    split at found
    -- the current initiation answered: the previous one cannot carry the same index
    · rename_i current
      cases found
      refine ⟨rfl, ?_⟩
      cases earlier : h.previous.sentWith packet.receiverIdx with
      | none => exact earlier
      | some s' =>
          obtain ⟨sent, index⟩ := sent_with_some current
          obtain ⟨sent', index'⟩ := sent_with_some earlier
          exact absurd (index.trans index'.symm) (paired.apart s s' sent sent')
    · rename_i notCurrent _
      cases found
      exact ⟨notCurrent, rfl⟩
    · cases found

theorem step_not_awaiting {receiverIdx : UInt32} {h h' : Handshake P} (step : Step false h h')
    (waiting : NotAwaiting receiverIdx h) : NotAwaiting receiverIdx h' := by
  cases step with
  | receiveInitiation _ h' packet dst ephemeralPrivate r received =>
      rcases receive_initiation_cases received with ⟨rfl, -⟩ | ⟨_, _, _, _, _, formatted⟩
      · exact waiting
      -- the current slot moves to `previous`, and `InitReceived` waits for no response
      · rcases format_response_cases formatted with ⟨rfl, -⟩ | ⟨-, idle, previous, -⟩
        · exact ⟨rfl, waiting.1⟩
        · rw [NotAwaiting, idle, previous]
          exact ⟨rfl, waiting.1⟩
  | receiveResponse _ h' packet now r received =>
      rcases receive_response_cases received with ⟨rfl, -⟩ | ⟨_, isPrevious, _, _, _, _, _, rfl⟩
      · exact waiting
      · cases isPrevious
        · exact ⟨rfl, waiting.2⟩
        · exact ⟨waiting.1, rfl⟩
  | receiveCookieReply _ h' packet r received =>
      rcases receive_cookie_reply_cases received with ⟨rfl, -⟩ | ⟨-, rfl⟩
      · exact waiting
      · exact waiting
  | setExpired => exact ⟨rfl, rfl⟩
  | setStaticPrivate _ h' privateKey publicKey changed =>
      obtain ⟨-, rfl⟩ := set_static_private_cases changed
      exact waiting

theorem not_awaiting_unexpected {receiverIdx : UInt32} {h : Handshake P} (waiting : NotAwaiting receiverIdx h)
    (packet : HandshakeResponse) (now : Instant) (addressed : packet.receiverIdx = receiverIdx) :
    h.receiveHandshakeResponse packet now = .ok (h, .error .unexpectedPacket) := by
  have none : awaiting h.state h.previous packet.receiverIdx = none := by
    rw [awaiting, addressed, waiting.1, waiting.2]
  simp only [receiveHandshakeResponse, none, pure, Except.pure]

theorem quiet_run_not_awaiting {receiverIdx : UInt32} {h h' : Handshake P}
    (run : Relation.ReflTransGen (Step false) h h') (waiting : NotAwaiting receiverIdx h) :
    NotAwaiting receiverIdx h' := by
  induction run with
  | refl => exact waiting
  | tail _ step waiting' => exact step_not_awaiting step waiting'

end Handshake

open Handshake in
theorem handshake_anti_replay {P : Primitives} :
    (∀ (h1 h2 h3 h4 : Handshake P) (packet packet' : HandshakeInit) (dst dst' : Bytes)
        (ephemeralPrivate ephemeralPrivate' : Bytes32) (out out' : Bytes × Session),
      h1.receiveHandshakeInitialization packet dst ephemeralPrivate = .ok (h2, .ok out) → Run h2 h3 →
      h3.receiveHandshakeInitialization packet' dst' ephemeralPrivate' = .ok (h4, .ok out') →
      ∃ timestamp timestamp',
        (∃ hash chainingKey, openInitiation h1.params packet = .ok (.ok (timestamp, hash, chainingKey))) ∧
        (∃ hash chainingKey, openInitiation h3.params packet' = .ok (.ok (timestamp', hash, chainingKey))) ∧
        timestamp'.after timestamp = true) ∧
    (∀ (h1 h2 h3 : Handshake P) (packet : HandshakeInit) (dst dst' : Bytes) (ephemeralPrivate ephemeralPrivate' : Bytes32)
        (out : Bytes × Session),
      h1.receiveHandshakeInitialization packet dst ephemeralPrivate = .ok (h2, .ok out) → Run h2 h3 →
      h3.params = h1.params →
      h3.receiveHandshakeInitialization packet dst' ephemeralPrivate' = .ok (h3, .error .wrongTai64nTimestamp)) ∧
    (∀ h : Handshake P, Reachable h → ∀ s s', h.state = .initSent s → h.previous = .initSent s' →
      s.localIndex ≠ s'.localIndex) ∧
    (∀ (h h1 h2 : Handshake P) (packet packet' : HandshakeResponse) (now now' : Instant) (session : Session),
      Reachable h → h.receiveHandshakeResponse packet now = .ok (h1, .ok session) →
      Relation.ReflTransGen (Step false) h1 h2 → packet'.receiverIdx = packet.receiverIdx →
      h2.receiveHandshakeResponse packet' now' = .ok (h2, .error .unexpectedPacket)) := by
  refine ⟨?increasing, ?replayed, ?apart, ?answered⟩
  case increasing =>
    intro h1 h2 h3 h4 packet packet' dst dst' ephemeralPrivate ephemeralPrivate' out out' first run second
    obtain ⟨timestamp, hash, chainingKey, opened, -, stored⟩ := accepted_stamp first
    obtain ⟨timestamp', hash', chainingKey', opened', fresh, -⟩ := accepted_stamp second
    -- the run keeps the stored timestamp or moves it on, and the second one is after that
    have later : h3.lastHandshakeTimestamp.NotBefore timestamp := stored ▸ run_stamp run
    exact ⟨timestamp, timestamp', ⟨hash, chainingKey, opened⟩, ⟨hash', chainingKey', opened'⟩,
      Tai64N.after_of_after_of_not_before fresh later⟩
  case replayed =>
    intro h1 h2 h3 packet dst dst' ephemeralPrivate ephemeralPrivate' out first run keys
    obtain ⟨timestamp, hash, chainingKey, opened, -, stored⟩ := accepted_stamp first
    have later : h3.lastHandshakeTimestamp.NotBefore timestamp := stored ▸ run_stamp run
    -- under the same keys the initiation opens to the same timestamp, which is no longer fresh
    rw [receive_initiation_eq, keys, opened]
    simp only [acceptInitiation, Tai64N.not_after_of_not_before later, Bool.not_false, if_true]
  case apart =>
    intro h reachable
    exact (reachable_paired reachable).apart
  case answered =>
    intro h h1 h2 packet packet' now now' session reachable accepted run addressed
    have waiting := response_not_awaiting (reachable_paired reachable) accepted
    exact not_awaiting_unexpected (quiet_run_not_awaiting run waiting) packet' now' addressed

-- The initiation of `plainInitiation` answered by `plainResponder`, and then replayed to it.
open Handshake in
theorem plain_handshake_anti_replay :
    ∃ h2 out, plainResponder.receiveHandshakeInitialization
        ⟨7, Vector.replicate 32 3, plainInitiation.encryptedStatic, plainInitiation.encryptedTimestamp⟩
        (List.replicate 92 0) (Vector.replicate 32 4) = .ok (h2, .ok out) ∧
      h2.receiveHandshakeInitialization
        ⟨7, Vector.replicate 32 3, plainInitiation.encryptedStatic, plainInitiation.encryptedTimestamp⟩
        (List.replicate 92 0) (Vector.replicate 32 5) = .ok (h2, .error .wrongTai64nTimestamp) := by
  have accepted := receive_initiation_accepts Primitives.plain_open_seal plainResponder
    ⟨7, Vector.replicate 32 3, plainInitiation.encryptedStatic, plainInitiation.encryptedTimestamp⟩ (List.replicate 92 0)
    (Vector.replicate 32 4) plainStamp rfl rfl rfl (by decide)
  dsimp only at accepted
  rw [format_response_refines _ _ _ _ _ _ _ rfl (by simp [handshakeRespSz])] at accepted
  exact ⟨_, _, accepted, handshake_anti_replay.2.1 _ _ _ _ _ _ _ _ _ accepted .refl rfl⟩

end Boringtun.Noise
