import Boringtun.Noise.Session

set_option autoImplicit false

/- `noise/handshake.rs`: the Noise IKpsk2 handshake of one peer. The ephemeral secrets drawn from
   `OsRng` and the readings of the monotonic clock are arguments of the operations that take
   them. -/
namespace Boringtun.Noise

abbrev Instant := ℕ
abbrev Duration := ℕ

-- `Instant::duration_since`: zero when `earlier` is later.
def Instant.durationSince (now earlier : Instant) : Duration := now - earlier

def labelMac1 : Bytes := "mac1----".toList.map Char.toUInt8
def labelCookie : Bytes := "cookie--".toList.map Char.toUInt8

def keyLen : ℕ := 32
def timestampLen : ℕ := 12

-- initiator.chaining_key = HASH(CONSTRUCTION)
def initialChainKey : Bytes32 :=
  #v[96, 226, 109, 174, 243, 39, 239, 192, 46, 195, 53, 226, 160, 37, 210, 208, 22, 235, 66, 6, 248,
    114, 119, 245, 45, 56, 209, 152, 139, 120, 205, 54]

-- initiator.chaining_hash = HASH(initiator.chaining_key || IDENTIFIER)
def initialChainHash : Bytes32 :=
  #v[34, 17, 179, 97, 8, 26, 197, 102, 105, 18, 67, 219, 69, 138, 213, 50, 45, 156, 108, 102, 34,
    147, 232, 183, 14, 225, 156, 101, 186, 7, 158, 243]

def zeroKey : Bytes32 := Vector.replicate 32 0

structure Tai64N where
  secs : UInt64
  nano : UInt32
deriving DecidableEq, Repr

namespace Tai64N

def zero : Tai64N := ⟨0, 0⟩

-- Parse a timestamp from a 12 byte slice. WireGuard does not expect a true TAI64N
-- timestamp, just a monotonically increasing one, so nothing is range-checked.
def parse (buf : Bytes) : Tai64N :=
  ⟨Endian.u64FromBeBytes (buf.take 8), Endian.u32FromBeBytes (buf.drop 8)⟩

def after (t other : Tai64N) : Bool :=
  t.secs > other.secs || (t.secs == other.secs && t.nano > other.nano)

theorem after_irrefl (t : Tai64N) : t.after t = false := by
  simp [after]

theorem ne_of_after {t other : Tai64N} (later : t.after other = true) : t ≠ other := by
  rintro rfl
  simp [after_irrefl] at later

theorem after_trans {t u v : Tai64N} (tu : t.after u = true) (uv : u.after v = true) : t.after v = true := by
  simp only [after, Bool.or_eq_true, Bool.and_eq_true, beq_iff_eq, decide_eq_true_eq] at tu uv ⊢
  rcases tu with secs | ⟨secs, nano⟩ <;> rcases uv with secs' | ⟨secs', nano'⟩
  · exact .inl (UInt64.lt_trans secs' secs)
  · exact .inl (secs' ▸ secs)
  · exact .inl (secs ▸ secs')
  · exact .inr ⟨secs.trans secs', UInt32.lt_trans nano' nano⟩

end Tai64N

structure TimeStamper where
  durationAtStart : Duration
  instantAtStart : Instant
deriving DecidableEq, Repr

-- `TimeStamper::stamp`: TAI64 seconds big-endian, then the nanoseconds big-endian. The
-- addition of the TAI64 base wraps as `u64` addition does in a release build.
def TimeStamper.stamp (t : TimeStamper) (now : Instant) : Bytes :=
  let tai64Base : UInt64 := ((1 : UInt64) <<< 62) + 37
  let stamp := now.durationSince t.instantAtStart + t.durationAtStart
  Endian.u64ToBeBytes (UInt64.ofNat (stamp / 1000000000) + tai64Base) ++
    Endian.u32ToBeBytes (UInt32.ofNat (stamp % 1000000000))

-- Parameters used by the noise protocol. The three derived keys are computed once in
-- `NoiseParams::new` and kept in step by `set_static_private`; the structure records how.
structure NoiseParams (P : Primitives) where
  staticPublic : Bytes32
  staticPrivate : Bytes32
  peerStaticPublic : Bytes32
  staticShared : Bytes32
  sendingMac1Key : Bytes32
  cookieKey : Bytes32
  presharedKey : Option Bytes32
  static_shared_eq : staticShared = P.diffieHellman staticPrivate peerStaticPublic
  sending_mac1_key_eq : sendingMac1Key = b2sHash P labelMac1 peerStaticPublic.toList
  cookie_key_eq : cookieKey = b2sHash P labelCookie peerStaticPublic.toList

namespace NoiseParams

variable {P : Primitives}

def new (P : Primitives) (staticPrivate staticPublic peerStaticPublic : Bytes32) (presharedKey : Option Bytes32) :
    NoiseParams P :=
  { staticPublic, staticPrivate, peerStaticPublic
    staticShared := P.diffieHellman staticPrivate peerStaticPublic
    sendingMac1Key := b2sHash P labelMac1 peerStaticPublic.toList
    cookieKey := b2sHash P labelCookie peerStaticPublic.toList
    presharedKey
    static_shared_eq := rfl
    sending_mac1_key_eq := rfl
    cookie_key_eq := rfl }

def setStaticPrivate (params : NoiseParams P) (staticPrivate staticPublic : Bytes32) :
    Except String (NoiseParams P) :=
  if P.publicKey staticPrivate ≠ staticPublic then .error "assertion failed: check_key == static_public"
  else
    .ok { params with
      staticPrivate, staticPublic
      staticShared := P.diffieHellman staticPrivate params.peerStaticPublic
      static_shared_eq := rfl }

def KeyPair (params : NoiseParams P) : Prop := params.staticPublic = P.publicKey params.staticPrivate

end NoiseParams

structure HandshakeInitSentState where
  localIndex : UInt32
  hash : Bytes32
  chainingKey : Bytes32
  ephemeralPrivate : Bytes32
  timeSent : Instant
deriving DecidableEq, Repr

inductive HandshakeState where
  | none
  | initSent (s : HandshakeInitSentState)
  | initReceived (hash chainingKey peerEphemeralPublic : Bytes32) (peerIndex : UInt32)
  | expired
deriving DecidableEq, Repr

def HandshakeState.sentWith (receiverIdx : UInt32) : HandshakeState → Option HandshakeInitSentState
  | .initSent s => if s.localIndex = receiverIdx then some s else Option.none
  | _ => Option.none

-- `match (&self.state, &self.previous)` in `receive_handshake_response`: the initiation sent
-- with `receiverIdx`, and whether it is the previous one.
def awaiting (state previous : HandshakeState) (receiverIdx : UInt32) : Option (HandshakeInitSentState × Bool) :=
  match state.sentWith receiverIdx, previous.sentWith receiverIdx with
  | some s, _ => some (s, false)
  | Option.none, some s => some (s, true)
  | Option.none, Option.none => Option.none

theorem sent_with_self (s : HandshakeInitSentState) : (HandshakeState.initSent s).sentWith s.localIndex = some s := by
  simp [HandshakeState.sentWith]

theorem sent_with_other (s : HandshakeInitSentState) (receiverIdx : UInt32) (other : s.localIndex ≠ receiverIdx) :
    (HandshakeState.initSent s).sentWith receiverIdx = Option.none := by
  simp [HandshakeState.sentWith, other]

theorem awaiting_current {state previous : HandshakeState} {receiverIdx : UInt32} {s : HandshakeInitSentState}
    (current : state.sentWith receiverIdx = some s) : awaiting state previous receiverIdx = some (s, false) := by
  rw [awaiting, current]

theorem awaiting_previous {state previous : HandshakeState} {receiverIdx : UInt32} {s : HandshakeInitSentState}
    (notCurrent : state.sentWith receiverIdx = Option.none) (earlier : previous.sentWith receiverIdx = some s) :
    awaiting state previous receiverIdx = some (s, true) := by
  rw [awaiting, notCurrent, earlier]

structure Cookies where
  lastMac1 : Option Bytes16 := none
  index : UInt32 := 0
  writeCookie : Option Bytes16 := none
deriving DecidableEq, Repr

structure Handshake (P : Primitives) where
  params : NoiseParams P
  nextIndex : UInt32
  -- A second outgoing handshake may be in flight: a delayed response to it is still taken.
  previous : HandshakeState
  state : HandshakeState
  cookies : Cookies
  lastHandshakeTimestamp : Tai64N
  stamper : TimeStamper
  lastRtt : Option UInt32

namespace Handshake

variable {P : Primitives}

def new (P : Primitives) (staticPrivate staticPublic peerStaticPublic : Bytes32) (globalIdx : UInt32)
    (presharedKey : Option Bytes32) (stamper : TimeStamper) : Handshake P :=
  { params := NoiseParams.new P staticPrivate staticPublic peerStaticPublic presharedKey
    nextIndex := globalIdx
    previous := .none
    state := .none
    lastHandshakeTimestamp := Tai64N.zero
    stamper
    cookies := {}
    lastRtt := none }

def isInProgress (h : Handshake P) : Bool :=
  match h.state with
  | .none | .expired => false
  | _ => true

def timer (h : Handshake P) : Option Instant :=
  match h.state with
  | .initSent s => some s.timeSent
  | _ => none

def setExpired (h : Handshake P) : Handshake P := { h with previous := .expired, state := .expired }

def isExpired (h : Handshake P) : Bool :=
  match h.state with
  | .expired => true
  | _ => false

def hasCookie (h : Handshake P) : Bool := h.cookies.writeCookie.isSome

def clearCookie (h : Handshake P) : Handshake P := { h with cookies := { h.cookies with writeCookie := none } }

-- The index is 24 bits of peer index and 8 bits of cyclic session index.
def incIndex (h : Handshake P) : Handshake P × UInt32 :=
  let index := h.nextIndex
  let idx8 := index.toUInt8
  let nextIndex := (index &&& ~~~0xff) ||| (idx8 + 1).toUInt32
  ({ h with nextIndex }, nextIndex)

def setStaticPrivate (h : Handshake P) (privateKey publicKey : Bytes32) : Except String (Handshake P) := do
  let params ← h.params.setStaticPrivate privateKey publicKey
  return { h with params }

-- Compute and append mac1 and mac2 to a handshake message. Both callers pass exactly the
-- message's bytes, so `dst.len() - 32` cannot underflow.
def appendMac1AndMac2 (h : Handshake P) (localIndex : UInt32) (dst : Bytes) : Handshake P × Bytes :=
  let mac1Off := dst.length - 32
  let mac2Off := dst.length - 16
  let msgMac1 := b2sKeyedMac16 P h.params.sendingMac1Key.toList (dst.take mac1Off)
  let dst := dst.take mac1Off ++ msgMac1.toList ++ dst.drop mac2Off
  let msgMac2 : Bytes16 :=
    match h.cookies.writeCookie with
    | some cookie => b2sKeyedMac16 P cookie.toList (dst.take mac2Off)
    | none => Vector.replicate 16 0
  let dst := dst.take mac2Off ++ msgMac2.toList
  ({ h with cookies := { h.cookies with index := localIndex, lastMac1 := some msgMac1 } }, dst)

def formatHandshakeInitiation (h : Handshake P) (dst : Bytes) (ephemeralPrivate : Bytes32) (now : Instant) :
    Handshake P × Except WireGuardError Bytes :=
  if dst.length < handshakeInitSz then (h, .error .destinationBufferTooSmall)
  else
    let (h, localIndex) := h.incIndex
    let hash := b2sHash P initialChainHash.toList h.params.peerStaticPublic.toList
    let unencryptedEphemeral := P.publicKey ephemeralPrivate
    let hash := b2sHash P hash.toList unencryptedEphemeral.toList
    let chainingKey := b2sKdf1 P initialChainKey.toList unencryptedEphemeral.toList
    let ephemeralShared := P.diffieHellman ephemeralPrivate h.params.peerStaticPublic
    let (chainingKey, key) := b2sKdf2 P chainingKey.toList ephemeralShared.toList
    let encryptedStatic := aeadChacha20Seal P key 0 h.params.staticPublic.toList hash.toList
    let hash := b2sHash P hash.toList encryptedStatic
    let (chainingKey, key) := b2sKdf2 P chainingKey.toList h.params.staticShared.toList
    let timestamp := h.stamper.stamp now
    let encryptedTimestamp := aeadChacha20Seal P key 0 timestamp hash.toList
    let hash := b2sHash P hash.toList encryptedTimestamp
    let h := { h with
      previous := h.state
      state := .initSent { localIndex, chainingKey, hash, ephemeralPrivate, timeSent := now } }
    let message := Endian.u32ToLeBytes handshakeInit ++ Endian.u32ToLeBytes localIndex ++
      unencryptedEphemeral.toList ++ encryptedStatic ++ encryptedTimestamp
    let (h, packet) := h.appendMac1AndMac2 localIndex (message ++ (dst.take handshakeInitSz).drop 116)
    (h, .ok packet)

-- `format_handshake_response`, reached only from `receive_handshake_initialization`, which has
-- just stored the `InitReceived` state it consumes.
def formatHandshakeResponse (h : Handshake P) (dst : Bytes) (ephemeralPrivate : Bytes32) :
    Except String (Handshake P × Except WireGuardError (Bytes × Session)) :=
  if dst.length < handshakeRespSz then .ok (h, .error .destinationBufferTooSmall)
  else
    match h.state with
    | .initReceived hash chainingKey peerEphemeralPublic peerIndex =>
        let h := { h with state := .none }
        let (h, localIndex) := h.incIndex
        let unencryptedEphemeral := P.publicKey ephemeralPrivate
        let hash := b2sHash P hash.toList unencryptedEphemeral.toList
        let chainingKey := b2sKdf1 P chainingKey.toList unencryptedEphemeral.toList
        let ephemeralShared := P.diffieHellman ephemeralPrivate peerEphemeralPublic
        let chainingKey := b2sKdf1 P chainingKey.toList ephemeralShared.toList
        let chainingKey :=
          b2sKdf1 P chainingKey.toList (P.diffieHellman ephemeralPrivate h.params.peerStaticPublic).toList
        let (chainingKey, temp2, key) := b2sKdf3 P chainingKey.toList (h.params.presharedKey.getD zeroKey).toList
        let hash := b2sHash P hash.toList temp2.toList
        let encryptedNothing := aeadChacha20Seal P key 0 [] hash.toList
        let (temp2, temp3) := b2sKdf2 P chainingKey.toList []
        let message := Endian.u32ToLeBytes handshakeResp ++ Endian.u32ToLeBytes localIndex ++
          Endian.u32ToLeBytes peerIndex ++ unencryptedEphemeral.toList ++ encryptedNothing
        let (h, packet) := h.appendMac1AndMac2 localIndex (message ++ (dst.take handshakeRespSz).drop 60)
        .ok (h, .ok (packet, Session.new localIndex peerIndex temp2 temp3))
    | _ => .error "Unexpected attempt to call send_handshake_response"

-- `receive_handshake_initialization`: nothing changes until the timestamp has been accepted;
-- from there on the new timestamp and the `InitReceived` state stay, even when the response
-- then does not fit in `dst`.
def receiveHandshakeInitialization (h : Handshake P) (packet : HandshakeInit) (dst : Bytes)
    (ephemeralPrivate : Bytes32) : Except String (Handshake P × Except WireGuardError (Bytes × Session)) := do
  let hash := b2sHash P initialChainHash.toList h.params.staticPublic.toList
  let peerIndex := packet.senderIdx
  let peerEphemeralPublic := packet.unencryptedEphemeral
  let hash := b2sHash P hash.toList peerEphemeralPublic.toList
  let chainingKey := b2sKdf1 P initialChainKey.toList peerEphemeralPublic.toList
  let ephemeralShared := P.diffieHellman h.params.staticPrivate peerEphemeralPublic
  let (chainingKey, key) := b2sKdf2 P chainingKey.toList ephemeralShared.toList
  match ← aeadChacha20Open P keyLen key 0 packet.encryptedStatic hash.toList with
  | .error e => return (h, .error e)
  | .ok peerStaticPublicDecrypted =>
      if h.params.peerStaticPublic.toList ≠ peerStaticPublicDecrypted then return (h, .error .wrongKey)
      let hash := b2sHash P hash.toList packet.encryptedStatic
      let (chainingKey, key) := b2sKdf2 P chainingKey.toList h.params.staticShared.toList
      match ← aeadChacha20Open P timestampLen key 0 packet.encryptedTimestamp hash.toList with
      | .error e => return (h, .error e)
      | .ok timestamp =>
          let timestamp := Tai64N.parse timestamp
          if !timestamp.after h.lastHandshakeTimestamp then return (h, .error .wrongTai64nTimestamp)
          let hash := b2sHash P hash.toList packet.encryptedTimestamp
          let h := { h with
            lastHandshakeTimestamp := timestamp
            previous := h.state
            state := .initReceived hash chainingKey peerEphemeralPublic peerIndex }
          h.formatHandshakeResponse dst ephemeralPrivate

def receiveHandshakeResponse (h : Handshake P) (packet : HandshakeResponse) (now : Instant) :
    Except String (Handshake P × Except WireGuardError Session) := do
  match awaiting h.state h.previous packet.receiverIdx with
  | none => return (h, .error .unexpectedPacket)
  | some (state, isPrevious) =>
      let peerIndex := packet.senderIdx
      let localIndex := state.localIndex
      let unencryptedEphemeral := packet.unencryptedEphemeral
      let hash := b2sHash P state.hash.toList unencryptedEphemeral.toList
      let chainingKey := (b2sKdf2 P state.chainingKey.toList unencryptedEphemeral.toList).1
      let ephemeralShared := P.diffieHellman state.ephemeralPrivate unencryptedEphemeral
      let chainingKey := b2sKdf1 P chainingKey.toList ephemeralShared.toList
      let chainingKey :=
        b2sKdf1 P chainingKey.toList (P.diffieHellman h.params.staticPrivate unencryptedEphemeral).toList
      let (chainingKey, temp2, key) := b2sKdf3 P chainingKey.toList (h.params.presharedKey.getD zeroKey).toList
      let hash := b2sHash P hash.toList temp2.toList
      match ← aeadChacha20Open P 0 key 0 packet.encryptedNothing hash.toList with
      | .error e => return (h, .error e)
      | .ok _ =>
          let (temp2, temp3) := b2sKdf2 P chainingKey.toList []
          let rttTime := now.durationSince state.timeSent
          -- `as_millis() as u32` keeps the low 32 bits
          let h := { h with lastRtt := some (UInt32.ofNat (rttTime / 1000000)) }
          let h := if isPrevious then { h with previous := .none } else { h with state := .none }
          return (h, .ok (Session.new localIndex peerIndex temp3 temp2))

def cookieSize : ℕ := 16

def receiveCookieReply (h : Handshake P) (packet : PacketCookieReply) :
    Except String (Handshake P × Except WireGuardError Unit) := do
  let some mac1 := h.cookies.lastMac1 | return (h, .error .unexpectedPacket)
  let localIndex := h.cookies.index
  if packet.receiverIdx ≠ localIndex then return (h, .error .wrongIndex)
  if short : packet.encryptedCookie.length < cookieSize then throw "range end index out of range for slice"
  else
    let cookie := packet.encryptedCookie.take cookieSize
    let nonce ← fromSlice 24 packet.nonce
    let tag ← fromSlice 16 (packet.encryptedCookie.drop cookieSize)
    match P.xOpen h.params.cookieKey nonce mac1.toList cookie tag with
    | none => return (h, .error .invalidAeadTag)
    | some opened =>
        let cookie : Bytes16 := ⟨opened.1.toArray, by simp [opened.2, cookie, cookieSize] at short ⊢; omega⟩
        return ({ h with cookies := { h.cookies with writeCookie := some cookie } }, .ok ())

@[simp] theorem append_mac_params (h : Handshake P) (localIndex : UInt32) (dst : Bytes) :
    (h.appendMac1AndMac2 localIndex dst).1.params = h.params := rfl

@[simp] theorem append_mac_state (h : Handshake P) (localIndex : UInt32) (dst : Bytes) :
    (h.appendMac1AndMac2 localIndex dst).1.state = h.state := rfl

@[simp] theorem append_mac_previous (h : Handshake P) (localIndex : UInt32) (dst : Bytes) :
    (h.appendMac1AndMac2 localIndex dst).1.previous = h.previous := rfl

@[simp] theorem append_mac_next_index (h : Handshake P) (localIndex : UInt32) (dst : Bytes) :
    (h.appendMac1AndMac2 localIndex dst).1.nextIndex = h.nextIndex := rfl

theorem format_initiation_too_small (h : Handshake P) (dst : Bytes) (ephemeralPrivate : Bytes32) (now : Instant)
    (small : dst.length < handshakeInitSz) :
    h.formatHandshakeInitiation dst ephemeralPrivate now = (h, .error .destinationBufferTooSmall) := by
  rw [formatHandshakeInitiation, if_pos small]

theorem format_response_too_small (h : Handshake P) (dst : Bytes) (ephemeralPrivate : Bytes32)
    (small : dst.length < handshakeRespSz) :
    h.formatHandshakeResponse dst ephemeralPrivate = .ok (h, .error .destinationBufferTooSmall) := by
  rw [formatHandshakeResponse, if_pos small]

/-! Session indices. The high 24 bits of every index a handshake hands out are those of the
    value it was created with; the low 8 bits count sessions modulo 256. -/

theorem inc_index_toNat (h : Handshake P) :
    h.incIndex.2.toNat = 256 * (h.nextIndex.toNat / 256) + (h.nextIndex.toNat % 256 + 1) % 256 := by
  have mask : UInt32.size - 1 - UInt32.toNat 255 = 2 ^ 32 - 2 ^ 8 := by decide
  have low : (h.nextIndex.toUInt8 + 1).toUInt32.toNat = (h.nextIndex.toNat % 256 + 1) % 256 := by simp
  simp only [incIndex, UInt32.toNat_or, UInt32.toNat_and, UInt32.toNat_not]
  rw [mask, low, Word.and_high_mask_or _ 32 8 _ h.nextIndex.toNat_lt (by decide) (by omega)]
  rfl

@[simp] theorem inc_index_next (h : Handshake P) : h.incIndex.1.nextIndex = h.incIndex.2 := rfl

theorem inc_index_ne (h : Handshake P) : h.incIndex.2 ≠ h.nextIndex := by
  intro same
  have lows := congrArg (fun i : UInt32 => i.toNat % 256) same
  simp only [inc_index_toNat] at lows
  omega

-- The MACs `append_mac1_and_mac2` writes behind a message: mac1 under the key derived from the
-- peer's static key, mac2 under the last cookie received, or zeros without one.
def msgMac1 (h : Handshake P) (message : Bytes) : Bytes16 := b2sKeyedMac16 P h.params.sendingMac1Key.toList message

def msgMac2 (h : Handshake P) (message : Bytes) : Bytes16 :=
  match h.cookies.writeCookie with
  | some cookie => b2sKeyedMac16 P cookie.toList (message ++ (h.msgMac1 message).toList)
  | none => Vector.replicate 16 0

theorem append_mac1_and_mac2_eq (h : Handshake P) (localIndex : UInt32) (message rest : Bytes)
    (macRoom : rest.length = 32) :
    h.appendMac1AndMac2 localIndex (message ++ rest) =
      ({ h with cookies := { h.cookies with index := localIndex, lastMac1 := some (h.msgMac1 message) } },
        message ++ (h.msgMac1 message).toList ++ (h.msgMac2 message).toList) := by
  have mac1Off : (message ++ rest).length - 32 = message.length := by simp [macRoom]
  have mac2Off : (message ++ rest).length - 16 = message.length + 16 := by simp [macRoom]
  have tail : (message ++ rest).drop (message.length + 16) = rest.drop 16 := by
    simp [List.drop_append]
  have macLen : (h.msgMac1 message).toList.length = 16 := by simp
  simp only [appendMac1AndMac2, mac1Off, mac2Off, List.take_left', tail]
  unfold msgMac2
  cases h.cookies.writeCookie <;> simp [msgMac1, List.take_append, List.take_of_length_le]

end Handshake

structure HalfHandshake where
  peerIndex : UInt32
  peerStaticPublic : Bytes32
deriving DecidableEq, Repr

-- `parse_handshake_anon`: the start of `receive_handshake_initialization` under the device's own
-- key, far enough to read which static key sent an initiation.
def parseHandshakeAnon (P : Primitives) (staticPrivate staticPublic : Bytes32) (packet : HandshakeInit) :
    Except String (Except WireGuardError HalfHandshake) := do
  let peerIndex := packet.senderIdx
  let hash := b2sHash P initialChainHash.toList staticPublic.toList
  let peerEphemeralPublic := packet.unencryptedEphemeral
  let hash := b2sHash P hash.toList peerEphemeralPublic.toList
  let chainingKey := b2sKdf1 P initialChainKey.toList peerEphemeralPublic.toList
  let ephemeralShared := P.diffieHellman staticPrivate peerEphemeralPublic
  let (_, key) := b2sKdf2 P chainingKey.toList ephemeralShared.toList
  match ← aeadChacha20Open P keyLen key 0 packet.encryptedStatic hash.toList with
  | .error e => return .error e
  | .ok decrypted =>
      -- the opened bytes fill the `[u8; KEY_LEN]` buffer exactly, or the open panicked already
      let peerStaticPublic ← fromSlice 32 decrypted
      return .ok { peerIndex, peerStaticPublic }

end Boringtun.Noise
