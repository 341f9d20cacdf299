import Mathlib
import Boringtun.Noise.RateLimiter
import Boringtun.Noise.Timers

set_option autoImplicit false

/- `noise/mod.rs`: a point-to-point tunnel. It owns the handshake, a ring of the eight most
   recent sessions, the queue of packets waiting for a session, the timers and a rate limiter,
   which is either its own or the device's `Arc` (the model keeps the limiter's state in the
   tunnel). Every operation that may format a handshake message or read the clock takes the
   clock reading and the ephemeral secret `OsRng` would give. A panic is an `Except String`
   error; the `dst` buffer is passed for its length, and results carry what was written to it. -/
namespace Boringtun.Noise

def peerHandshakeRateLimit : UInt64 := 10
def maxQueueDepth : ℕ := 256

structure Tunn (P : Primitives) where
  handshake : Handshake P
  sessions : Vector (Option Session) nSessions
  current : ℕ
  packetQueue : List Bytes
  timers : Timers
  txBytes : ℕ
  rxBytes : ℕ
  rateLimiter : RateLimiter

namespace Tunn

variable {P : Primitives}

def new (P : Primitives) (staticPrivate peerStaticPublic : Bytes32) (presharedKey : Option Bytes32)
    (persistentKeepalive : Option UInt16) (index : UInt32) (rateLimiter : Option RateLimiter)
    (stamper : TimeStamper) (now : Instant) (nonceKey : Bytes32) (secretKey : Bytes16) : Tunn P :=
  let staticPublic := P.publicKey staticPrivate
  { handshake := Handshake.new P staticPrivate staticPublic peerStaticPublic (index <<< 8) presharedKey stamper
    sessions := Vector.replicate nSessions none
    current := 0
    txBytes := 0
    rxBytes := 0
    packetQueue := []
    timers := Timers.new persistentKeepalive rateLimiter.isNone now
    rateLimiter :=
      rateLimiter.getD (RateLimiter.new P staticPublic peerHandshakeRateLimit nonceKey secretKey now) }

-- A new static key: the limiter is the device's if one is given, else a new one of the tunnel's,
-- and every session is dropped.
def setStaticPrivate (t : Tunn P) (staticPrivate staticPublic : Bytes32) (rateLimiter : Option RateLimiter)
    (nonceKey : Bytes32) (secretKey : Bytes16) (now : Instant) : Except String (Tunn P) := do
  let t := { t with
    timers := { t.timers with shouldResetRr := rateLimiter.isNone }
    rateLimiter := rateLimiter.getD (RateLimiter.new P staticPublic peerHandshakeRateLimit nonceKey secretKey now) }
  let handshake ← t.handshake.setStaticPrivate staticPrivate staticPublic
  return { t with handshake, sessions := Vector.replicate nSessions none }

theorem set_static_private_handshake {t t' : Tunn P} {staticPrivate staticPublic : Bytes32}
    {rateLimiter : Option RateLimiter} {nonceKey : Bytes32} {secretKey : Bytes16} {now : Instant}
    (changed : t.setStaticPrivate staticPrivate staticPublic rateLimiter nonceKey secretKey now = .ok t') :
    ∃ params : NoiseParams P, t'.handshake = { t.handshake with params } ∧ params.staticPrivate = staticPrivate ∧
      params.staticPublic = staticPublic ∧ params.peerStaticPublic = t.handshake.params.peerStaticPublic := by
  simp only [setStaticPrivate, bind, Except.bind, pure, Except.pure] at changed
  cases keyed : t.handshake.setStaticPrivate staticPrivate staticPublic with
  | error e => simp [keyed] at changed
  | ok h =>
      simp only [keyed, Except.ok.injEq] at changed
      subst changed
      simp only [Handshake.setStaticPrivate, bind, Except.bind, pure, Except.pure] at keyed
      split at keyed
      · cases keyed
      · rename_i params opened
        cases keyed
        unfold NoiseParams.setStaticPrivate at opened
        split at opened
        · cases opened
        · cases opened
          exact ⟨_, rfl, rfl, rfl, rfl⟩

theorem set_static_private_next_index {t t' : Tunn P} {staticPrivate staticPublic : Bytes32}
    {rateLimiter : Option RateLimiter} {nonceKey : Bytes32} {secretKey : Bytes16} {now : Instant}
    (changed : t.setStaticPrivate staticPrivate staticPublic rateLimiter nonceKey secretKey now = .ok t') :
    t'.handshake.nextIndex = t.handshake.nextIndex := by
  obtain ⟨params, handshake, -⟩ := set_static_private_handshake changed
  rw [handshake]

theorem set_static_private_ok (t : Tunn P) (staticPrivate : Bytes32) (rateLimiter : Option RateLimiter)
    (nonceKey : Bytes32) (secretKey : Bytes16) (now : Instant) :
    ∃ t', t.setStaticPrivate staticPrivate (P.publicKey staticPrivate) rateLimiter nonceKey secretKey now = .ok t' := by
  simp [setStaticPrivate, Handshake.setStaticPrivate, NoiseParams.setStaticPrivate, bind, Except.bind, pure,
    Except.pure]

def timerTick (t : Tunn P) (name : TimerName) : Tunn P := { t with timers := t.timers.tick name }

def timerTickSessionEstablished (t : Tunn P) (isInitiator : Bool) (sessionIdx : ℕ) : Tunn P :=
  { t with timers := t.timers.sessionEstablished isInitiator sessionIdx }

def session (t : Tunn P) (index : ℕ) : Option Session := getElem t.sessions (slot index) (slot_lt index)

def setSession (t : Tunn P) (index : ℕ) (s : Option Session) : Tunn P :=
  { t with sessions := t.sessions.set (slot index) s (slot_lt index) }

theorem session_set_session_of_slot (t : Tunn P) {index other : ℕ} (s : Option Session) (same : slot index = slot other) :
    (t.setSession index s).session other = s := by
  simp [session, setSession, same]

@[simp] theorem session_set_session (t : Tunn P) (index : ℕ) (s : Option Session) :
    (t.setSession index s).session index = s :=
  session_set_session_of_slot t s rfl

theorem session_set_session_ne (t : Tunn P) {index other : ℕ} (s : Option Session) (apart : slot index ≠ slot other) :
    (t.setSession index s).session other = t.session other := by
  simp [session, setSession, Vector.getElem_set_ne _ _ (Fin.val_ne_of_ne apart)]

theorem session_congr (t t' : Tunn P) (sessions : t'.sessions = t.sessions) (index : ℕ) :
    t'.session index = t.session index := by
  simp [session, sessions]

@[simp] theorem session_timer_tick (t : Tunn P) (name : TimerName) (index : ℕ) :
    (t.timerTick name).session index = t.session index := rfl

@[simp] theorem current_timer_tick (t : Tunn P) (name : TimerName) : (t.timerTick name).current = t.current := rfl

@[simp] theorem session_timer_tick_session_established (t : Tunn P) (isInitiator : Bool) (sessionIdx index : ℕ) :
    (t.timerTickSessionEstablished isInitiator sessionIdx).session index = t.session index := rfl

@[simp] theorem current_timer_tick_session_established (t : Tunn P) (isInitiator : Bool) (sessionIdx : ℕ) :
    (t.timerTickSessionEstablished isInitiator sessionIdx).current = t.current := rfl

@[simp] theorem sessions_timer_tick (t : Tunn P) (name : TimerName) : (t.timerTick name).sessions = t.sessions := rfl

@[simp] theorem handshake_timer_tick (t : Tunn P) (name : TimerName) : (t.timerTick name).handshake = t.handshake := rfl

@[simp] theorem packet_queue_timer_tick (t : Tunn P) (name : TimerName) :
    (t.timerTick name).packetQueue = t.packetQueue := rfl

@[simp] theorem timers_timer_tick (t : Tunn P) (name : TimerName) : (t.timerTick name).timers = t.timers.tick name := rfl

@[simp] theorem sessions_timer_tick_session_established (t : Tunn P) (isInitiator : Bool) (sessionIdx : ℕ) :
    (t.timerTickSessionEstablished isInitiator sessionIdx).sessions = t.sessions := rfl

@[simp] theorem timers_timer_tick_session_established (t : Tunn P) (isInitiator : Bool) (sessionIdx : ℕ) :
    (t.timerTickSessionEstablished isInitiator sessionIdx).timers = t.timers.sessionEstablished isInitiator sessionIdx :=
  rfl

@[simp] theorem timers_set_session (t : Tunn P) (index : ℕ) (s : Option Session) :
    (t.setSession index s).timers = t.timers := rfl

-- Push packet to the back of the queue, dropping it when the queue is full.
def queuePacket (t : Tunn P) (packet : Bytes) : Tunn P :=
  if t.packetQueue.length < maxQueueDepth then { t with packetQueue := t.packetQueue ++ [packet] } else t

theorem queue_packet_of_lt (t : Tunn P) (packet : Bytes) (room : t.packetQueue.length < maxQueueDepth) :
    t.queuePacket packet = { t with packetQueue := t.packetQueue ++ [packet] } :=
  if_pos room

def requeuePacket (t : Tunn P) (packet : Bytes) : Tunn P :=
  if t.packetQueue.length < maxQueueDepth then { t with packetQueue := packet :: t.packetQueue } else t

def dequeuePacket (t : Tunn P) : Tunn P × Option Bytes :=
  match t.packetQueue with
  | [] => (t, none)
  | packet :: rest => ({ t with packetQueue := rest }, some packet)

-- `format_handshake_initiation`: a new initiation unless one is in progress and no resend is
-- forced.
def formatHandshakeInitiation (t : Tunn P) (dst : Bytes) (forceResend : Bool) (ephemeralPrivate : Bytes32)
    (now : Instant) : Tunn P × TunnResult :=
  if t.handshake.isInProgress && !forceResend then (t, .done)
  else
    let t := if t.handshake.isExpired then { t with timers := t.timers.clear now } else t
    let startingNewHandshake := !t.handshake.isInProgress
    match t.handshake.formatHandshakeInitiation dst ephemeralPrivate now with
    | (handshake, .ok packet) =>
        let t := { t with handshake }
        let t := if startingNewHandshake then t.timerTick .timeLastHandshakeStarted else t
        (t.timerTick .timeLastPacketSent, .writeToNetwork packet)
    | (handshake, .error e) => ({ t with handshake }, .err e)

-- `encapsulate`: through the current session if there is one, else the packet is queued and
-- a handshake started. The size of `dst` is asserted by `format_packet_data`.
def encapsulate (t : Tunn P) (src dst : Bytes) (ephemeralPrivate : Bytes32) (now : Instant) :
    Except String (Tunn P × TunnResult) :=
  let current := t.current
  match t.session current with
  | some session => do
      let (session, packet) ← session.formatPacketData P src dst
      let t := t.setSession current (some session)
      let t := t.timerTick .timeLastPacketSent
      -- Exclude Keepalive packets from timer update.
      let t := if src ≠ [] then t.timerTick .timeLastDataPacketSent else t
      return ({ t with txBytes := t.txBytes + src.length }, .writeToNetwork packet)
  | none =>
      let t := t.queuePacket src
      return t.formatHandshakeInitiation dst false ephemeralPrivate now

-- `set_current_session`: switch to the new session unless the current one is live and was
-- established later.
def setCurrentSession (t : Tunn P) (newIdx : ℕ) : Tunn P :=
  let curIdx := t.current
  if curIdx = newIdx then t
  else if (t.session curIdx).isNone ||
      getElem t.timers.sessionTimers (slot newIdx) (slot_lt newIdx) ≥
        getElem t.timers.sessionTimers (slot curIdx) (slot_lt curIdx) then
    { t with current := newIdx }
  else t

theorem ipv4_src_fits (packet : Bytes) (first : UInt8) (v4 : first >>> 4 = 4 ∧ ipv4MinHeaderSize ≤ packet.length) :
    ipv4SrcIpOff + ipv4IpSz ≤ packet.length := by
  simp only [ipv4SrcIpOff, ipv4IpSz, ipv4MinHeaderSize] at v4 ⊢
  omega

theorem ipv6_src_fits (packet : Bytes) (first : UInt8) (v6 : first >>> 4 = 6 ∧ ipv6MinHeaderSize ≤ packet.length) :
    ipv6SrcIpOff + ipv6IpSz ≤ packet.length := by
  simp only [ipv6SrcIpOff, ipv6IpSz, ipv6MinHeaderSize] at v6 ⊢
  omega

def ipHeader (packet : Bytes) : Option (ℕ × IpAddr) :=
  match packet with
  | [] => none
  | first :: _ =>
      if v4 : first >>> 4 = 4 ∧ ipv4MinHeaderSize ≤ packet.length then
        some ((Endian.u16FromBeBytes (packet.extract ipv4LenOff (ipv4LenOff + ipLenSz))).toNat,
          .v4 (arrayAt packet ipv4SrcIpOff ipv4IpSz (ipv4_src_fits packet first v4)))
      else if v6 : first >>> 4 = 6 ∧ ipv6MinHeaderSize ≤ packet.length then
        some ((Endian.u16FromBeBytes (packet.extract ipv6LenOff (ipv6LenOff + ipLenSz))).toNat + ipv6MinHeaderSize,
          .v6 (arrayAt packet ipv6SrcIpOff ipv6IpSz (ipv6_src_fits packet first v6)))
      else none

def validateDecapsulatedPacket (t : Tunn P) (packet : Bytes) : Tunn P × TunnResult :=
  if packet = [] then (t, .done) -- This is keepalive, and not an error
  else
    match ipHeader packet with
    | none => (t, .err .invalidPacket)
    | some (computedLen, srcIpAddress) =>
        if computedLen > packet.length then (t, .err .invalidPacket)
        else
          let t := t.timerTick .timeLastDataPacketReceived
          let t := { t with rxBytes := t.rxBytes + computedLen }
          match srcIpAddress with
          | .v4 addr => (t, .writeToTunnelV4 (packet.take computedLen) addr)
          | .v6 addr => (t, .writeToTunnelV6 (packet.take computedLen) addr)

def handleHandshakeInit (t : Tunn P) (p : HandshakeInit) (dst : Bytes) (ephemeralPrivate : Bytes32) :
    Except String (Tunn P × TunnResult) := do
  let (handshake, r) ← t.handshake.receiveHandshakeInitialization p dst ephemeralPrivate
  let t := { t with handshake }
  match r with
  | .error e => return (t, .err e)
  | .ok (packet, session) =>
      let index := session.localIndex
      let t := t.setSession index (some session)
      let t := t.timerTick .timeLastPacketReceived
      let t := t.timerTick .timeLastPacketSent
      -- New session established, we are not the initiator
      let t := t.timerTickSessionEstablished false index
      return (t, .writeToNetwork packet)

def handleHandshakeResponse (t : Tunn P) (p : HandshakeResponse) (dst : Bytes) (now : Instant) :
    Except String (Tunn P × TunnResult) := do
  let (handshake, r) ← t.handshake.receiveHandshakeResponse p now
  let t := { t with handshake }
  match r with
  | .error e => return (t, .err e)
  | .ok session =>
      let (session, keepalivePacket) ← session.formatPacketData P [] dst
      let lIdx := session.localIndex
      let index := lIdx % nSessions
      let t := t.setSession index (some session)
      let t := t.timerTick .timeLastPacketReceived
      -- New session established, we are the initiator
      let t := t.timerTickSessionEstablished true index
      let t := t.setCurrentSession lIdx
      return (t, .writeToNetwork keepalivePacket)

def handleCookieReply (t : Tunn P) (p : PacketCookieReply) : Except String (Tunn P × TunnResult) := do
  let (handshake, r) ← t.handshake.receiveCookieReply p
  let t := { t with handshake }
  match r with
  | .error e => return (t, .err e)
  | .ok () => return ((t.timerTick .timeLastPacketReceived).timerTick .timeCookieReceived, .done)

def handleData (t : Tunn P) (packet : PacketData) (dst : Bytes) : Except String (Tunn P × TunnResult) := do
  let rIdx := packet.receiverIdx.toNat
  match t.session rIdx with
  | none => return (t, .err .noCurrentSession)
  | some session =>
      let (session, r) ← session.receivePacketData P packet dst
      let t := t.setSession rIdx (some session)
      match r with
      | .error e => return (t, .err e)
      | .ok decapsulatedPacket =>
          let t := t.setCurrentSession rIdx
          let t := t.timerTick .timeLastPacketReceived
          return t.validateDecapsulatedPacket decapsulatedPacket

def handleVerifiedPacket (t : Tunn P) (packet : Packet) (dst : Bytes) (ephemeralPrivate : Bytes32) (now : Instant) :
    Except String (Tunn P × TunnResult) :=
  match packet with
  | .handshakeInit p => t.handleHandshakeInit p dst ephemeralPrivate
  | .handshakeResponse p => t.handleHandshakeResponse p dst now
  | .packetCookieReply p => t.handleCookieReply p
  | .packetData p => t.handleData p dst

def sendQueuedPacket (t : Tunn P) (dst : Bytes) (ephemeralPrivate : Bytes32) (now : Instant) :
    Except String (Tunn P × TunnResult) := do
  match t.dequeuePacket with
  | (t, none) => return (t, .done)
  | (t, some packet) =>
      match ← t.encapsulate packet dst ephemeralPrivate now with
      | (t, .err _) => return (t.requeuePacket packet, .done)
      | (t, r) => return (t, r)

-- `decapsulate`: an empty datagram flushes the queue; anything else passes the rate limiter,
-- whose cookie reply is written through a 64 byte buffer into `dst`.
def decapsulate (t : Tunn P) (srcAddr : Option IpAddr) (datagram dst : Bytes) (ephemeralPrivate : Bytes32)
    (now : Instant) : Except String (Tunn P × TunnResult) :=
  if datagram = [] then t.sendQueuedPacket dst ephemeralPrivate now
  else
    let cookie := List.replicate cookieReplySz 0
    match t.rateLimiter.verifyPacket P srcAddr datagram cookie now with
    | (rateLimiter, .ok packet) => ({ t with rateLimiter }).handleVerifiedPacket packet dst ephemeralPrivate now
    | (rateLimiter, .error (.writeToNetwork cookie)) =>
        if dst.length < cookie.length then .error "range end index out of range for slice"
        else .ok ({ t with rateLimiter }, .writeToNetwork cookie)
    | (rateLimiter, .error (.err e)) => .ok ({ t with rateLimiter }, .err e)
    | (_, .error _) => .error "internal error: entered unreachable code"

/-! What each call does on the path of a first exchange: a packet written before any session
    starts the handshake, the response installs the session, and the queue is flushed through
    it. -/

theorem encapsulate_without_session (t : Tunn P) (src dst : Bytes) (ephemeralPrivate : Bytes32) (now : Instant)
    (vacant : t.session t.current = none) :
    t.encapsulate src dst ephemeralPrivate now =
      .ok ((t.queuePacket src).formatHandshakeInitiation dst false ephemeralPrivate now) := by
  simp only [encapsulate, vacant]
  rfl

theorem encapsulate_with_session (t : Tunn P) (src dst : Bytes) (ephemeralPrivate : Bytes32) (now : Instant)
    (s s' : Session) (packet : Bytes) (current : t.session t.current = some s)
    (formatted : s.formatPacketData P src dst = .ok (s', packet)) :
    ∃ t', t.encapsulate src dst ephemeralPrivate now = .ok (t', .writeToNetwork packet) := by
  simp only [encapsulate, current, formatted, bind, Except.bind, pure, Except.pure]
  exact ⟨_, rfl⟩

-- An expired handshake has the timers cleared first, and nothing else of the tunnel moves.
theorem clear_expired_eq (t : Tunn P) (now : Instant) :
    ∃ timers, (if t.handshake.isExpired then { t with timers := t.timers.clear now } else t) = { t with timers } := by
  split
  · exact ⟨_, rfl⟩
  · exact ⟨t.timers, rfl⟩

theorem format_handshake_initiation_idle (t : Tunn P) (dst : Bytes) (forceResend : Bool) (ephemeralPrivate : Bytes32)
    (now : Instant) (idle : t.handshake.state = .none) (handshake : Handshake P) (packet : Bytes)
    (formatted : t.handshake.formatHandshakeInitiation dst ephemeralPrivate now = (handshake, .ok packet)) :
    t.formatHandshakeInitiation dst forceResend ephemeralPrivate now =
      ((({ t with handshake }).timerTick .timeLastHandshakeStarted).timerTick .timeLastPacketSent,
        .writeToNetwork packet) := by
  simp only [formatHandshakeInitiation, Handshake.isInProgress, Handshake.isExpired, idle, Bool.false_and,
    Bool.false_eq_true, if_false, formatted, Bool.not_false, if_true]

theorem format_handshake_initiation_in_progress (t : Tunn P) (dst : Bytes) (ephemeralPrivate : Bytes32) (now : Instant)
    (inProgress : t.handshake.isInProgress = true) :
    t.formatHandshakeInitiation dst false ephemeralPrivate now = (t, .done) := by
  simp [formatHandshakeInitiation, inProgress]

theorem encapsulate_queues (t : Tunn P) (src dst : Bytes) (ephemeralPrivate : Bytes32) (now : Instant)
    (vacant : t.session t.current = none) (inProgress : t.handshake.isInProgress = true)
    (room : t.packetQueue.length < maxQueueDepth) :
    t.encapsulate src dst ephemeralPrivate now = .ok ({ t with packetQueue := t.packetQueue ++ [src] }, .done) := by
  rw [encapsulate_without_session t src dst ephemeralPrivate now vacant, queue_packet_of_lt t src room]
  exact congrArg Except.ok (format_handshake_initiation_in_progress _ dst ephemeralPrivate now inProgress)

theorem send_queued_packet_of_encapsulate {t t' : Tunn P} {dst : Bytes} {ephemeralPrivate : Bytes32} {now : Instant}
    {packet : Bytes} {rest : List Bytes} {r : TunnResult} (queued : t.packetQueue = packet :: rest)
    (encapsulated : ({ t with packetQueue := rest } : Tunn P).encapsulate packet dst ephemeralPrivate now = .ok (t', r))
    (notErr : ∀ e, r ≠ .err e) :
    t.sendQueuedPacket dst ephemeralPrivate now = .ok (t', r) := by
  simp only [sendQueuedPacket, dequeuePacket, queued, encapsulated, bind, Except.bind]
  cases r with
  | err e => exact absurd rfl (notErr e)
  | _ => rfl

theorem decapsulate_verified (t : Tunn P) (srcAddr : Option IpAddr) (datagram dst : Bytes) (ephemeralPrivate : Bytes32)
    (now : Instant) (nonempty : datagram ≠ []) (rateLimiter : RateLimiter) (packet : Packet)
    (verified : t.rateLimiter.verifyPacket P srcAddr datagram (List.replicate cookieReplySz 0) now =
      (rateLimiter, .ok packet)) :
    t.decapsulate srcAddr datagram dst ephemeralPrivate now =
      ({ t with rateLimiter }).handleVerifiedPacket packet dst ephemeralPrivate now := by
  rw [decapsulate, if_neg nonempty]
  simp only [verified]

@[simp] theorem session_set_current_session (t : Tunn P) (newIdx index : ℕ) :
    (t.setCurrentSession newIdx).session index = t.session index := by
  unfold setCurrentSession
  dsimp only
  split_ifs <;> rfl

@[simp] theorem packet_queue_set_current_session (t : Tunn P) (newIdx : ℕ) :
    (t.setCurrentSession newIdx).packetQueue = t.packetQueue := by
  unfold setCurrentSession
  dsimp only
  split_ifs <;> rfl

@[simp] theorem sessions_set_current_session (t : Tunn P) (newIdx : ℕ) :
    (t.setCurrentSession newIdx).sessions = t.sessions := by
  unfold setCurrentSession
  dsimp only
  split_ifs <;> rfl

@[simp] theorem timers_set_current_session (t : Tunn P) (newIdx : ℕ) :
    (t.setCurrentSession newIdx).timers = t.timers := by
  unfold setCurrentSession
  dsimp only
  split_ifs <;> rfl

theorem set_current_session_switches (t : Tunn P) (newIdx : ℕ)
    (vacant : t.session t.current = none ∨ slot t.current = slot newIdx) :
    (t.setCurrentSession newIdx).current = newIdx := by
  unfold setCurrentSession
  dsimp only
  split_ifs with same kept
  · exact same
  · rfl
  · -- neither an empty slot nor the same slot can keep the old session
    exfalso
    rcases vacant with empty | shared
    · simp [empty] at kept
    · simp [shared] at kept

theorem set_current_session_of_le (t : Tunn P) (newIdx : ℕ)
    (later : getElem t.timers.sessionTimers (slot t.current) (slot_lt t.current) ≤
      getElem t.timers.sessionTimers (slot newIdx) (slot_lt newIdx)) :
    (t.setCurrentSession newIdx).current = newIdx := by
  unfold setCurrentSession
  dsimp only
  split_ifs with same kept
  · exact same
  · rfl
  · simp at kept
    exact absurd later (not_le.mpr kept.2)

theorem handle_handshake_response_establishes (t : Tunn P) (p : HandshakeResponse) (dst : Bytes) (now : Instant)
    (handshake : Handshake P) (session : Session)
    (received : t.handshake.receiveHandshakeResponse p now = .ok (handshake, .ok session))
    (roomy : dataOverheadSz ≤ dst.length) (vacant : t.session t.current = none) :
    ∃ t' keepalive, t.handleHandshakeResponse p dst now = .ok (t', .writeToNetwork keepalive) ∧
      t'.packetQueue = t.packetQueue ∧ t'.current = session.localIndex ∧
      t'.session t'.current = some { session with sendingKeyCounter := session.sendingKeyCounter + 1 } := by
  let installed := ((({ t with handshake }).setSession (session.localIndex % nSessions)
    (some { session with sendingKeyCounter := session.sendingKeyCounter + 1 })).timerTick
      .timeLastPacketReceived).timerTickSessionEstablished true (session.localIndex % nSessions)
  have sameSlot : slot (session.localIndex % nSessions) = slot session.localIndex := by
    simp [slot]
  -- the current slot is now empty, or it is the one the session went into
  have switch : installed.session installed.current = none ∨ slot installed.current = slot session.localIndex := by
    by_cases shared : slot t.current = slot session.localIndex
    · exact .inr shared
    · left
      simp only [installed, session_timer_tick_session_established, session_timer_tick,
        current_timer_tick_session_established, current_timer_tick]
      rw [session_set_session_ne _ _ (by rw [sameSlot]; exact Ne.symm shared)]
      exact vacant
  have current := set_current_session_switches installed session.localIndex switch
  -- the keepalive is the empty data message of the new session
  refine ⟨installed.setCurrentSession session.localIndex, Endian.u32ToLeBytes data ++
    Endian.u32ToLeBytes session.sendingIndex ++ Endian.u64ToLeBytes session.sendingKeyCounter ++
    aeadChacha20Seal P session.sender session.sendingKeyCounter [] [], ?_, packet_queue_set_current_session _ _,
    current, ?_⟩
  · simp only [handleHandshakeResponse, received, bind, Except.bind, pure, Except.pure,
      Session.format_packet_data_eq P session [] dst (by simpa using roomy)]
    rfl
  · rw [current, session_set_current_session]
    exact session_set_session_of_slot _ _ sameSlot

theorem send_queued_packet_overflows (t : Tunn P) (dst : Bytes) (ephemeralPrivate : Bytes32) (now : Instant)
    (packet : Bytes) (rest : List Bytes) (s : Session) (queued : t.packetQueue = packet :: rest)
    (current : t.session t.current = some s) (short : dst.length < packet.length + dataOverheadSz) :
    t.sendQueuedPacket dst ephemeralPrivate now = .error "The destination buffer is too small" := by
  have overflows : s.formatPacketData P packet dst = .error "The destination buffer is too small" := by
    simp [Session.formatPacketData, short]
  simp only [sendQueuedPacket, dequeuePacket, queued, encapsulate]
  simp only [session] at current ⊢
  simp only [current, overflows, bind, Except.bind]

end Tunn

end Boringtun.Noise
