import Boringtun.Serialization
import Boringtun.Noise.Messages
import Boringtun.Noise.TunnTimers

set_option autoImplicit false

/- `export.rs`: the tunnel as mobile clients see it through `uniffi`. The `Tunn` sits behind a
   mutex; a panic inside a call unwinds through the guard and poisons it, and every later
   `lock` fails. The `dst` buffer of each call is allocated there, sized from its argument. -/
namespace Boringtun

open Noise

def minBufferSize : ℕ := 148

inductive TunnelResult where
  | done
  | err (e : WireGuardError)
  | writeToNetwork (packet : Bytes)
  | writeToTunnelV4 (packet : Bytes)
  | writeToTunnelV6 (packet : Bytes)
deriving DecidableEq, Repr

def TunnelResult.ofTunnResult : TunnResult → TunnelResult
  | .done => .done
  | .err e => .err e
  | .writeToNetwork bytes => .writeToNetwork bytes
  | .writeToTunnelV4 bytes _ => .writeToTunnelV4 bytes
  | .writeToTunnelV6 bytes _ => .writeToTunnelV6 bytes

structure TunnelStats where
  txBytes : UInt64
  rxBytes : UInt64
  lastHandshake : UInt64
deriving DecidableEq, Repr

structure Tunnel (P : Primitives) where
  tunn : Tunn P
  poisoned : Bool

namespace Tunnel

variable {P : Primitives}

-- The keys are parsed first; a panic there reaches the caller before any mutex exists. The
-- tunnel gets a rate limiter of its own.
def new (P : Primitives) (engine : Base64) (privateKey serverPublicKey : String) (presharedKey : Option String)
    (keepAlive : Option UInt16) (index : UInt32) (stamper : TimeStamper) (now : Instant) (nonceKey : Bytes32)
    (secretKey : Bytes16) : Except String (Except KeyBytesError (Tunnel P)) := ExceptT.run do
  let privateKey ← ExceptT.mk (KeyBytes.fromString engine privateKey)
  let serverPublicKey ← ExceptT.mk (KeyBytes.fromString engine serverPublicKey)
  let presharedKey ← match presharedKey with
    | some key => some <$> ExceptT.mk (KeyBytes.fromString engine key)
    | none => pure none
  return ⟨Tunn.new P privateKey serverPublicKey presharedKey keepAlive index none stamper now nonceKey secretKey, false⟩

-- `self.0.lock()` around a call: `Err(LockFailed)` once the mutex is poisoned, and a panic in the
-- call poisons it.
def withLock (tunnel : Tunnel P) (call : Tunn P → Except String (Tunn P × TunnResult)) :
    Tunnel P × Except String TunnelResult :=
  if tunnel.poisoned then (tunnel, .ok (.err .lockFailed))
  else
    match call tunnel.tunn with
    | .ok (tunn, result) => ({ tunnel with tunn }, .ok (.ofTunnResult result))
    | .error msg => ({ tunnel with poisoned := true }, .error msg)

def tick (tunnel : Tunnel P) (ephemeralPrivate : Bytes32) (now : Instant) : Tunnel P × Except String TunnelResult :=
  let dst := List.replicate minBufferSize 0
  tunnel.withLock fun tunn => tunn.updateTimers dst ephemeralPrivate now

def forceHandshake (tunnel : Tunnel P) (ephemeralPrivate : Bytes32) (now : Instant) :
    Tunnel P × Except String TunnelResult :=
  let dst := List.replicate minBufferSize 0
  tunnel.withLock fun tunn => .ok (tunn.formatHandshakeInitiation dst true ephemeralPrivate now)

def read (tunnel : Tunnel P) (src : Bytes) (ephemeralPrivate : Bytes32) (now : Instant) :
    Tunnel P × Except String TunnelResult :=
  let dstLen := max (src.length + 32) minBufferSize
  let dst := List.replicate dstLen 0
  tunnel.withLock fun tunn => tunn.decapsulate none src dst ephemeralPrivate now

def write (tunnel : Tunnel P) (src : Bytes) (ephemeralPrivate : Bytes32) (now : Instant) :
    Tunnel P × Except String TunnelResult :=
  let dstLen := max (src.length + 32) minBufferSize
  let dst := List.replicate dstLen 0
  tunnel.withLock fun tunn => tunn.encapsulate src dst ephemeralPrivate now

-- A poisoned mutex gives zeros; `sinceEpoch` is the reading of `SystemTime::now()`.
def stats (tunnel : Tunnel P) (now : Instant) (sinceEpoch : Duration) : Tunnel P × Except String TunnelStats :=
  if tunnel.poisoned then (tunnel, .ok ⟨0, 0, 0⟩)
  else
    let read : Except String TunnelStats := do
      let (_, txBytes, rxBytes, _) ← tunnel.tunn.stats now
      let lastHandshake ← tunnel.tunn.lastHandshakeTime now sinceEpoch
      return { txBytes := UInt64.ofNat txBytes, rxBytes := UInt64.ofNat rxBytes
               lastHandshake := UInt64.ofNat ((lastHandshake.map (· / 1000000000)).getD 0) }
    match read with
    | .ok stats => (tunnel, .ok stats)
    | .error msg => ({ tunnel with poisoned := true }, .error msg)

theorem new_ok {engine : Base64} (privateKey serverPublicKey : String) (keepAlive : Option UInt16) (index : UInt32)
    (stamper : TimeStamper) (now : Instant) (nonceKey : Bytes32) (secretKey : Bytes16) (a b : Bytes32)
    (clientKey : KeyBytes.fromString engine privateKey = .ok (.ok a))
    (serverKey : KeyBytes.fromString engine serverPublicKey = .ok (.ok b)) :
    new P engine privateKey serverPublicKey none keepAlive index stamper now nonceKey secretKey =
      .ok (.ok ⟨Tunn.new P a b none keepAlive index none stamper now nonceKey secretKey, false⟩) := by
  simp only [new, clientKey, serverKey, ExceptT.run, ExceptT.mk, bind, ExceptT.bind, ExceptT.bindCont, pure,
    ExceptT.pure, Except.bind, Except.pure]

theorem with_lock_poisoned (tunnel : Tunnel P) (call : Tunn P → Except String (Tunn P × TunnResult))
    (poisoned : tunnel.poisoned = true) : tunnel.withLock call = (tunnel, .ok (.err .lockFailed)) := by
  simp [withLock, poisoned]

theorem with_lock_ok (tunnel : Tunnel P) (call : Tunn P → Except String (Tunn P × TunnResult))
    (healthy : tunnel.poisoned = false) (tunn : Tunn P) (result : TunnResult) (ran : call tunnel.tunn = .ok (tunn, result)) :
    tunnel.withLock call = (⟨tunn, false⟩, .ok (.ofTunnResult result)) := by
  simp only [withLock, healthy, ran, Bool.false_eq_true, if_false]

theorem with_lock_panics (tunnel : Tunnel P) (call : Tunn P → Except String (Tunn P × TunnResult))
    (healthy : tunnel.poisoned = false) (msg : String) (panicked : call tunnel.tunn = .error msg) :
    tunnel.withLock call = (⟨tunnel.tunn, true⟩, .error msg) := by
  simp only [withLock, healthy, panicked, Bool.false_eq_true, if_false]

theorem poisoned_lock_failed (tunnel : Tunnel P) (poisoned : tunnel.poisoned = true) (src : Bytes)
    (ephemeralPrivate : Bytes32) (now : Instant) :
    tunnel.read src ephemeralPrivate now = (tunnel, .ok (.err .lockFailed)) ∧
      tunnel.write src ephemeralPrivate now = (tunnel, .ok (.err .lockFailed)) ∧
      tunnel.tick ephemeralPrivate now = (tunnel, .ok (.err .lockFailed)) ∧
      tunnel.forceHandshake ephemeralPrivate now = (tunnel, .ok (.err .lockFailed)) := by
  simp only [read, write, tick, forceHandshake, with_lock_poisoned tunnel _ poisoned, and_self]

/-! The calls of a first exchange through the API: `write` before any session queues its
    packet and sends an initiation, `read` of the response installs the session, and `read` of
    the empty datagram then flushes the queue through a buffer sized for an empty packet. -/

theorem write_queues_packet (tunnel : Tunnel P) (healthy : tunnel.poisoned = false) (src : Bytes)
    (ephemeralPrivate : Bytes32) (now : Instant) (vacant : tunnel.tunn.session tunnel.tunn.current = none)
    (idle : tunnel.tunn.handshake.state = .none) (room : tunnel.tunn.packetQueue.length < maxQueueDepth)
    (handshake : Handshake P) (m : Bytes)
    (formatted : tunnel.tunn.handshake.formatHandshakeInitiation (List.replicate (max (src.length + 32) minBufferSize) 0)
      ephemeralPrivate now = (handshake, .ok m)) :
    tunnel.write src ephemeralPrivate now =
      (⟨(({ tunnel.tunn with packetQueue := tunnel.tunn.packetQueue ++ [src], handshake }).timerTick
        .timeLastHandshakeStarted).timerTick .timeLastPacketSent, false⟩, .ok (.writeToNetwork m)) := by
  simp only [write]
  apply with_lock_ok tunnel _ healthy _ (.writeToNetwork m)
  rw [Tunn.encapsulate_without_session _ _ _ _ _ vacant, Tunn.queuePacket, if_pos room]
  exact congrArg Except.ok (Tunn.format_handshake_initiation_idle
    { tunnel.tunn with packetQueue := tunnel.tunn.packetQueue ++ [src] } _ false ephemeralPrivate now idle handshake m
    formatted)

theorem read_installs_session (tunnel : Tunnel P) (healthy : tunnel.poisoned = false) (m : Bytes) (nonempty : m ≠ [])
    (ephemeralPrivate : Bytes32) (now : Instant) (rateLimiter : RateLimiter) (resp : HandshakeResponse)
    (verified : tunnel.tunn.rateLimiter.verifyPacket P none m (List.replicate cookieReplySz 0) now =
      (rateLimiter, .ok (.handshakeResponse resp)))
    (handshake : Handshake P) (session : Session)
    (received : tunnel.tunn.handshake.receiveHandshakeResponse resp now = .ok (handshake, .ok session))
    (vacant : tunnel.tunn.session tunnel.tunn.current = none) :
    ∃ tunn keepalive, tunnel.read m ephemeralPrivate now = (⟨tunn, false⟩, .ok (.writeToNetwork keepalive)) ∧
      tunn.packetQueue = tunnel.tunn.packetQueue ∧ ∃ s, tunn.session tunn.current = some s := by
  have roomy : dataOverheadSz ≤ (List.replicate (max (m.length + 32) minBufferSize) (0 : UInt8)).length := by
    simp [dataOverheadSz]
  obtain ⟨tunn, keepalive, handled, queue, -, current⟩ := Tunn.handle_handshake_response_establishes
    { tunnel.tunn with rateLimiter } resp _ now handshake session received roomy vacant
  refine ⟨tunn, keepalive, ?_, queue, _, current⟩
  simp only [read]
  apply with_lock_ok tunnel _ healthy tunn (.writeToNetwork keepalive)
  rw [Tunn.decapsulate_verified _ none m _ ephemeralPrivate now nonempty rateLimiter _ verified]
  exact handled

theorem read_flush_panics (tunnel : Tunnel P) (healthy : tunnel.poisoned = false) (ephemeralPrivate : Bytes32)
    (now : Instant) (packet : Bytes) (rest : List Bytes) (s : Session) (queued : tunnel.tunn.packetQueue = packet :: rest)
    (current : tunnel.tunn.session tunnel.tunn.current = some s) (large : minBufferSize < packet.length + dataOverheadSz) :
    tunnel.read [] ephemeralPrivate now = (⟨tunnel.tunn, true⟩, .error "The destination buffer is too small") := by
  simp only [read]
  apply with_lock_panics tunnel _ healthy
  -- the empty datagram gets the smallest buffer, 148 bytes
  rw [Tunn.decapsulate, if_pos rfl]
  exact Tunn.send_queued_packet_overflows _ _ ephemeralPrivate now packet rest s queued current
    (by simp [minBufferSize, dataOverheadSz] at large ⊢; omega)

end Tunnel

end Boringtun

namespace Boringtun

open Noise Handshake RateLimiter Tunnel in
theorem queued_packet_flush_poisons_tunnel {P : Primitives} {engine : Base64} (commutes : P.DhCommutes) (opens : P.OpenSeal)
    (privateKey serverPublicKey : String) (keepAlive : Option UInt16) (index : UInt32) (stamper : TimeStamper)
    (start : Instant) (nonceKey : Bytes32) (secretKey : Bytes16) (a : Bytes32) (B : Handshake P)
    (clientKey : KeyBytes.fromString engine privateKey = .ok (.ok a))
    (serverKey : KeyBytes.fromString engine serverPublicKey = .ok (.ok (P.publicKey B.params.staticPrivate)))
    (keysB : B.params.KeyPair) (bKnowsA : B.params.peerStaticPublic = P.publicKey a)
    (noPsk : B.params.presharedKey = none) (packet : Bytes) (large : minBufferSize < packet.length + dataOverheadSz)
    (e1 eB e2 e3 : Bytes32) (now1 now2 now3 : Instant)
    (fresh : (Tai64N.parse (stamper.stamp now1)).after B.lastHandshakeTimestamp = true)
    (dstB : Bytes) (roomyB : handshakeRespSz ≤ dstB.length) :
    ∃ T0, Tunnel.new P engine privateKey serverPublicKey none keepAlive index stamper start nonceKey secretKey = .ok (.ok T0) ∧
    ∃ T1 m1 init, T0.write packet e1 now1 = (T1, .ok (.writeToNetwork m1)) ∧
      parseIncomingPacket m1 = .ok (.handshakeInit init) ∧
    ∃ B1 m2 sB, B.receiveHandshakeInitialization init dstB eB = .ok (B1, .ok (m2, sB)) ∧
    ∃ T2 keepalive, T1.read m2 e2 now2 = (T2, .ok (.writeToNetwork keepalive)) ∧
    ∃ T3 msg, T2.read [] e3 now3 = (T3, .error msg) ∧ T3.poisoned = true ∧
      ∀ src ephemeralPrivate now, T3.read src ephemeralPrivate now = (T3, .ok (.err .lockFailed)) ∧
        T3.write src ephemeralPrivate now = (T3, .ok (.err .lockFailed)) := by
  -- the client: a fresh handshake, no session, an empty queue and a rate limiter of its own
  set t0 := Tunn.new P a (P.publicKey B.params.staticPrivate) none keepAlive index none stamper start nonceKey secretKey
  refine ⟨⟨t0, false⟩, new_ok privateKey serverPublicKey keepAlive index stamper start nonceKey secretKey a _
    clientKey serverKey, ?_⟩
  set A := t0.handshake
  have keysA : A.params.KeyPair := rfl
  have samePsk : A.params.presharedKey = B.params.presharedKey := noPsk.symm
  set dst1 := List.replicate (max (packet.length + 32) minBufferSize) (0 : UInt8)
  have roomy1 : handshakeInitSz ≤ dst1.length := by simp [dst1, minBufferSize, handshakeInitSz]
  obtain ⟨m1, sent, parsed1, B1, m2, received, parsed2⟩ :=
    responder_answers commutes opens A B keysA keysB rfl bKnowsA dst1 e1 now1 roomy1 fresh dstB roomyB eB
  -- `write`: no session yet, so the packet is queued and the initiation goes out
  have vacant0 : t0.session t0.current = none := by simp [t0, Tunn.new, Tunn.session]
  let t1 : Tunn P :=
    { t0 with packetQueue := t0.packetQueue ++ [packet], handshake := (A.formatHandshakeInitiation dst1 e1 now1).1 }
  let T1 : Tunnel P := ⟨(t1.timerTick .timeLastHandshakeStarted).timerTick .timeLastPacketSent, false⟩
  have wrote : (⟨t0, false⟩ : Tunnel P).write packet e1 now1 = (T1, .ok (.writeToNetwork m1)) :=
    write_queues_packet ⟨t0, false⟩ rfl packet e1 now1 vacant0 rfl (by simp [t0, Tunn.new, maxQueueDepth]) _ m1
      (Prod.ext rfl sent)
  refine ⟨_, m1, _, wrote, parsed1, B1, m2, _, received, ?_⟩
  -- the response carries the mac1 of the client's own public key, and the limiter is not loaded
  obtain ⟨message, idx, response, layout, parsed, sender, -, -⟩ :=
    call_sends (Call.receiveInitiation B B1 _ dstB eB (.ok (m2, _)) received) m2 rfl
  rw [parsed2] at parsed
  cases parsed
  set rl := t0.rateLimiter
  have mac1Ok := mac1_key_agrees (P.publicKey a) peerHandshakeRateLimit nonceKey secretKey start B rl
    (same_keys_refl rl) bKnowsA message
  have light : rl.count < rl.limit := by simp [rl, t0, Tunn.new, RateLimiter.new, peerHandshakeRateLimit]
  have accepted := verify_packet_accepts P rl none message _ _ (List.replicate cookieReplySz 0) now2 _ idx
    (by rw [← layout]; exact parsed2) sender mac1Ok (.inl light)
  rw [← layout] at accepted
  rcases verified : rl.verifyPacket P none m2 (List.replicate cookieReplySz 0) now2 with ⟨rl2, answer⟩
  rw [verified] at accepted
  subst accepted
  -- `read` of the response: the client completes the handshake and makes the session current
  obtain ⟨A3, replied⟩ := initiator_accepts commutes opens A B bKnowsA samePsk dst1 e1 now1 roomy1 _ (.inl rfl) eB now2
  have nonempty : m2 ≠ [] := by
    rintro rfl
    simp [parseIncomingPacket] at parsed2
  -- the ticks and the queued packet leave the sessions and the current index
  have vacant1 : T1.tunn.session T1.tunn.current = none := (Tunn.session_congr t0 T1.tunn rfl _).trans vacant0
  obtain ⟨t2, keepalive, readResponse, queue2, s, current2⟩ :=
    read_installs_session T1 rfl m2 nonempty e2 now2 rl2 _ verified A3 _ replied vacant1
  refine ⟨_, keepalive, readResponse, ⟨t2, true⟩, "The destination buffer is too small", ?_, rfl,
    fun src ephemeralPrivate now => ?_⟩
  -- `read` of the empty datagram flushes the queued packet into 148 bytes, and panics
  · exact read_flush_panics ⟨t2, false⟩ rfl e3 now3 packet [] s (by rw [queue2]; rfl) current2 large
  · obtain ⟨read3, write3, -, -⟩ := poisoned_lock_failed ⟨t2, true⟩ rfl src ephemeralPrivate now
    exact ⟨read3, write3⟩

open Noise in
theorem plain_queued_packet_flush_poisons_tunnel :
    ∃ T0, Tunnel.new Primitives.plain Base64.standard "0101010101010101010101010101010101010101010101010101010101010101"
        "0202020202020202020202020202020202020202020202020202020202020202" none none 1 ⟨1000000000, 0⟩ 0
        (Vector.replicate 32 0) (Vector.replicate 16 0) = .ok (.ok T0) ∧
    ∃ T1 m1 init, T0.write (List.replicate 200 0) (Vector.replicate 32 3) 0 = (T1, .ok (.writeToNetwork m1)) ∧
      parseIncomingPacket m1 = .ok (.handshakeInit init) ∧
    ∃ B1 m2 sB, plainResponder.receiveHandshakeInitialization init (List.replicate 92 0) (Vector.replicate 32 4) =
        .ok (B1, .ok (m2, sB)) ∧
    ∃ T2 keepalive, T1.read m2 (Vector.replicate 32 5) 0 = (T2, .ok (.writeToNetwork keepalive)) ∧
    ∃ T3 msg, T2.read [] (Vector.replicate 32 6) 0 = (T3, .error msg) ∧ T3.poisoned = true ∧
      ∀ src ephemeralPrivate now, T3.read src ephemeralPrivate now = (T3, .ok (.err .lockFailed)) ∧
        T3.write src ephemeralPrivate now = (T3, .ok (.err .lockFailed)) :=
  queued_packet_flush_poisons_tunnel Primitives.plain_dh_commutes Primitives.plain_open_seal
    "0101010101010101010101010101010101010101010101010101010101010101"
    "0202020202020202020202020202020202020202020202020202020202020202" none 1 ⟨1000000000, 0⟩ 0 (Vector.replicate 32 0)
    (Vector.replicate 16 0) (Vector.replicate 32 1) plainResponder (by decide +kernel) (by decide +kernel) rfl rfl rfl
    (List.replicate 200 0) (by rw [List.length_replicate]; decide) (Vector.replicate 32 3) (Vector.replicate 32 4) (Vector.replicate 32 5)
    (Vector.replicate 32 6) 0 0 0 rfl (List.replicate 92 0) (by simp [handshakeRespSz])

end Boringtun
