import Boringtun.Noise.Messages
import Boringtun.Noise.Tunn

set_option autoImplicit false

/- The tunnel's side of a first exchange: `format_handshake_initiation` on a tunnel puts the
   handshake's message on the wire, and a tunnel whose own limiter knows its static key takes in a
   peer's initiation through `decapsulate` and answers it, over primitives whose Diffie-Hellman
   commutes and whose AEAD opens what it sealed. -/
namespace Boringtun.Noise

namespace Tunn

variable {P : Primitives}

theorem format_handshake_initiation_forced (t : Tunn P) (dst : Bytes) (ephemeralPrivate : Bytes32) (now : Instant)
    (handshake : Handshake P) (packet : Bytes)
    (formatted : t.handshake.formatHandshakeInitiation dst ephemeralPrivate now = (handshake, .ok packet)) :
    (t.formatHandshakeInitiation dst true ephemeralPrivate now).1.handshake = handshake ∧
      (t.formatHandshakeInitiation dst true ephemeralPrivate now).1.current = t.current ∧
      (t.formatHandshakeInitiation dst true ephemeralPrivate now).1.sessions = t.sessions ∧
      (t.formatHandshakeInitiation dst true ephemeralPrivate now).1.rateLimiter = t.rateLimiter ∧
      (t.formatHandshakeInitiation dst true ephemeralPrivate now).2 = .writeToNetwork packet := by
  unfold formatHandshakeInitiation
  rw [if_neg (by simp)]
  dsimp only
  obtain ⟨timers, cleared⟩ := clear_expired_eq t now
  rw [cleared]
  dsimp only
  rw [formatted]
  dsimp only
  split <;> exact ⟨rfl, rfl, rfl, rfl, rfl⟩

theorem format_handshake_initiation_retried (t : Tunn P) (dst : Bytes) (ephemeralPrivate : Bytes32) (now : Instant)
    (roomy : handshakeInitSz ≤ dst.length) :
    (t.formatHandshakeInitiation dst true ephemeralPrivate now).1.handshake.params = t.handshake.params ∧
      (t.formatHandshakeInitiation dst true ephemeralPrivate now).1.handshake.nextIndex = t.handshake.incIndex.2 ∧
      (t.formatHandshakeInitiation dst true ephemeralPrivate now).1.handshake.lastHandshakeTimestamp =
        t.handshake.lastHandshakeTimestamp ∧
      (t.formatHandshakeInitiation dst true ephemeralPrivate now).1.current = t.current ∧
      (t.formatHandshakeInitiation dst true ephemeralPrivate now).1.sessions = t.sessions ∧
      (t.formatHandshakeInitiation dst true ephemeralPrivate now).1.rateLimiter = t.rateLimiter := by
  obtain ⟨handshake, current, sessions, rateLimiter, -⟩ := format_handshake_initiation_forced t dst ephemeralPrivate now
    _ _ (Handshake.format_initiation_refines t.handshake dst ephemeralPrivate now roomy)
  rw [handshake]
  exact ⟨rfl, rfl, rfl, current, sessions, rateLimiter⟩

theorem handle_handshake_init_answers {t : Tunn P} {p : HandshakeInit} {dst : Bytes} {ephemeralPrivate : Bytes32}
    {handshake : Handshake P} {m : Bytes} {s : Session}
    (received : t.handshake.receiveHandshakeInitialization p dst ephemeralPrivate = .ok (handshake, .ok (m, s))) :
    t.handleHandshakeInit p dst ephemeralPrivate =
      .ok ((((({ t with handshake }).setSession s.localIndex (some s)).timerTick .timeLastPacketReceived).timerTick
        .timeLastPacketSent).timerTickSessionEstablished false s.localIndex, .writeToNetwork m) := by
  simp only [handleHandshakeInit, received, bind, Except.bind, pure, Except.pure]

end Tunn

open Handshake RateLimiter in
theorem decapsulate_initiation {P : Primitives} (commutes : P.DhCommutes) (opens : P.OpenSeal) (A : Handshake P)
    (t : Tunn P) (keysA : A.params.KeyPair) (keysB : t.handshake.params.KeyPair)
    (aKnowsB : A.params.peerStaticPublic = P.publicKey t.handshake.params.staticPrivate)
    (bKnowsA : t.handshake.params.peerStaticPublic = P.publicKey A.params.staticPrivate)
    {limit : UInt64} {nonceKey : Bytes32} {secretKey : Bytes16} {start : Instant}
    (ownLimiter : SameKeys (RateLimiter.new P (P.publicKey t.handshake.params.staticPrivate) limit nonceKey secretKey
      start) t.rateLimiter)
    (light : t.rateLimiter.count < t.rateLimiter.limit)
    (dst1 : Bytes) (e1 : Bytes32) (now1 : Instant) (roomy1 : handshakeInitSz ≤ dst1.length)
    (fresh : (Tai64N.parse (A.stamper.stamp now1)).after t.handshake.lastHandshakeTimestamp = true)
    (srcAddr : Option IpAddr) (dst : Bytes) (roomy : handshakeRespSz ≤ dst.length) (ephemeralPrivate : Bytes32)
    (now : Instant) :
    ∃ m1 init rateLimiter t' m2, (A.formatHandshakeInitiation dst1 e1 now1).2 = .ok m1 ∧ m1 ≠ [] ∧
      t.rateLimiter.verifyPacket P srcAddr m1 (List.replicate cookieReplySz 0) now = (rateLimiter, .ok (.handshakeInit init)) ∧
      ({ t with rateLimiter }).handleHandshakeInit init dst ephemeralPrivate = .ok (t', .writeToNetwork m2) ∧
      t.decapsulate srcAddr m1 dst ephemeralPrivate now = .ok (t', .writeToNetwork m2) := by
  obtain ⟨m1, sent, parsed1, B1, m2, received, -⟩ := responder_answers commutes opens A t.handshake keysA keysB aKnowsB
    bKnowsA dst1 e1 now1 roomy1 fresh dst roomy ephemeralPrivate
  -- the initiation carries the mac1 of the responder's public key
  obtain ⟨message, idx, packet, layout, parsed, sender, -, -⟩ :=
    call_sends (Call.formatInitiation A dst1 e1 now1) m1 (by rw [sent]; rfl)
  rw [parsed1] at parsed
  cases parsed
  have mac1Ok := mac1_key_agrees (P.publicKey t.handshake.params.staticPrivate) limit nonceKey secretKey start A
    t.rateLimiter ownLimiter aKnowsB message
  have accepted := verify_packet_accepts P t.rateLimiter srcAddr message _ _ (List.replicate cookieReplySz 0) now _ idx
    (by rw [← layout]; exact parsed1) sender mac1Ok (.inl light)
  rw [← layout] at accepted
  rcases verified : t.rateLimiter.verifyPacket P srcAddr m1 (List.replicate cookieReplySz 0) now with
    ⟨rateLimiter, verdict⟩
  rw [verified] at accepted
  subst accepted
  have handled : ({ t with rateLimiter } : Tunn P).handleHandshakeInit _ dst ephemeralPrivate = _ :=
    Tunn.handle_handshake_init_answers received
  have nonempty : m1 ≠ [] := by
    rintro rfl
    simp [parseIncomingPacket] at parsed1
  exact ⟨m1, _, rateLimiter, _, m2, sent, nonempty, verified, handled,
    (Tunn.decapsulate_verified t srcAddr m1 dst ephemeralPrivate now nonempty rateLimiter _ verified).trans handled⟩

end Boringtun.Noise
