import Boringtun.Noise.Clocked

set_option autoImplicit false

/- Which session `encapsulate` seals with, and what a flush of the blocked-packet queue does:
   a response switches the initiator to its new session, an initiation stored into the slot
   `current` points at is sent through at once, and a flush with no session puts the oldest
   packet at the back of the queue. -/
namespace Boringtun.Noise

namespace Tunn

variable {P : Primitives}

theorem handle_handshake_response_switches {t t' : Tunn P} {p : HandshakeResponse} {dst : Bytes} {now : Instant}
    {keepalive : Bytes} {clock : Instant} (before : t.timers.Before clock)
    (handled : t.handleHandshakeResponse p dst now = .ok (t', .writeToNetwork keepalive)) :
    ∃ handshake received s, t.handshake.receiveHandshakeResponse p now = .ok (handshake, .ok received) ∧
      received.formatPacketData P [] dst = .ok (s, keepalive) ∧
      t'.session s.localIndex = some s ∧ t'.current = s.localIndex := by
  rcases handle_handshake_response_cases handled with ⟨handshake, e, -, -, failed⟩ |
    ⟨handshake, received, s, m, answered, formatted, sent, rfl⟩
  · cases failed
  cases sent
  set u := ((({ t with handshake }).setSession (s.localIndex % nSessions) (some s)).timerTick
    .timeLastPacketReceived).timerTickSessionEstablished true (s.localIndex % nSessions) with installed
  have sameSlot : slot (s.localIndex % nSessions) = slot s.localIndex := by
    simp [slot]
  have stores : Stores clock clock t u (slot (s.localIndex % nSessions)) :=
    stores_established t _ _ _ s true rfl (Timers.ticked_tick t.timers .timeLastPacketReceived) (by rfl)
  have later : getElem u.timers.sessionTimers (slot u.current) (slot_lt u.current) ≤
      getElem u.timers.sessionTimers (slot s.localIndex) (slot_lt s.localIndex) := by
    have stamped := stores.stamped
    rw [sameSlot] at stamped
    calc getElem u.timers.sessionTimers (slot u.current) (slot_lt u.current)
        ≤ u.timers.get .timeCurrent := (stores.before before).sessions (slot u.current)
      _ = getElem u.timers.sessionTimers (slot s.localIndex) (slot_lt s.localIndex) := stamped.symm
  refine ⟨handshake, received, s, answered, formatted, ?_, set_current_session_of_le u s.localIndex later⟩
  rw [session_set_current_session]
  simp only [u, session_timer_tick_session_established, session_timer_tick]
  exact session_set_session_of_slot _ _ sameSlot

end Tunn

open Clocked in
theorem response_switches_session {P : Primitives} {σ : Clocked P} (reachable : Reachable σ)
    {p : HandshakeResponse} {dst : Bytes} {now : Instant} {rateLimiter : RateLimiter} {t : Tunn P} {keepalive : Bytes}
    (handled : ({ σ.tunn with rateLimiter }).handleHandshakeResponse p dst now = .ok (t, .writeToNetwork keepalive)) :
    ∃ handshake received s, σ.tunn.handshake.receiveHandshakeResponse p now = .ok (handshake, .ok received) ∧
      received.formatPacketData P [] dst = .ok (s, keepalive) ∧
      t.session s.localIndex = some s ∧ t.current = s.localIndex ∧
      ∀ src dst' ephemeralPrivate now' s' packet, s.formatPacketData P src dst' = .ok (s', packet) →
        ∃ t', t.encapsulate src dst' ephemeralPrivate now' = .ok (t', .writeToNetwork packet) := by
  have before : ({ σ.tunn with rateLimiter } : Tunn P).timers.Before σ.clock := (reachable_timely reachable).before
  -- the session the response gave, after the keepalive it sealed, is stored and made current
  obtain ⟨handshake, received, s, answered, sealed, stored, current⟩ :=
    Tunn.handle_handshake_response_switches before handled
  refine ⟨handshake, received, s, answered, sealed, stored, current,
    fun src dst' ephemeralPrivate now' s' packet formatted => ?_⟩
  exact Tunn.encapsulate_with_session t src dst' ephemeralPrivate now' s s' packet (by rw [current]; exact stored)
    formatted

namespace Clocked

def plainInitiatorTunn : Tunn Primitives.plain :=
  Tunn.new Primitives.plain (Vector.replicate 32 1) (Vector.replicate 32 2) none none 1 none ⟨1000000000, 0⟩ 0
    (Vector.replicate 32 0) (Vector.replicate 16 0)

theorem reachable_plain_initiator : Reachable (⟨plainInitiatorTunn, 0⟩ : Clocked Primitives.plain) :=
  ⟨_, _, _, _, _, _, _, _, _, _, .refl⟩

theorem plain_initiator_sends :
    ∃ t1 packet, plainInitiatorTunn.formatHandshakeInitiation (List.replicate 148 0) false (Vector.replicate 32 3) 0 =
        (t1, .writeToNetwork packet) ∧
      Reachable (⟨t1, 0⟩ : Clocked Primitives.plain) ∧ t1.handshake = (plainInitiatorTunn.handshake.formatHandshakeInitiation (List.replicate 148 0)
        (Vector.replicate 32 3) 0).1 ∧
      t1.session t1.current = none ∧ t1.packetQueue = [] ∧ t1.handshake.isInProgress = true := by
  obtain ⟨packet, sent⟩ : ∃ packet, (plainInitiatorTunn.handshake.formatHandshakeInitiation (List.replicate 148 0)
      (Vector.replicate 32 3) 0).2 = .ok packet := by
    obtain ⟨mac1, mac2, sent⟩ := Handshake.format_initiation_message plainInitiatorTunn.handshake
      (List.replicate 148 0) (Vector.replicate 32 3) 0 (by simp [handshakeInitSz])
    exact ⟨_, sent⟩
  obtain ⟨-, -, -, initSent⟩ := Handshake.format_initiation_sent plainInitiatorTunn.handshake
    (List.replicate 148 0) (Vector.replicate 32 3) 0 (by simp [handshakeInitSz])
  have pair : plainInitiatorTunn.handshake.formatHandshakeInitiation (List.replicate 148 0) (Vector.replicate 32 3) 0 =
      ((plainInitiatorTunn.handshake.formatHandshakeInitiation (List.replicate 148 0) (Vector.replicate 32 3) 0).1,
        .ok packet) := by
    rw [← sent]
  have formatted := Tunn.format_handshake_initiation_idle plainInitiatorTunn _ false _ 0 rfl _ _ pair
  have reachable := reachable_plain_initiator.tail (Step.formatHandshakeInitiation ⟨plainInitiatorTunn, 0⟩
    (List.replicate 148 0) false (Vector.replicate 32 3) 0 (Nat.le_refl 0))
  rw [formatted] at reachable
  refine ⟨_, _, formatted, reachable, by simp only [Tunn.handshake_timer_tick], rfl, rfl, ?_⟩
  have inFlight : (plainInitiatorTunn.handshake.formatHandshakeInitiation (List.replicate 148 0)
      (Vector.replicate 32 3) 0).1.isInProgress = true := by
    rw [Handshake.isInProgress, initSent]
  simp only [Tunn.handshake_timer_tick]
  exact inFlight

end Clocked

open Clocked in
theorem plain_response_switches_session :
    ∃ σ : Clocked Primitives.plain, Reachable σ ∧ ∃ p dst now t keepalive,
      ({ σ.tunn with rateLimiter := σ.tunn.rateLimiter }).handleHandshakeResponse p dst now =
        .ok (t, .writeToNetwork keepalive) ∧
      ∃ handshake received s, σ.tunn.handshake.receiveHandshakeResponse p now = .ok (handshake, .ok received) ∧
        received.formatPacketData Primitives.plain [] dst = .ok (s, keepalive) ∧
        t.session s.localIndex = some s ∧ t.current = s.localIndex ∧
        ∀ src dst' ephemeralPrivate now' s' packet, s.formatPacketData Primitives.plain src dst' = .ok (s', packet) →
          ∃ t', t.encapsulate src dst' ephemeralPrivate now' = .ok (t', .writeToNetwork packet) := by
  obtain ⟨t1, packet, -, reachable, handshake, vacant, -, -⟩ := plain_initiator_sends
  -- the plain responder's answer to that initiation completes the handshake
  obtain ⟨A3, accepted⟩ := Handshake.initiator_accepts Primitives.plain_dh_commutes Primitives.plain_open_seal
    plainInitiatorTunn.handshake plainResponder rfl rfl (List.replicate 148 0) (Vector.replicate 32 3) 0
    (by simp [handshakeInitSz]) _ (.inl rfl) (Vector.replicate 32 4) 0
  rw [← handshake] at accepted
  obtain ⟨t, keepalive, handled, -⟩ := Tunn.handle_handshake_response_establishes t1 _ (List.replicate 32 0) 0 A3 _
    accepted (by simp [dataOverheadSz]) vacant
  exact ⟨_, reachable, _, _, _, t, keepalive, handled, response_switches_session reachable handled⟩

theorem responder_session_sent_unconfirmed {P : Primitives} {t t' : Tunn P} {p : HandshakeInit} {dst : Bytes}
    {ephemeralPrivate : Bytes32} {m : Bytes} (sameSlot : slot t.handshake.incIndex.2.toNat = slot t.current)
    (handled : t.handleHandshakeInit p dst ephemeralPrivate = .ok (t', .writeToNetwork m)) :
    ∃ handshake s, t.handshake.receiveHandshakeInitialization p dst ephemeralPrivate = .ok (handshake, .ok (m, s)) ∧
      t'.session t'.current = some s ∧ s.receivingKeyCounter = ReceivingKeyCounterValidator.default ∧
      ∀ src dst' ephemeralPrivate' now s' packet, s.formatPacketData P src dst' = .ok (s', packet) →
        ∃ t'', t'.encapsulate src dst' ephemeralPrivate' now = .ok (t'', .writeToNetwork packet) := by
  rcases Tunn.handle_handshake_init_cases handled with ⟨handshake, e, -, -, failed⟩ |
    ⟨handshake, m', s, received, sent, rfl⟩
  · cases failed
  cases sent
  obtain ⟨index, fresh⟩ := Handshake.receive_initiation_session received
  -- `handle_handshake_init` leaves `current`, and the new index wraps onto its slot
  have shared : slot s.localIndex = slot t.current := by
    rw [Session.localIndex, index]
    exact sameSlot
  have current : _ = some s := Tunn.session_set_session_of_slot ({ t with handshake }) (some s) shared
  refine ⟨handshake, s, received, current, fresh, fun src dst' ephemeralPrivate' now s' packet formatted => ?_⟩
  exact Tunn.encapsulate_with_session _ src dst' ephemeralPrivate' now s s' packet current formatted

namespace Clocked

def plainRetried : ℕ → Clocked Primitives.plain
  | 0 => ⟨plainResponderTunn, 0⟩
  | k + 1 =>
      ⟨((plainRetried k).tunn.formatHandshakeInitiation (List.replicate 148 0) true (Vector.replicate 32 6) 0).1, 0⟩

theorem plain_retried_clock : ∀ k, (plainRetried k).clock = 0
  | 0 => rfl
  | _ + 1 => rfl

theorem reachable_plain_retried : ∀ k, Reachable (plainRetried k)
  | 0 => reachable_plain_responder
  | k + 1 => (reachable_plain_retried k).tail (Step.formatHandshakeInitiation _ _ _ _ _ (plain_retried_clock k).le)

theorem plain_retried_keeps : ∀ k,
    (plainRetried k).tunn.handshake.params = plainResponderTunn.handshake.params ∧
      (plainRetried k).tunn.handshake.nextIndex.toNat = 512 + k % 256 ∧
      (plainRetried k).tunn.handshake.lastHandshakeTimestamp = plainResponderTunn.handshake.lastHandshakeTimestamp ∧
      (plainRetried k).tunn.current = 0 ∧ (plainRetried k).tunn.rateLimiter = plainResponderTunn.rateLimiter
  | 0 => ⟨rfl, rfl, rfl, rfl, rfl⟩
  | k + 1 => by
      obtain ⟨params, next, stamp, current, rateLimiter⟩ := plain_retried_keeps k
      obtain ⟨params', next', stamp', current', -, rateLimiter'⟩ := Tunn.format_handshake_initiation_retried
        (plainRetried k).tunn (List.replicate 148 0) (Vector.replicate 32 6) 0 (by simp [handshakeInitSz])
      refine ⟨params'.trans params, ?_, stamp'.trans stamp, current'.trans current, rateLimiter'.trans rateLimiter⟩
      show (((plainRetried k).tunn.formatHandshakeInitiation (List.replicate 148 0) true (Vector.replicate 32 6)
        0).1.handshake.nextIndex).toNat = _
      rw [next', Handshake.inc_index_toNat, next]
      omega

end Clocked

open Clocked in
theorem plain_responder_session_sent_unconfirmed :
    ∃ σ : Clocked Primitives.plain, Reachable σ ∧ ∃ srcAddr datagram dst ephemeralPrivate now rateLimiter p t' m,
      σ.tunn.decapsulate srcAddr datagram dst ephemeralPrivate now = .ok (t', .writeToNetwork m) ∧
      slot ({ σ.tunn with rateLimiter }).handshake.incIndex.2.toNat = slot ({ σ.tunn with rateLimiter }).current ∧
      ({ σ.tunn with rateLimiter }).handleHandshakeInit p dst ephemeralPrivate = .ok (t', .writeToNetwork m) ∧
      ∃ handshake s, ({ σ.tunn with rateLimiter }).handshake.receiveHandshakeInitialization p dst ephemeralPrivate =
          .ok (handshake, .ok (m, s)) ∧
        t'.session t'.current = some s ∧ s.receivingKeyCounter = ReceivingKeyCounterValidator.default ∧
        ∀ src dst' ephemeralPrivate' now' s' packet, s.formatPacketData Primitives.plain src dst' = .ok (s', packet) →
          ∃ t'', t'.encapsulate src dst' ephemeralPrivate' now' = .ok (t'', .writeToNetwork packet) := by
  obtain ⟨params, next, stamp, current, rateLimiter⟩ := plain_retried_keeps 7
  -- seven retries later the next index, 520, shares slot 0 with `current`
  have sameSlot : slot (plainRetried 7).tunn.handshake.incIndex.2.toNat = slot (plainRetried 7).tunn.current := by
    rw [Handshake.inc_index_toNat, next, current]
    rfl
  have keysB : (plainRetried 7).tunn.handshake.params.KeyPair := by
    rw [params]
    rfl
  have aKnowsB : plainInitiator.params.peerStaticPublic =
      Primitives.plain.publicKey (plainRetried 7).tunn.handshake.params.staticPrivate := by
    rw [params]
    rfl
  have fresh : (Tai64N.parse (plainInitiator.stamper.stamp 0)).after
      (plainRetried 7).tunn.handshake.lastHandshakeTimestamp = true := by
    rw [stamp]
    rfl
  have light : (plainRetried 7).tunn.rateLimiter.count < (plainRetried 7).tunn.rateLimiter.limit := by
    rw [rateLimiter]
    decide
  obtain ⟨m1, init, rl, t', m2, -, -, -, handled, decapsulated⟩ :=
    decapsulate_initiation Primitives.plain_dh_commutes Primitives.plain_open_seal plainInitiator (plainRetried 7).tunn
      rfl keysB aKnowsB (by rw [params]; rfl) (by rw [params, rateLimiter]; exact RateLimiter.same_keys_refl _) light
      (List.replicate 148 0) (Vector.replicate 32 3) 0 (by simp [handshakeInitSz]) fresh none
      (List.replicate 148 0) (by simp [handshakeRespSz]) (Vector.replicate 32 4) 0
  -- the limiter's update leaves the handshake and `current`
  have sameSlot' : slot ({ (plainRetried 7).tunn with rateLimiter := rl } : Tunn Primitives.plain).handshake.incIndex.2.toNat =
      slot ({ (plainRetried 7).tunn with rateLimiter := rl } : Tunn Primitives.plain).current := by
    dsimp only
    exact sameSlot
  exact ⟨_, reachable_plain_retried 7, none, m1, _, _, 0, rl, init, t', m2, decapsulated, sameSlot', handled,
    responder_session_sent_unconfirmed sameSlot' handled⟩

theorem flush_without_session_requeues_at_back {P : Primitives} (t : Tunn P) (srcAddr : Option IpAddr) (dst : Bytes)
    (ephemeralPrivate : Bytes32) (now : Instant) {packet : Bytes} {rest : List Bytes}
    (queued : t.packetQueue = packet :: rest) (vacant : t.session t.current = none)
    (inProgress : t.handshake.isInProgress = true) (room : rest.length < maxQueueDepth) :
    t.decapsulate srcAddr [] dst ephemeralPrivate now = .ok ({ t with packetQueue := rest ++ [packet] }, .done) := by
  -- the oldest packet goes back to `encapsulate`, which queues it behind the rest
  have requeued := Tunn.encapsulate_queues ({ t with packetQueue := rest }) packet dst ephemeralPrivate now vacant
    inProgress room
  rw [Tunn.decapsulate, if_pos rfl]
  exact Tunn.send_queued_packet_of_encapsulate queued requeued (fun _ done => by cases done)

open Clocked in
theorem plain_flush_without_session_requeues_at_back :
    ∃ σ : Clocked Primitives.plain, Reachable σ ∧ σ.tunn.packetQueue = [[1], [2]] ∧
      σ.tunn.session σ.tunn.current = none ∧ σ.tunn.handshake.isInProgress = true ∧
      σ.tunn.decapsulate none [] (List.replicate 148 0) (Vector.replicate 32 3) 0 =
        .ok ({ σ.tunn with packetQueue := [[2], [1]] }, .done) := by
  obtain ⟨t1, packet, -, reachable, -, vacant, empty, inProgress⟩ := plain_initiator_sends
  -- two packets written while the initiation is in flight are queued in order
  have first : t1.encapsulate [1] (List.replicate 148 0) (Vector.replicate 32 3) 0 =
      .ok ({ t1 with packetQueue := [[1]] }, .done) := by
    rw [Tunn.encapsulate_queues t1 [1] _ _ 0 vacant inProgress (by rw [empty]; decide), empty]
    rfl
  have second : ({ t1 with packetQueue := [[1]] } : Tunn Primitives.plain).encapsulate [2] (List.replicate 148 0)
      (Vector.replicate 32 3) 0 = .ok ({ t1 with packetQueue := [[1], [2]] }, .done) :=
    Tunn.encapsulate_queues _ [2] _ _ 0 vacant inProgress (by simp [maxQueueDepth])
  have queued := (reachable.tail (Step.encapsulate ⟨t1, 0⟩ [1] _ _ 0 _ _ (Nat.le_refl 0) first)).tail
    (Step.encapsulate _ [2] _ _ 0 _ _ (Nat.le_refl 0) second)
  exact ⟨_, queued, rfl, vacant, inProgress, flush_without_session_requeues_at_back ({ t1 with packetQueue := [[1], [2]] })
    none _ _ 0 rfl vacant inProgress (by simp [maxQueueDepth])⟩

end Boringtun.Noise
