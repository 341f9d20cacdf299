import Boringtun.Noise.Clocked

set_option autoImplicit false

/- The blocked-packet queue stays within `MAX_QUEUE_DEPTH` on every run: `queue_packet` and
   `requeue_packet` push only below it, `dequeue_packet` and `clear_all` shorten it, and every
   other call leaves it as it was. -/
namespace Boringtun.Noise

namespace Tunn

variable {P : Primitives}

def KeepsQueue (t t' : Tunn P) : Prop :=
  t.packetQueue.length ≤ maxQueueDepth → t'.packetQueue.length ≤ maxQueueDepth

theorem keeps_queue_refl (t : Tunn P) : KeepsQueue t t := id

theorem KeepsQueue.trans {t t' t'' : Tunn P} (first : KeepsQueue t t') (second : KeepsQueue t' t'') :
    KeepsQueue t t'' := fun bounded => second (first bounded)

theorem keeps_queue_of_eq {t t' : Tunn P} (same : t'.packetQueue = t.packetQueue) : KeepsQueue t t' := by
  intro bounded
  rw [same]
  exact bounded

theorem keeps_queue_packet (t : Tunn P) (packet : Bytes) : KeepsQueue t (t.queuePacket packet) := by
  intro bounded
  unfold queuePacket
  split
  · rename_i room
    simp only [List.length_append, List.length_singleton]
    omega
  · exact bounded

theorem keeps_requeue_packet (t : Tunn P) (packet : Bytes) : KeepsQueue t (t.requeuePacket packet) := by
  intro bounded
  unfold requeuePacket
  split
  · rename_i room
    simp only [List.length_cons]
    omega
  · exact bounded

theorem keeps_dequeue_packet (t : Tunn P) : KeepsQueue t t.dequeuePacket.1 := by
  intro bounded
  unfold dequeuePacket
  split
  · exact bounded
  · rename_i packet rest queued
    rw [queued, List.length_cons] at bounded
    show rest.length ≤ maxQueueDepth
    omega

theorem packet_queue_format_handshake_initiation (t : Tunn P) (dst : Bytes) (forceResend : Bool)
    (ephemeralPrivate : Bytes32) (now : Instant) :
    (t.formatHandshakeInitiation dst forceResend ephemeralPrivate now).1.packetQueue = t.packetQueue := by
  unfold formatHandshakeInitiation
  split
  · rfl
  · dsimp only
    obtain ⟨timers, cleared⟩ := clear_expired_eq t now
    rw [cleared]
    split
    · split <;> rfl
    · rfl

theorem encapsulate_keeps_queue {t t' : Tunn P} {src dst : Bytes} {ephemeralPrivate : Bytes32} {now : Instant}
    {r : TunnResult} (encapsulated : t.encapsulate src dst ephemeralPrivate now = .ok (t', r)) : KeepsQueue t t' := by
  rcases encapsulate_cases encapsulated with ⟨session, session', packet, -, -, -, rfl⟩ | ⟨-, rfl, -⟩
  · apply keeps_queue_of_eq
    dsimp only
    split <;> rfl
  · exact (keeps_queue_packet t src).trans (keeps_queue_of_eq (packet_queue_format_handshake_initiation _ _ _ _ _))

theorem packet_queue_validate_decapsulated_packet (t : Tunn P) (packet : Bytes) :
    (t.validateDecapsulatedPacket packet).1.packetQueue = t.packetQueue := by
  rcases validate_decapsulated_packet_tunn t packet with same | ⟨computedLen, taken⟩
  · rw [same]
  · rw [taken]
    rfl

theorem handle_data_queue {t t' : Tunn P} {packet : PacketData} {dst : Bytes} {r : TunnResult}
    (handled : t.handleData packet dst = .ok (t', r)) : t'.packetQueue = t.packetQueue := by
  rcases handle_data_cases handled with ⟨-, rfl, -⟩ |
    ⟨session, session', opened, -, -, ⟨e, -, rfl, -⟩ | ⟨decapsulated, -, rfl, -⟩⟩
  · rfl
  · rfl
  · -- the session is made current and the packet checked: neither touches the queue
    rw [packet_queue_validate_decapsulated_packet, packet_queue_timer_tick, packet_queue_set_current_session]
    rfl

theorem handle_cookie_reply_queue {t t' : Tunn P} {p : PacketCookieReply} {r : TunnResult}
    (handled : t.handleCookieReply p = .ok (t', r)) : t'.packetQueue = t.packetQueue := by
  rcases handle_cookie_reply_cases handled with ⟨handshake, opened, -, ⟨e, -, rfl, -⟩ | ⟨-, rfl, -⟩⟩ <;> rfl

theorem handle_verified_packet_queue {t t' : Tunn P} {packet : Packet} {dst : Bytes} {ephemeralPrivate : Bytes32}
    {now : Instant} {r : TunnResult} (handled : t.handleVerifiedPacket packet dst ephemeralPrivate now = .ok (t', r)) :
    t'.packetQueue = t.packetQueue := by
  cases packet with
  | handshakeInit p =>
      rcases handle_handshake_init_cases handled with ⟨handshake, e, -, rfl, -⟩ | ⟨handshake, m, s, -, -, rfl⟩
      · rfl
      · rfl
  | handshakeResponse p =>
      rcases handle_handshake_response_cases handled with ⟨handshake, e, -, rfl, -⟩ |
        ⟨handshake, s, s', m, -, -, -, rfl⟩
      · rfl
      · rw [packet_queue_set_current_session]
        rfl
  | packetCookieReply p => exact handle_cookie_reply_queue handled
  | packetData p => exact handle_data_queue handled

theorem send_queued_packet_keeps_queue {t t' : Tunn P} {dst : Bytes} {ephemeralPrivate : Bytes32} {now : Instant}
    {r : TunnResult} (sent : t.sendQueuedPacket dst ephemeralPrivate now = .ok (t', r)) : KeepsQueue t t' := by
  have dequeued := keeps_dequeue_packet t
  rcases send_queued_packet_cases sent with ⟨-, rfl, -⟩ | ⟨packet, t2, r2, -, encapsulated, ⟨rfl, -⟩ | ⟨rfl, -⟩⟩
  · exact dequeued
  · exact dequeued.trans (encapsulate_keeps_queue encapsulated)
  · exact (dequeued.trans (encapsulate_keeps_queue encapsulated)).trans (keeps_requeue_packet _ _)

theorem decapsulate_keeps_queue {t t' : Tunn P} {srcAddr : Option IpAddr} {datagram dst : Bytes}
    {ephemeralPrivate : Bytes32} {now : Instant} {r : TunnResult}
    (decapsulated : t.decapsulate srcAddr datagram dst ephemeralPrivate now = .ok (t', r)) : KeepsQueue t t' := by
  -- the limiter's answers and every handler leave the queue
  rcases decapsulate_cases decapsulated with ⟨-, flushed⟩ | ⟨-, rateLimiter, ⟨-, -, rfl⟩ | ⟨packet, -, handled⟩⟩
  · exact send_queued_packet_keeps_queue flushed
  · exact keeps_queue_of_eq rfl
  · have kept := handle_verified_packet_queue handled
    exact keeps_queue_of_eq kept

theorem set_static_private_queue {t t' : Tunn P} {staticPrivate staticPublic : Bytes32}
    {rateLimiter : Option RateLimiter} {nonceKey : Bytes32} {secretKey : Bytes16} {now : Instant}
    (changed : t.setStaticPrivate staticPrivate staticPublic rateLimiter nonceKey secretKey now = .ok t') :
    t'.packetQueue = t.packetQueue := by
  unfold setStaticPrivate at changed
  obtain ⟨handshake, -, changed⟩ := Loop.bind_eq_ok.mp changed
  cases changed
  rfl

theorem update_session_timers_queue {t t' : Tunn P} {timeNow : Duration}
    (expired : t.updateSessionTimers timeNow = .ok t') : t'.packetQueue = t.packetQueue := by
  unfold updateSessionTimers at expired
  refine Loop.foldlM_ok_invariant (fun u : Tunn P => u.packetQueue = t.packetQueue) _ _ ?_ t rfl expired
  rintro u i u' - same step
  rcases expire_session_cases step with ⟨rfl, -⟩ | ⟨-, rfl⟩
  · exact same
  · exact same

theorem fire_timers_keeps_queue {t t' : Tunn P} {handshakeInitiationRequired keepaliveRequired : Bool} {dst : Bytes}
    {ephemeralPrivate : Bytes32} {now : Instant} {r : TunnResult}
    (fired : t.fireTimers handshakeInitiationRequired keepaliveRequired dst ephemeralPrivate now = .ok (t', r)) :
    KeepsQueue t t' := by
  unfold fireTimers at fired
  split at fired
  · obtain rfl := Loop.eq_fst_of_pure_eq_ok fired
    exact keeps_queue_of_eq (packet_queue_format_handshake_initiation _ _ _ _ _)
  · split at fired
    · exact encapsulate_keeps_queue fired
    · obtain rfl := Loop.eq_fst_of_pure_eq_ok fired
      exact keeps_queue_refl _

theorem update_timers_keeps_queue {t t' : Tunn P} {dst : Bytes} {ephemeralPrivate : Bytes32} {now : Instant}
    {r : TunnResult} (updated : t.updateTimers dst ephemeralPrivate now = .ok (t', r)) : KeepsQueue t t' := by
  obtain ⟨t0, t2, -, -, sameQueue, refreshed, tail⟩ := update_timers_tail KeepsQueue keeps_queue_refl
    KeepsQueue.trans (fun t => keeps_queue_of_eq rfl) (fun t _ => by simp [expireConnection, clearAll])
    (session_timer_actions_keeps KeepsQueue keeps_queue_refl KeepsQueue.trans (fun t => keeps_queue_of_eq rfl)
      (fun t => keeps_queue_of_eq rfl) (fun t => keeps_queue_of_eq rfl))
    fire_timers_keeps_queue updated
  refine (keeps_queue_of_eq ?_).trans tail
  rw [update_session_timers_queue refreshed, ← sameQueue]

end Tunn

namespace Clocked

variable {P : Primitives}

theorem step_keeps_queue {σ σ' : Clocked P} {stored : Option (Fin nSessions)} (step : Step σ stored σ') :
    Tunn.KeepsQueue σ.tunn σ'.tunn := by
  cases step with
  | encapsulate _ _ _ _ _ _ _ called => exact Tunn.encapsulate_keeps_queue called
  | decapsulate _ _ _ _ _ _ _ _ called => exact Tunn.decapsulate_keeps_queue called
  | formatHandshakeInitiation dst forceResend ephemeralPrivate now _ =>
      exact Tunn.keeps_queue_of_eq (Tunn.packet_queue_format_handshake_initiation _ dst forceResend ephemeralPrivate now)
  | setStaticPrivate _ _ _ _ _ _ _ _ called => exact Tunn.keeps_queue_of_eq (Tunn.set_static_private_queue called)
  | updateTimers _ _ _ _ _ _ called => exact Tunn.update_timers_keeps_queue called

theorem reachable_queue_bounded {σ : Clocked P} (reachable : Reachable σ) :
    σ.tunn.packetQueue.length ≤ maxQueueDepth := by
  obtain ⟨staticPrivate, peerStaticPublic, presharedKey, persistentKeepalive, index, rateLimiter, stamper, start,
    nonceKey, secretKey, run⟩ := reachable
  induction run with
  | refl => simp [Tunn.new]
  | tail _ next bounded =>
      obtain ⟨stored, step⟩ := next
      exact step_keeps_queue step bounded

end Clocked

end Boringtun.Noise
