import Boringtun.Noise.Sending

set_option autoImplicit false

/- One handshake attempt: from the initiation `format_handshake_initiation` sends while no
   handshake is in progress, until the handshake leaves `InitSent`. Retries are timed from the send
   time of the initiation in flight and the give-up from `TimeLastHandshakeStarted`, which only a
   new attempt sets; so `update_timers` resends fewer than `REKEY_ATTEMPT_TIME / REKEY_TIMEOUT`
   times, each `REKEY_TIMEOUT` after the last, and then gives up the connection. -/
namespace Boringtun.Noise

namespace Handshake

variable {P : Primitives}

@[simp] theorem timer_clear_cookie (h : Handshake P) : h.clearCookie.timer = h.timer := rfl

@[simp] theorem timer_set_expired (h : Handshake P) : h.setExpired.timer = none := rfl

theorem state_of_timer {h : Handshake P} {sent : Instant} (inFlight : h.timer = some sent) :
    ∃ s : HandshakeInitSentState, h.state = .initSent s ∧ s.timeSent = sent := by
  unfold timer at inFlight
  split at inFlight
  · rename_i s state
    cases inFlight
    exact ⟨s, state, rfl⟩
  · cases inFlight

theorem not_expired_of_timer {h : Handshake P} {sent : Instant} (inFlight : h.timer = some sent) :
    h.isExpired = false := by
  obtain ⟨s, state, -⟩ := state_of_timer inFlight
  simp [isExpired, state]

theorem in_progress_of_timer {h : Handshake P} {sent : Instant} (inFlight : h.timer = some sent) :
    h.isInProgress = true := by
  obtain ⟨s, state, -⟩ := state_of_timer inFlight
  simp [isInProgress, state]

theorem format_initiation_timer {h h' : Handshake P} {dst : Bytes} {ephemeralPrivate : Bytes32} {now : Instant}
    {packet : Bytes} (formatted : h.formatHandshakeInitiation dst ephemeralPrivate now = (h', .ok packet)) :
    h'.timer = some now := by
  by_cases roomy : handshakeInitSz ≤ dst.length
  · obtain ⟨-, -, -, state⟩ := format_initiation_sent h dst ephemeralPrivate now roomy
    rw [formatted] at state
    simp only at state
    simp [timer, state]
  · rw [format_initiation_too_small h dst ephemeralPrivate now (by omega)] at formatted
    cases formatted

theorem receive_initiation_timer {h h' : Handshake P} {packet : HandshakeInit} {dst : Bytes}
    {ephemeralPrivate : Bytes32} {r : Except WireGuardError (Bytes × Session)}
    (received : h.receiveHandshakeInitialization packet dst ephemeralPrivate = .ok (h', r)) :
    h'.timer = h.timer ∨ h'.timer = none := by
  rcases receive_initiation_cases received with ⟨rfl, -⟩ | ⟨timestamp, hash, chainingKey, -, -, formatted⟩
  · exact .inl rfl
  · right
    rcases format_response_cases formatted with ⟨rfl, -⟩ | ⟨-, state, -⟩
    · rfl
    · simp [timer, state]

theorem receive_response_timer {h h' : Handshake P} {packet : HandshakeResponse} {now : Instant}
    {r : Except WireGuardError Session} (received : h.receiveHandshakeResponse packet now = .ok (h', r)) :
    h'.timer = h.timer ∨ h'.timer = none := by
  rcases receive_response_cases received with ⟨rfl, -⟩ | ⟨s, isPrevious, session, rtt, -, -, -, rfl⟩
  · exact .inl rfl
  · -- a response to `previous` leaves the initiation in flight
    cases isPrevious
    · exact .inr rfl
    · exact .inl rfl

theorem receive_cookie_reply_timer {h h' : Handshake P} {packet : PacketCookieReply} {r : Except WireGuardError Unit}
    (received : h.receiveCookieReply packet = .ok (h', r)) : h'.timer = h.timer := by
  rcases receive_cookie_reply_cases received with ⟨rfl, -⟩ | ⟨cookie, rfl⟩ <;> rfl

end Handshake

namespace Tunn

variable {P : Primitives}

/-! What a call does to the initiation in flight and to the start of its attempt. -/

structure Quiet (t t' : Tunn P) : Prop where
  timer : t'.handshake.timer = t.handshake.timer
  started : t'.timers.get .timeLastHandshakeStarted = t.timers.get .timeLastHandshakeStarted

-- A call made at `now` keeps the initiation in flight, sends a new one at `now` or ends the
-- attempt; while the attempt goes on, the time it started stays.
structure Resends (now : Instant) (t t' : Tunn P) : Prop where
  timer : t'.handshake.timer = t.handshake.timer ∨ t'.handshake.timer = some now ∨ t'.handshake.timer = none
  started : t.handshake.timer.isSome → t'.handshake.timer.isSome →
    t'.timers.get .timeLastHandshakeStarted = t.timers.get .timeLastHandshakeStarted

theorem quiet_refl (t : Tunn P) : Quiet t t := ⟨rfl, rfl⟩

theorem Quiet.trans {t t' t'' : Tunn P} (first : Quiet t t') (second : Quiet t' t'') : Quiet t t'' :=
  ⟨second.timer.trans first.timer, second.started.trans first.started⟩

theorem quiet_of_same {t t' : Tunn P} (handshake : t'.handshake = t.handshake) (timers : t'.timers = t.timers) :
    Quiet t t' :=
  ⟨by rw [handshake], by rw [timers]⟩

theorem quiet_timer_tick (t : Tunn P) (name : TimerName) (other : name ≠ .timeLastHandshakeStarted) :
    Quiet t (t.timerTick name) :=
  ⟨rfl, by simp [Timers.tick_get, other]⟩

theorem quiet_set_session (t : Tunn P) (index : ℕ) (s : Option Session) : Quiet t (t.setSession index s) :=
  quiet_of_same rfl rfl

theorem Quiet.resends {t t' : Tunn P} (quiet : Quiet t t') (now : Instant) : Resends now t t' :=
  ⟨.inl quiet.timer, fun _ _ => quiet.started⟩

theorem resends_of_ended {t t' : Tunn P} (now : Instant) (ended : t'.handshake.timer = none) : Resends now t t' := by
  refine ⟨.inr (.inr ended), fun _ inFlight' => ?_⟩
  rw [ended] at inFlight'
  cases inFlight'

theorem resends_of_timer {t t' : Tunn P} (now : Instant)
    (timer : t'.handshake.timer = t.handshake.timer ∨ t'.handshake.timer = none)
    (started : t'.timers.get .timeLastHandshakeStarted = t.timers.get .timeLastHandshakeStarted) : Resends now t t' := by
  rcases timer with same | ended
  · exact Quiet.resends ⟨same, started⟩ now
  · exact resends_of_ended now ended

theorem Quiet.then_resends {now : Instant} {t t' t'' : Tunn P} (first : Quiet t t') (second : Resends now t' t'') :
    Resends now t t'' := by
  refine ⟨?_, fun inFlight inFlight'' => ?_⟩
  · rw [← first.timer]
    exact second.timer
  · exact (second.started (by rw [first.timer]; exact inFlight) inFlight'').trans first.started

theorem Resends.then_quiet {now : Instant} {t t' t'' : Tunn P} (first : Resends now t t') (second : Quiet t' t'') :
    Resends now t t'' := by
  refine ⟨?_, fun inFlight inFlight'' => ?_⟩
  · rw [second.timer]
    exact first.timer
  · exact second.started.trans (first.started inFlight (by rw [← second.timer]; exact inFlight''))

theorem Resends.in_flight {now sent : Instant} {t t' : Tunn P} (resends : Resends now t t')
    (timer' : t'.handshake.timer = some sent) : t.handshake.timer = some sent ∨ sent = now := by
  rcases resends.timer with same | sentNow | ended
  · exact .inl (same ▸ timer')
  · rw [sentNow] at timer'
    exact .inr (Option.some.inj timer').symm
  · rw [ended] at timer'
    cases timer'

/-! `format_handshake_initiation`: while an attempt is in flight the resend keeps its start. -/

theorem handshake_of_format_failed {h h' : Handshake P} {dst : Bytes} {ephemeralPrivate : Bytes32} {now : Instant}
    {e : WireGuardError} (formatted : h.formatHandshakeInitiation dst ephemeralPrivate now = (h', .error e)) :
    h' = h := by
  have kept := Handshake.format_initiation_failed h dst ephemeralPrivate now e (by rw [formatted])
  rw [formatted] at kept
  exact kept

theorem format_handshake_initiation_resends (t : Tunn P) (dst : Bytes) (forceResend : Bool)
    (ephemeralPrivate : Bytes32) (now : Instant) :
    Resends now t (t.formatHandshakeInitiation dst forceResend ephemeralPrivate now).1 := by
  unfold formatHandshakeInitiation
  split
  · exact (quiet_refl t).resends now
  · dsimp only
    -- only an expired handshake, never one in flight, has its timers cleared first
    have cleared : (if t.handshake.isExpired then { t with timers := t.timers.clear now } else t).handshake =
        t.handshake := by
      split <;> rfl
    have kept : t.handshake.timer.isSome →
        (if t.handshake.isExpired then { t with timers := t.timers.clear now } else t) = t := by
      intro inFlight
      obtain ⟨sent, timer⟩ := Option.isSome_iff_exists.mp inFlight
      rw [Handshake.not_expired_of_timer timer]
      rfl
    generalize (if t.handshake.isExpired then { t with timers := t.timers.clear now } else t) = t1 at cleared kept ⊢
    split
    · rename_i handshake packet formatted
      have sentNow := Handshake.format_initiation_timer formatted
      refine ⟨.inr (.inl (by split <;> exact sentNow)), fun inFlight _ => ?_⟩
      -- a resend does not start a new attempt
      obtain rfl := kept inFlight
      obtain ⟨sent, timer⟩ := Option.isSome_iff_exists.mp inFlight
      simp [Handshake.in_progress_of_timer timer, Timers.tick_get]
    · rename_i handshake e formatted
      rw [handshake_of_format_failed formatted, cleared]
      refine ⟨.inl rfl, fun inFlight _ => ?_⟩
      obtain rfl := kept inFlight
      rfl

/-! `encapsulate`, `decapsulate` and `set_static_private`. -/

theorem quiet_queue_packet (t : Tunn P) (packet : Bytes) : Quiet t (t.queuePacket packet) := by
  unfold queuePacket
  split <;> exact quiet_of_same rfl rfl

theorem quiet_requeue_packet (t : Tunn P) (packet : Bytes) : Quiet t (t.requeuePacket packet) := by
  unfold requeuePacket
  split <;> exact quiet_of_same rfl rfl

theorem quiet_dequeue_packet (t : Tunn P) : Quiet t t.dequeuePacket.1 := by
  unfold dequeuePacket
  split <;> exact quiet_of_same rfl rfl

theorem quiet_set_current_session (t : Tunn P) (newIdx : ℕ) : Quiet t (t.setCurrentSession newIdx) := by
  unfold setCurrentSession
  dsimp only
  split_ifs <;> exact quiet_of_same rfl rfl

theorem quiet_validate_decapsulated_packet (t : Tunn P) (packet : Bytes) :
    Quiet t (t.validateDecapsulatedPacket packet).1 := by
  rcases validate_decapsulated_packet_tunn t packet with same | ⟨computedLen, taken⟩
  · rw [same]
    exact quiet_refl t
  · rw [taken]
    exact (quiet_timer_tick t .timeLastDataPacketReceived (by decide)).trans (quiet_of_same rfl rfl)

theorem encapsulate_resends {t t' : Tunn P} {src dst : Bytes} {ephemeralPrivate : Bytes32} {now : Instant}
    {r : TunnResult} (encapsulated : t.encapsulate src dst ephemeralPrivate now = .ok (t', r)) : Resends now t t' := by
  rcases encapsulate_cases encapsulated with ⟨session, session', packet, -, -, -, rfl⟩ | ⟨-, rfl, -⟩
  · -- the session seals the packet and the send timers tick
    have ticked : Quiet t ((t.setSession t.current (some session')).timerTick .timeLastPacketSent) :=
      (quiet_set_session t t.current _).trans (quiet_timer_tick _ .timeLastPacketSent (by decide))
    have data : Quiet ((t.setSession t.current (some session')).timerTick .timeLastPacketSent)
        (if src ≠ [] then ((t.setSession t.current (some session')).timerTick .timeLastPacketSent).timerTick
          .timeLastDataPacketSent else (t.setSession t.current (some session')).timerTick .timeLastPacketSent) := by
      split
      · exact quiet_timer_tick _ .timeLastDataPacketSent (by decide)
      · exact quiet_refl _
    apply Quiet.resends _ now
    exact (ticked.trans data).trans (quiet_of_same rfl rfl)
  · exact (quiet_queue_packet t src).then_resends (format_handshake_initiation_resends _ dst false _ now)

theorem send_queued_packet_resends {t t' : Tunn P} {dst : Bytes} {ephemeralPrivate : Bytes32} {now : Instant}
    {r : TunnResult} (sent : t.sendQueuedPacket dst ephemeralPrivate now = .ok (t', r)) : Resends now t t' := by
  have dequeued := quiet_dequeue_packet t
  rcases send_queued_packet_cases sent with ⟨-, rfl, -⟩ | ⟨packet, t2, r2, -, encapsulated, ⟨rfl, -⟩ | ⟨rfl, -⟩⟩
  · exact dequeued.resends now
  · exact dequeued.then_resends (encapsulate_resends encapsulated)
  · exact (dequeued.then_resends (encapsulate_resends encapsulated)).then_quiet (quiet_requeue_packet _ _)

theorem handle_data_quiet {t t' : Tunn P} {packet : PacketData} {dst : Bytes} {r : TunnResult}
    (handled : t.handleData packet dst = .ok (t', r)) : Quiet t t' := by
  rcases handle_data_cases handled with ⟨-, rfl, -⟩ |
    ⟨session, session', opened, -, -, ⟨e, -, rfl, -⟩ | ⟨decapsulated, -, rfl, -⟩⟩
  · exact quiet_refl _
  · exact quiet_set_session t _ _
  · -- the session is made current, the receive timer ticks and the packet is checked
    exact (((quiet_set_session t _ _).trans (quiet_set_current_session _ _)).trans
      (quiet_timer_tick _ .timeLastPacketReceived (by decide))).trans (quiet_validate_decapsulated_packet _ _)

theorem handle_cookie_reply_quiet {t t' : Tunn P} {p : PacketCookieReply} {r : TunnResult}
    (handled : t.handleCookieReply p = .ok (t', r)) : Quiet t t' := by
  obtain ⟨handshake, opened, received, rest⟩ := handle_cookie_reply_cases handled
  have kept : Quiet t { t with handshake } := ⟨Handshake.receive_cookie_reply_timer received, rfl⟩
  rcases rest with ⟨e, -, rfl, -⟩ | ⟨-, rfl, -⟩
  · exact kept
  · exact (kept.trans (quiet_timer_tick _ .timeLastPacketReceived (by decide))).trans
      (quiet_timer_tick _ .timeCookieReceived (by decide))

theorem handle_verified_packet_resends {t t' : Tunn P} {packet : Packet} {dst : Bytes} {ephemeralPrivate : Bytes32}
    {now : Instant} {r : TunnResult} (handled : t.handleVerifiedPacket packet dst ephemeralPrivate now = .ok (t', r)) :
    Resends now t t' := by
  cases packet with
  | handshakeInit p =>
      rcases handle_handshake_init_cases handled with ⟨handshake, e, received, rfl, -⟩ |
        ⟨handshake, m, s, received, -, rfl⟩
      · exact resends_of_timer now (Handshake.receive_initiation_timer received) rfl
      · exact resends_of_timer now (Handshake.receive_initiation_timer received) (by simp [Timers.tick_get])
  | handshakeResponse p =>
      rcases handle_handshake_response_cases handled with ⟨handshake, e, received, rfl, -⟩ |
        ⟨handshake, s, s', m, received, -, -, rfl⟩
      · exact resends_of_timer now (Handshake.receive_response_timer received) rfl
      · exact (resends_of_timer now (Handshake.receive_response_timer received) (by simp [Timers.tick_get])).then_quiet
          (quiet_set_current_session _ _)
  | packetCookieReply p => exact (handle_cookie_reply_quiet handled).resends now
  | packetData p => exact (handle_data_quiet handled).resends now

theorem decapsulate_resends {t t' : Tunn P} {srcAddr : Option IpAddr} {datagram dst : Bytes}
    {ephemeralPrivate : Bytes32} {now : Instant} {r : TunnResult}
    (decapsulated : t.decapsulate srcAddr datagram dst ephemeralPrivate now = .ok (t', r)) : Resends now t t' := by
  rcases decapsulate_cases decapsulated with ⟨-, flushed⟩ | ⟨-, rateLimiter, verdict⟩
  · exact send_queued_packet_resends flushed
  -- the limiter answers by itself, or hands the packet to its handler
  have limited : Quiet t { t with rateLimiter } := quiet_of_same rfl rfl
  rcases verdict with ⟨-, -, rfl⟩ | ⟨packet, -, handled⟩
  · exact limited.resends now
  · exact limited.then_resends (handle_verified_packet_resends handled)

theorem set_static_private_quiet {t t' : Tunn P} {staticPrivate staticPublic : Bytes32}
    {rateLimiter : Option RateLimiter} {nonceKey : Bytes32} {secretKey : Bytes16} {now : Instant}
    (changed : t.setStaticPrivate staticPrivate staticPublic rateLimiter nonceKey secretKey now = .ok t') :
    Quiet t t' := by
  obtain ⟨params, handshake, -⟩ := set_static_private_handshake changed
  unfold setStaticPrivate at changed
  obtain ⟨h, -, changed⟩ := Loop.bind_eq_ok.mp changed
  cases changed
  exact ⟨by rw [handshake]; rfl, rfl⟩

/-! `update_timers`. -/

theorem elapsed_at_least_true {now since limit : Duration} {elapsed : Bool}
    (checked : elapsedAtLeast true now since limit = .ok elapsed) : elapsed = decide (limit ≤ now - since) := by
  by_cases past : since ≤ now
  · rw [elapsed_at_least_ok true limit past] at checked
    cases checked
    rfl
  · simp [elapsedAtLeast, checkedSubUnwrap, past, bind, Except.bind] at checked

theorem quiet_set_current (t : Tunn P) (time : Duration) : Quiet t { t with timers := t.timers.set .timeCurrent time } :=
  ⟨rfl, by simp [Timers.get_set]⟩

theorem update_session_timers_quiet {t t' : Tunn P} {timeNow : Duration}
    (expired : t.updateSessionTimers timeNow = .ok t') : Quiet t t' := by
  obtain ⟨timers, -⟩ := fold_expire_session _ (List.nodup_finRange nSessions) expired
  exact ⟨by rw [update_session_timers_handshake expired], by simp only [Timers.get, timers]⟩

theorem fire_timers_resends {t t' : Tunn P} {handshakeInitiationRequired keepaliveRequired : Bool} {dst : Bytes}
    {ephemeralPrivate : Bytes32} {now : Instant} {r : TunnResult}
    (fired : t.fireTimers handshakeInitiationRequired keepaliveRequired dst ephemeralPrivate now = .ok (t', r)) :
    Resends now t t' := by
  unfold fireTimers at fired
  split at fired
  · obtain rfl := Loop.eq_fst_of_pure_eq_ok fired
    exact format_handshake_initiation_resends t dst true ephemeralPrivate now
  · split at fired
    · exact encapsulate_resends fired
    · obtain rfl := Loop.eq_fst_of_pure_eq_ok fired
      exact (quiet_refl _).resends now

-- Everything `update_timers` can do. The session loop and the cookie check touch neither the
-- initiation in flight nor the start of its attempt; then the connection is given up, or an
-- expired handshake stops the call, or the initiation in flight is resent or waited for, or the
-- session checks run.
theorem update_timers_cases {t t' : Tunn P} {dst : Bytes} {ephemeralPrivate : Bytes32} {now : Instant}
    {r : TunnResult} (updated : t.updateTimers dst ephemeralPrivate now = .ok (t', r)) :
    ∃ t3 : Tunn P, Quiet t t3 ∧
      ((t' = (t3.expireConnection now).1 ∧ r = .err .connectionExpired) ∨
        (t3.handshake.isExpired = true ∧ t' = t3 ∧ r = .err .connectionExpired) ∨
        (∃ sent, t3.handshake.timer = some sent ∧
          now.durationSince t.timers.timeStarted - t.timers.get .timeLastHandshakeStarted < rekeyAttemptTime ∧
          t3.fireTimers (decide (rekeyTimeout ≤ now.durationSince sent)) false dst ephemeralPrivate now = .ok (t', r)) ∨
        (t3.handshake.timer = none ∧ ∃ t4 handshakeInitiationRequired keepaliveRequired, Quiet t3 t4 ∧
          t4.fireTimers handshakeInitiationRequired keepaliveRequired dst ephemeralPrivate now = .ok (t', r))) := by
  obtain ⟨t0, t2, -, reset, sameHandshake, -, refreshed, rest⟩ := update_timers_inversion updated
  have quiet2 : Quiet t t2 :=
    ((quiet_of_same sameHandshake reset).trans (quiet_set_current _ _)).trans (update_session_timers_quiet refreshed)
  rcases rest with ⟨isExpired, rfl, rfl⟩ | ⟨t3, clearing, rest⟩
  · exact ⟨_, quiet2, .inr (.inl ⟨isExpired, rfl, rfl⟩)⟩
  have cleared : Quiet t2 t3 := by
    obtain ⟨cookieExpired, -, rfl⟩ := clearing
    split
    · exact ⟨Handshake.timer_clear_cookie _, rfl⟩
    · exact quiet_refl _
  refine ⟨t3, quiet2.trans cleared, ?_⟩
  rcases rest with given | ⟨sent, timer, checked, fired⟩ |
    ⟨ended, t4, _, _, _, _, _, _, _, handshakeInitiationRequired, keepaliveRequired, acting, fired⟩
  · exact .inl given
  · -- the give-up check read the attempt's start after the loop, where it still is
    have early := elapsed_at_least_true checked
    rw [reset, quiet2.started] at early
    exact .inr (.inr (.inl ⟨sent, timer, by simpa using early.symm, fired⟩))
  · have acted : Quiet t3 t4 := session_timer_actions_keeps Quiet quiet_refl Quiet.trans
      (fun _ => ⟨rfl, rfl⟩) (fun _ => ⟨rfl, rfl⟩) (fun t => quiet_timer_tick t .timePersistentKeepalive (by decide))
      acting
    exact .inr (.inr (.inr ⟨ended, t4, handshakeInitiationRequired, keepaliveRequired, acted, fired⟩))

theorem update_timers_resends {t t' : Tunn P} {dst : Bytes} {ephemeralPrivate : Bytes32} {now : Instant}
    {r : TunnResult} (updated : t.updateTimers dst ephemeralPrivate now = .ok (t', r)) : Resends now t t' := by
  obtain ⟨t3, quiet, ⟨rfl, -⟩ | ⟨-, rfl, -⟩ | ⟨sent, -, -, fired⟩ | ⟨-, t4, _, _, acted, fired⟩⟩ :=
    update_timers_cases updated
  · exact resends_of_ended now rfl
  · exact quiet.resends now
  · exact quiet.then_resends (fire_timers_resends fired)
  · exact (quiet.trans acted).then_resends (fire_timers_resends fired)

theorem format_handshake_initiation_sent {t t' : Tunn P} {dst : Bytes} {forceResend : Bool}
    {ephemeralPrivate : Bytes32} {now : Instant} {packet : Bytes}
    (formatted : t.formatHandshakeInitiation dst forceResend ephemeralPrivate now = (t', .writeToNetwork packet)) :
    t'.handshake.timer = some now := by
  unfold formatHandshakeInitiation at formatted
  split at formatted
  · cases formatted
  · dsimp only at formatted
    generalize (if t.handshake.isExpired then { t with timers := t.timers.clear now } else t) = t1 at formatted
    split at formatted
    · rename_i handshake packet' sent
      cases formatted
      split <;> exact Handshake.format_initiation_timer sent
    · cases formatted

theorem update_timers_retry {t t' : Tunn P} {dst : Bytes} {ephemeralPrivate : Bytes32} {now sent : Instant}
    {packet : Bytes} (inFlight : t.handshake.timer = some sent)
    (updated : t.updateTimers dst ephemeralPrivate now = .ok (t', .writeToNetwork packet)) :
    rekeyTimeout ≤ now.durationSince sent ∧
      now.durationSince t.timers.timeStarted - t.timers.get .timeLastHandshakeStarted < rekeyAttemptTime ∧
      t'.handshake.timer = some now := by
  obtain ⟨t3, quiet, ⟨-, given⟩ | ⟨expired, -, -⟩ | ⟨sent3, timer3, early, fired⟩ | ⟨ended, -⟩⟩ :=
    update_timers_cases updated
  · cases given
  · rw [Handshake.not_expired_of_timer (quiet.timer.trans inFlight)] at expired
    cases expired
  · rw [quiet.timer, inFlight] at timer3
    cases timer3
    unfold fireTimers at fired
    split at fired
    · rename_i due
      exact ⟨of_decide_eq_true due, early, format_handshake_initiation_sent (Except.ok.inj fired)⟩
    · simp [pure, Except.pure] at fired
  · rw [quiet.timer, inFlight] at ended
    cases ended

theorem expire_connection_clears (t : Tunn P) (now : Instant) :
    (t.expireConnection now).1.handshake.state = .expired ∧ (∀ index, (t.expireConnection now).1.session index = none) ∧
      (t.expireConnection now).1.packetQueue = [] ∧ (t.expireConnection now).2 = .err .connectionExpired := by
  simp [expireConnection, clearAll, session, Handshake.setExpired]

theorem update_timers_gives_up {t : Tunn P} {dst : Bytes} {ephemeralPrivate : Bytes32} {clock now sent : Instant}
    (before : t.timers.Before clock) (later : clock ≤ now) (inFlight : t.handshake.timer = some sent)
    (overdue : rekeyAttemptTime ≤ now.durationSince t.timers.timeStarted - t.timers.get .timeLastHandshakeStarted) :
    ∃ t3 : Tunn P, t.updateTimers dst ephemeralPrivate now = .ok (t3.expireConnection now) := by
  unfold updateTimers
  obtain ⟨reset, sameSessions, sameHandshake, -⟩ := reset_count_keeps t now
  have limited := quiet_of_same sameHandshake reset
  obtain ⟨t2, refreshed⟩ := refresh_ok t _ before later reset
  obtain ⟨moved, -⟩ := refresh_effect t _ later sameSessions reset refreshed
  have quiet2 : Quiet t t2 := (limited.trans (quiet_set_current _ _)).trans (update_session_timers_quiet refreshed)
  have past : ∀ name, t2.timers.get name ≤ now.durationSince t.timers.timeStarted := moved.get_le before
  dsimp only
  rw [reset] at refreshed ⊢
  generalize now.durationSince t.timers.timeStarted = timeNow at refreshed past overdue ⊢
  have checked : ∀ (guard : Bool) (name : TimerName) (limit : Duration),
      elapsedAtLeast guard timeNow (t2.timers.get name) limit =
        .ok (guard && decide (limit ≤ timeNow - t2.timers.get name)) :=
    fun guard name limit => elapsed_at_least_ok guard limit (past name)
  refine ⟨if (t2.handshake.hasCookie && decide (cookieExpirationTime ≤ timeNow - t2.timers.get .timeCookieReceived)) = true
    then { t2 with handshake := t2.handshake.clearCookie } else t2, Loop.bind_eq_ok.mpr ⟨t2, refreshed, ?_⟩⟩
  rw [if_neg (by rw [Handshake.not_expired_of_timer (quiet2.timer.trans inFlight)]; decide), checked]
  simp only [bind, Except.bind]
  rw [checked]
  -- the connection goes after three rejection times without new keys, or else here
  by_cases stale : rejectAfterTime * 3 ≤ timeNow - t2.timers.get .timeSessionEstablished
  · simp [stale, pure, Except.pure]
  · have giveUp : rekeyAttemptTime ≤ timeNow - t2.timers.get .timeLastHandshakeStarted := by
      rw [quiet2.started]
      exact overdue
    simp only [stale, decide_false, Bool.true_and, Bool.false_eq_true, Handshake.timer_clear_cookie,
      apply_ite (fun u : Tunn P => u.handshake.timer), quiet2.timer, inFlight, ite_self, checked, giveUp,
      decide_true, Bool.and_self, if_true]
    rfl

end Tunn

-- Readings spaced `gap` apart after `first`, all before `first + span`, number fewer than
-- `span / gap`.
theorem chain_length_mul_lt {gap span first : ℕ} (positive : 0 < span) :
    ∀ {xs : List ℕ}, List.IsChain (fun a b => a + gap ≤ b) (first :: xs) → (∀ x ∈ xs, x < first + span) →
      xs.length * gap < span
  | [], _, _ => by simpa using positive
  | x :: rest, chain, below => by
      obtain ⟨spaced, chain⟩ := List.isChain_cons_cons.mp chain
      have inside : x < first + span := below x List.mem_cons_self
      -- the rest is spaced after `x` and lies below it by less than what is left of the span
      have restBelow : ∀ y ∈ rest, y < x + (span - gap) := fun y member => by
        have := below y (List.mem_cons_of_mem x member)
        omega
      have shorter := chain_length_mul_lt (by omega) chain restBelow
      rw [List.length_cons, Nat.succ_mul]
      omega

namespace Clocked

variable {P : Primitives}

open Relation

/-! Runs labelled with what `update_timers` returned. -/

inductive Call : Clocked P → Option (Instant × TunnResult) → Clocked P → Prop
  | encapsulate (σ : Clocked P) (src dst : Bytes) (ephemeralPrivate : Bytes32) (now : Instant) (t : Tunn P)
      (r : TunnResult) (later : σ.clock ≤ now) (called : σ.tunn.encapsulate src dst ephemeralPrivate now = .ok (t, r)) :
      Call σ none ⟨t, now⟩
  | decapsulate (σ : Clocked P) (srcAddr : Option IpAddr) (datagram dst : Bytes) (ephemeralPrivate : Bytes32)
      (now : Instant) (t : Tunn P) (r : TunnResult) (later : σ.clock ≤ now)
      (called : σ.tunn.decapsulate srcAddr datagram dst ephemeralPrivate now = .ok (t, r)) :
      Call σ none ⟨t, now⟩
  | formatHandshakeInitiation (σ : Clocked P) (dst : Bytes) (forceResend : Bool) (ephemeralPrivate : Bytes32)
      (now : Instant) (later : σ.clock ≤ now) :
      Call σ none ⟨(σ.tunn.formatHandshakeInitiation dst forceResend ephemeralPrivate now).1, now⟩
  | setStaticPrivate (σ : Clocked P) (staticPrivate staticPublic : Bytes32) (rateLimiter : Option RateLimiter)
      (nonceKey : Bytes32) (secretKey : Bytes16) (now : Instant) (t : Tunn P) (later : σ.clock ≤ now)
      (called : σ.tunn.setStaticPrivate staticPrivate staticPublic rateLimiter nonceKey secretKey now = .ok t) :
      Call σ none ⟨t, now⟩
  | updateTimers (σ : Clocked P) (dst : Bytes) (ephemeralPrivate : Bytes32) (now : Instant) (t : Tunn P)
      (r : TunnResult) (later : σ.clock ≤ now) (called : σ.tunn.updateTimers dst ephemeralPrivate now = .ok (t, r)) :
      Call σ (some (now, r)) ⟨t, now⟩

def resentAt : Option (Instant × TunnResult) → Option Instant
  | some (now, .writeToNetwork _) => some now
  | _ => none

def retries (results : List (Option (Instant × TunnResult))) : List Instant := results.filterMap resentAt

inductive Attempt : Clocked P → List (Option (Instant × TunnResult)) → Clocked P → Prop
  | nil (σ : Clocked P) : Attempt σ [] σ
  | cons {σ σ' σ'' : Clocked P} {result : Option (Instant × TunnResult)}
      {results : List (Option (Instant × TunnResult))} (inFlight : σ.tunn.handshake.timer.isSome)
      (call : Call σ result σ') (rest : Attempt σ' results σ'') : Attempt σ (result :: results) σ''

theorem Call.step {σ σ' : Clocked P} {result : Option (Instant × TunnResult)} (call : Call σ result σ') :
    ∃ stored, Step σ stored σ' := by
  cases call with
  | encapsulate src dst ephemeralPrivate now t r later called => exact ⟨_, .encapsulate _ _ _ _ _ _ _ later called⟩
  | decapsulate srcAddr datagram dst ephemeralPrivate now t r later called =>
      exact ⟨_, .decapsulate _ _ _ _ _ _ _ _ later called⟩
  | formatHandshakeInitiation dst forceResend ephemeralPrivate now later =>
      exact ⟨_, .formatHandshakeInitiation _ _ _ _ _ later⟩
  | setStaticPrivate _ _ _ _ _ _ _ later called => exact ⟨_, .setStaticPrivate _ _ _ _ _ _ _ _ later called⟩
  | updateTimers dst ephemeralPrivate now t r later called => exact ⟨_, .updateTimers _ _ _ _ _ _ later called⟩

theorem step_resends {σ σ' : Clocked P} {stored : Option (Fin nSessions)} (step : Step σ stored σ') :
    Tunn.Resends σ'.clock σ.tunn σ'.tunn := by
  cases step with
  | encapsulate _ _ _ _ _ _ _ called => exact Tunn.encapsulate_resends called
  | decapsulate _ _ _ _ _ _ _ _ called => exact Tunn.decapsulate_resends called
  | formatHandshakeInitiation dst forceResend ephemeralPrivate now _ =>
      exact Tunn.format_handshake_initiation_resends _ dst forceResend ephemeralPrivate now
  | setStaticPrivate _ _ _ _ _ _ _ _ called => exact (Tunn.set_static_private_quiet called).resends _
  | updateTimers _ _ _ _ _ _ called => exact Tunn.update_timers_resends called

/-! On every reachable state the initiation in flight was sent at or before the clock, and no
    earlier than its attempt started. -/

def Flight (σ : Clocked P) : Prop :=
  ∀ sent, σ.tunn.handshake.timer = some sent →
    σ.tunn.timers.timeStarted + σ.tunn.timers.get .timeLastHandshakeStarted ≤ sent ∧ sent ≤ σ.clock

theorem Flight.step {σ σ' : Clocked P} {stored : Option (Fin nSessions)} (timely : Timely σ) (flight : Flight σ)
    (step : Step σ stored σ') : Flight σ' := by
  intro sent' timer'
  obtain ⟨later, effect⟩ := step_effect step
  have resends := step_resends step
  rcases resends.in_flight timer' with same | rfl
  · -- the same initiation, in the same attempt
    obtain ⟨startedBefore, sentBefore⟩ := flight sent' same
    rw [effect.timeStarted, resends.started (by rw [same]; rfl) (by rw [timer']; rfl)]
    exact ⟨startedBefore, le_trans sentBefore later⟩
  · -- sent by this call: its attempt started at the latest when the current time was read
    have timely' := timely.step step
    exact ⟨(Nat.le_sub_iff_add_le' timely'.started).mp (timely'.before.get_le .timeLastHandshakeStarted), le_refl _⟩

theorem reachable_flight {σ : Clocked P} (reachable : Reachable σ) : Timely σ ∧ Flight σ := by
  refine ⟨reachable_timely reachable, ?_⟩
  obtain ⟨staticPrivate, peerStaticPublic, presharedKey, persistentKeepalive, index, rateLimiter, stamper, start,
    nonceKey, secretKey, run⟩ := reachable
  induction run with
  | refl =>
      intro sent timer
      cases timer
  | tail before next flight =>
      obtain ⟨stored, step⟩ := next
      exact flight.step (reachable_timely ⟨_, _, _, _, _, _, _, _, _, _, before⟩) step

theorem call_update_timers {σ σ' : Clocked P} {now : Instant} {r : TunnResult} (call : Call σ (some (now, r)) σ') :
    σ'.clock = now ∧ ∃ dst ephemeralPrivate, σ.tunn.updateTimers dst ephemeralPrivate now = .ok (σ'.tunn, r) := by
  cases call with
  | updateTimers dst ephemeralPrivate now t r later called => exact ⟨rfl, dst, ephemeralPrivate, called⟩

theorem Attempt.reachable {σ σ' : Clocked P} {results : List (Option (Instant × TunnResult))}
    (attempt : Attempt σ results σ') (reachable : Reachable σ) : Reachable σ' := by
  induction attempt with
  | nil => exact reachable
  | cons _ call _ ih =>
      obtain ⟨stored, step⟩ := call.step
      exact ih (reachable.tail step)

-- Along an attempt that started at `origin`, with its initiation in flight sent no earlier than
-- `last`: every retry comes `REKEY_TIMEOUT` after the one before it, and before `REKEY_ATTEMPT_TIME`
-- has gone since `origin`. The induction carries `last`, the send time of the latest retry.
theorem attempt_retries {σ σ' : Clocked P} {results : List (Option (Instant × TunnResult))}
    (attempt : Attempt σ results σ') :
    ∀ {last origin : Instant}, Reachable σ →
      (∀ sent, σ.tunn.handshake.timer = some sent →
        last ≤ sent ∧ σ.tunn.timers.timeStarted + σ.tunn.timers.get .timeLastHandshakeStarted = origin) →
      List.IsChain (fun a b => a + rekeyTimeout ≤ b) (last :: retries results) ∧
        ∀ resent ∈ retries results, resent < origin + rekeyAttemptTime := by
  induction attempt with
  | nil => exact fun _ _ => ⟨List.isChain_singleton _, fun _ absent => absurd absent List.not_mem_nil⟩
  | cons inFlight call rest ih =>
      rename_i σ σ' σ'' result results
      intro last origin reachable sentAfter
      obtain ⟨sent, timer⟩ := Option.isSome_iff_exists.mp inFlight
      obtain ⟨lastBefore, started⟩ := sentAfter sent timer
      obtain ⟨stored, step⟩ := call.step
      obtain ⟨later, effect⟩ := step_effect step
      have resends := step_resends step
      have sentBefore := ((reachable_flight reachable).2 sent timer).2
      -- while the initiation stays in flight the attempt keeps its start
      have kept : σ'.tunn.handshake.timer.isSome →
          σ'.tunn.timers.timeStarted + σ'.tunn.timers.get .timeLastHandshakeStarted = origin := by
        intro inFlight'
        rw [effect.timeStarted, resends.started inFlight inFlight']
        exact started
      cases resent : resentAt result with
      | none =>
          have skipped : retries (result :: results) = retries results := by simp [retries, resent]
          rw [skipped]
          refine ih (reachable.tail step) fun sent' timer' => ⟨?_, kept (by rw [timer']; rfl)⟩
          rcases resends.in_flight timer' with same | rfl
          · rw [timer] at same
            cases same
            exact lastBefore
          · exact le_trans lastBefore (le_trans sentBefore later)
      | some resentAt' =>
          -- a retry: `update_timers` wrote the initiation now in flight
          obtain ⟨now, packet, rfl, rfl⟩ : ∃ now packet, result = some (now, .writeToNetwork packet) ∧ now = resentAt' := by
            unfold resentAt at resent
            split at resent
            · cases resent
              exact ⟨_, _, rfl, rfl⟩
            · cases resent
          obtain ⟨clock', dst, ephemeralPrivate, updated⟩ := call_update_timers call
          obtain ⟨due, early, sentNow⟩ := Tunn.update_timers_retry timer updated
          have inFlight' : σ'.tunn.handshake.timer.isSome := by rw [sentNow]; rfl
          obtain ⟨chain, below⟩ := ih (reachable.tail step) fun sent' timer' => by
            rw [sentNow] at timer'
            cases timer'
            exact ⟨le_refl _, kept inFlight'⟩
          have spaced : last + rekeyTimeout ≤ now := by
            have positive : 0 < rekeyTimeout := by decide
            unfold Instant.durationSince at due
            unfold Instant Duration at *
            omega
          have inTime : now < origin + rekeyAttemptTime := by
            rw [← started]
            unfold Instant.durationSince at early
            unfold Instant Duration at *
            omega
          exact ⟨List.IsChain.cons_cons spaced chain, fun resent member => by
            rcases List.mem_cons.mp member with rfl | member
            · exact inTime
            · exact below resent member⟩

theorem retransmission_bounded {σ σ' : Clocked P} {results : List (Option (Instant × TunnResult))}
    (reachable : Reachable σ) (attempt : Attempt σ results σ') :
    (retries results).length ≤ ⌈(rekeyAttemptTime : ℚ) / rekeyTimeout⌉₊ ∧
      (retries results).IsChain (fun a b => a + rekeyTimeout ≤ b) ∧
      (∀ sent, σ.tunn.handshake.timer = some sent → ∀ first ∈ (retries results).head?, sent + rekeyTimeout ≤ first) ∧
      (σ'.tunn.handshake.timer.isSome → ∀ dst ephemeralPrivate now, σ'.clock ≤ now →
        rekeyAttemptTime ≤ now.durationSince σ'.tunn.timers.timeStarted - σ'.tunn.timers.get .timeLastHandshakeStarted →
        ∃ t, σ'.tunn.updateTimers dst ephemeralPrivate now = .ok (t, .err .connectionExpired) ∧
          t.handshake.state = .expired ∧ (∀ index, t.session index = none) ∧ t.packetQueue = []) := by
  have givesUp : σ'.tunn.handshake.timer.isSome → ∀ dst ephemeralPrivate now, σ'.clock ≤ now →
      rekeyAttemptTime ≤ now.durationSince σ'.tunn.timers.timeStarted - σ'.tunn.timers.get .timeLastHandshakeStarted →
      ∃ t, σ'.tunn.updateTimers dst ephemeralPrivate now = .ok (t, .err .connectionExpired) ∧
        t.handshake.state = .expired ∧ (∀ index, t.session index = none) ∧ t.packetQueue = [] := by
    intro inFlight' dst ephemeralPrivate now later overdue
    obtain ⟨sent', timer'⟩ := Option.isSome_iff_exists.mp inFlight'
    obtain ⟨t3, gaveUp⟩ := Tunn.update_timers_gives_up (reachable_timely (attempt.reachable reachable)).before later
      timer' overdue
    obtain ⟨expired, emptied, flushed, -⟩ := Tunn.expire_connection_clears t3 now
    exact ⟨_, gaveUp, expired, emptied, flushed⟩
  cases timer : σ.tunn.handshake.timer with
  | none =>
      -- with nothing in flight the attempt has not begun
      cases attempt with
      | nil =>
          refine ⟨by simp [retries], List.isChain_nil, fun _ absent => ?_, givesUp⟩
          cases absent
      | cons inFlight _ _ =>
          rw [timer] at inFlight
          cases inFlight
  | some sent =>
      obtain ⟨startedBefore, -⟩ := (reachable_flight reachable).2 sent timer
      obtain ⟨chain, below⟩ := attempt_retries attempt reachable fun sent' timer' => by
        rw [timer] at timer'
        cases timer'
        exact ⟨le_refl _, rfl⟩
      -- every retry lies before the attempt's end, so within `REKEY_ATTEMPT_TIME` after `sent`
      have within : ∀ resent ∈ retries results, resent < sent + rekeyAttemptTime := fun resent member =>
        lt_of_lt_of_le (below resent member) (Nat.add_le_add_right startedBefore _)
      have fewer := chain_length_mul_lt (by decide) chain within
      have ceiling : ⌈(rekeyAttemptTime : ℚ) / rekeyTimeout⌉₊ = 18 := by
        norm_num [rekeyAttemptTime, rekeyTimeout]
      refine ⟨?_, chain.tail, fun sent' timer' first isFirst => ?_, givesUp⟩
      · rw [ceiling]
        simp only [rekeyAttemptTime, rekeyTimeout] at fewer
        omega
      · cases timer'
        cases retried : retries results with
        | nil =>
            rw [retried] at isFirst
            cases isFirst
        | cons head rest =>
            rw [retried] at isFirst chain
            cases isFirst
            exact (List.isChain_cons_cons.mp chain).1

theorem plain_attempt_gives_up :
    ∃ (σ σ' : Clocked Primitives.plain) (results : List (Option (Instant × TunnResult))),
      Reachable σ ∧ Attempt σ results σ' ∧ retries results = [5000000000] ∧
      (retries results).length ≤ ⌈(rekeyAttemptTime : ℚ) / rekeyTimeout⌉₊ ∧
      (retries results).IsChain (fun a b => a + rekeyTimeout ≤ b) ∧
      (∀ sent, σ.tunn.handshake.timer = some sent → ∀ first ∈ (retries results).head?, sent + rekeyTimeout ≤ first) ∧
      (σ'.tunn.handshake.timer.isSome → ∀ dst ephemeralPrivate now, σ'.clock ≤ now →
        rekeyAttemptTime ≤ now.durationSince σ'.tunn.timers.timeStarted - σ'.tunn.timers.get .timeLastHandshakeStarted →
        ∃ t, σ'.tunn.updateTimers dst ephemeralPrivate now = .ok (t, .err .connectionExpired) ∧
          t.handshake.state = .expired ∧ (∀ index, t.session index = none) ∧ t.packetQueue = []) := by
  obtain ⟨t1, packet, formatted, reachable, -, -, -, -⟩ := plain_initiator_sends
  have timer := Tunn.format_handshake_initiation_sent formatted
  have ran : (t1.updateTimers (List.replicate 148 0) (Vector.replicate 32 4) 5000000000).map
      (fun r => resentAt (some (5000000000, r.2))) = .ok (some 5000000000) := by
    have sent : t1 = (plainInitiatorTunn.formatHandshakeInitiation (List.replicate 148 0) false
        (Vector.replicate 32 3) 0).1 := by rw [formatted]
    rw [sent]
    decide +kernel
  obtain ⟨⟨t2, r⟩, updated, retried⟩ := Loop.map_eq_ok.mp ran
  have attempt : Attempt ⟨t1, 0⟩ [some (5000000000, r)] ⟨t2, 5000000000⟩ :=
    .cons (by rw [timer]; rfl) (.updateTimers _ _ _ _ t2 r (Nat.zero_le _) updated) (.nil _)
  refine ⟨_, _, _, reachable, attempt, ?_, retransmission_bounded reachable attempt⟩
  simp only [retries, List.filterMap_cons, retried, List.filterMap_nil]

end Clocked

end Boringtun.Noise
