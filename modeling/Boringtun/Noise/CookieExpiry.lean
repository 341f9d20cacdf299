import Boringtun.Noise.Retransmit

set_option autoImplicit false

/- The cookie a handshake keeps for mac2 lives only as long as `update_timers` lets it: once
   `COOKIE_EXPIRATION_TIME` has passed since it came, the timers clear it, and no other call of
   the tunnel takes one in. The 120 seconds can end inside one 128-second cookie period of the
   peer, whose limiter then still checks mac2 against the same cookie. -/
namespace Boringtun.Noise

namespace Tunn

variable {P : Primitives}

structure KeepsKeys (t t' : Tunn P) : Prop where
  params : t'.handshake.params = t.handshake.params
  noCookie : t.handshake.cookies.writeCookie = none → t'.handshake.cookies.writeCookie = none

theorem keeps_keys_refl (t : Tunn P) : KeepsKeys t t := ⟨rfl, id⟩

theorem KeepsKeys.trans {t t' t'' : Tunn P} (first : KeepsKeys t t') (second : KeepsKeys t' t'') :
    KeepsKeys t t'' :=
  ⟨second.params.trans first.params, fun none => second.noCookie (first.noCookie none)⟩

theorem keeps_keys_of_eq {t t' : Tunn P} (same : t'.handshake = t.handshake) : KeepsKeys t t' :=
  ⟨by rw [same], fun none => by rw [same]; exact none⟩

theorem keeps_keys_clear_cookie (t : Tunn P) : KeepsKeys t { t with handshake := t.handshake.clearCookie } :=
  ⟨rfl, fun _ => rfl⟩

theorem keeps_keys_expire_connection (t : Tunn P) (now : Instant) : KeepsKeys t (t.expireConnection now).1 :=
  ⟨rfl, id⟩

theorem queue_packet_handshake (t : Tunn P) (packet : Bytes) : (t.queuePacket packet).handshake = t.handshake := by
  unfold queuePacket
  split <;> rfl

theorem format_handshake_initiation_keeps_keys (t : Tunn P) (dst : Bytes) (forceResend : Bool)
    (ephemeralPrivate : Bytes32) (now : Instant) :
    KeepsKeys t (t.formatHandshakeInitiation dst forceResend ephemeralPrivate now).1 := by
  unfold formatHandshakeInitiation
  split
  · exact keeps_keys_refl t
  · dsimp only
    obtain ⟨timers, cleared⟩ := clear_expired_eq t now
    rw [cleared]
    obtain ⟨params, cookie⟩ := Handshake.call_keeps (Handshake.Call.formatInitiation t.handshake dst ephemeralPrivate now)
    have formatted : KeepsKeys t
        { t with timers, handshake := (t.handshake.formatHandshakeInitiation dst ephemeralPrivate now).1 } :=
      ⟨params, fun none => by rw [cookie]; exact none⟩
    split
    · rename_i handshake packet sent
      rw [sent] at formatted
      split <;> exact formatted.trans (keeps_keys_of_eq rfl)
    · rename_i handshake e sent
      rw [sent] at formatted
      exact formatted

theorem encapsulate_keeps_keys {t t' : Tunn P} {src dst : Bytes} {ephemeralPrivate : Bytes32} {now : Instant}
    {r : TunnResult} (encapsulated : t.encapsulate src dst ephemeralPrivate now = .ok (t', r)) : KeepsKeys t t' := by
  rcases encapsulate_cases encapsulated with ⟨session, session', packet, -, -, -, rfl⟩ | ⟨-, rfl, -⟩
  · apply keeps_keys_of_eq
    dsimp only
    split <;> rfl
  · exact (keeps_keys_of_eq (queue_packet_handshake t src)).trans (format_handshake_initiation_keeps_keys _ _ _ _ _)

theorem fire_timers_keeps_keys {t t' : Tunn P} {handshakeInitiationRequired keepaliveRequired : Bool} {dst : Bytes}
    {ephemeralPrivate : Bytes32} {now : Instant} {r : TunnResult}
    (fired : t.fireTimers handshakeInitiationRequired keepaliveRequired dst ephemeralPrivate now = .ok (t', r)) :
    KeepsKeys t t' := by
  unfold fireTimers at fired
  split at fired
  · obtain rfl := Loop.eq_fst_of_pure_eq_ok fired
    exact format_handshake_initiation_keeps_keys t dst true ephemeralPrivate now
  · split at fired
    · exact encapsulate_keeps_keys fired
    · obtain rfl := Loop.eq_fst_of_pure_eq_ok fired
      exact keeps_keys_refl _

theorem session_timer_actions_keeps_keys {t t' : Tunn P}
    {timeNow sessionEstablished autPacketReceived autPacketSent dataPacketReceived dataPacketSent : Duration}
    {persistentKeepalive : UInt16} {handshakeInitiationRequired keepaliveRequired : Bool}
    (acted : t.sessionTimerActions timeNow sessionEstablished autPacketReceived autPacketSent dataPacketReceived
      dataPacketSent persistentKeepalive = .ok (t', handshakeInitiationRequired, keepaliveRequired)) :
    KeepsKeys t t' :=
  session_timer_actions_keeps KeepsKeys keeps_keys_refl KeepsKeys.trans (fun _ => keeps_keys_of_eq rfl)
    (fun _ => keeps_keys_of_eq rfl) (fun _ => keeps_keys_of_eq rfl) acted

theorem update_timers_keeps_keys {t t' : Tunn P} {dst : Bytes} {ephemeralPrivate : Bytes32} {now : Instant}
    {r : TunnResult} (updated : t.updateTimers dst ephemeralPrivate now = .ok (t', r)) : KeepsKeys t t' := by
  obtain ⟨t0, t2, -, -, sameHandshake, -, refreshed, rest⟩ := update_timers_cookie_tail KeepsKeys KeepsKeys.trans
    (fun t => keeps_keys_expire_connection t _) session_timer_actions_keeps_keys fire_timers_keeps_keys updated
  -- the session loop leaves the handshake; the cookie check keeps its keys whether it clears or not
  have looped : KeepsKeys t t2 := keeps_keys_of_eq ((update_session_timers_handshake refreshed).trans sameHandshake)
  rcases rest with ⟨-, rfl⟩ | ⟨cookieExpired, -, rest⟩
  · exact looped
  refine looped.trans (KeepsKeys.trans ?_ rest)
  split
  · exact keeps_keys_clear_cookie t2
  · exact keeps_keys_refl t2

theorem update_timers_clears_cookie {t t' : Tunn P} {dst : Bytes} {ephemeralPrivate : Bytes32} {now : Instant}
    {r : TunnResult} (updated : t.updateTimers dst ephemeralPrivate now = .ok (t', r))
    (live : t.handshake.isExpired = false)
    (due : cookieExpirationTime ≤ now.durationSince t.timers.timeStarted - t.timers.get .timeCookieReceived) :
    t'.handshake.cookies.writeCookie = none := by
  obtain ⟨t0, t2, -, sameTimers, sameHandshake, -, refreshed, rest⟩ := update_timers_cookie_tail KeepsKeys
    KeepsKeys.trans (fun t => keeps_keys_expire_connection t _) session_timer_actions_keeps_keys fire_timers_keeps_keys updated
  have handshake2 : t2.handshake = t.handshake := (update_session_timers_handshake refreshed).trans sameHandshake
  -- the loop moved the current time only, so the cookie's timer reads as before
  obtain ⟨timers2, -⟩ := fold_expire_session _ (List.nodup_finRange nSessions) refreshed
  have received : t2.timers.get .timeCookieReceived = t.timers.get .timeCookieReceived := by
    have loaded : t2.timers.get .timeCookieReceived =
        (t0.timers.set .timeCurrent (now.durationSince t0.timers.timeStarted)).get .timeCookieReceived := by
      simp only [Timers.get, timers2]
    rw [loaded, Timers.get_set, if_neg (by decide), sameTimers]
  rw [sameTimers] at rest
  rcases rest with ⟨expired, -⟩ | ⟨cookieExpired, checked, rest⟩
  · rw [handshake2, live] at expired
    cases expired
  refine rest.noCookie ?_
  cases has : t2.handshake.hasCookie
  · -- there was no cookie to clear
    have none2 : t2.handshake.cookies.writeCookie = none := by
      simpa [Handshake.hasCookie] using has
    split
    · rfl
    · exact none2
  · have past : t.timers.get .timeCookieReceived ≤ now.durationSince t.timers.timeStarted :=
      Nat.le_of_lt (Nat.lt_of_sub_pos (lt_of_lt_of_le (by decide) due))
    rw [has, received, elapsed_at_least_ok true cookieExpirationTime past] at checked
    cases checked
    rw [if_pos (by simpa using due)]
    rfl

theorem handle_cookie_reply_opened {t : Tunn P} {p : PacketCookieReply} {handshake : Handshake P}
    (opened : t.handshake.receiveCookieReply p = .ok (handshake, .ok ())) :
    t.handleCookieReply p =
      .ok ((({ t with handshake } : Tunn P).timerTick .timeLastPacketReceived).timerTick .timeCookieReceived, .done) := by
  rw [handleCookieReply, opened]
  rfl

theorem format_handshake_initiation_starts (t : Tunn P) (dst : Bytes) (forceResend : Bool)
    (ephemeralPrivate : Bytes32) (now : Instant) (idle : t.handshake.isInProgress = false) {handshake : Handshake P}
    {packet : Bytes} (formatted : t.handshake.formatHandshakeInitiation dst ephemeralPrivate now = (handshake, .ok packet)) :
    ∃ t', t.formatHandshakeInitiation dst forceResend ephemeralPrivate now = (t', .writeToNetwork packet) ∧
      t'.handshake = handshake := by
  unfold formatHandshakeInitiation
  rw [if_neg (by simp [idle])]
  dsimp only
  obtain ⟨timers, cleared⟩ := clear_expired_eq t now
  rw [cleared]
  dsimp only
  rw [formatted, idle]
  exact ⟨_, rfl, rfl⟩

end Tunn

/-! A run in which the cookie is gone before the period ends: A's tunnel takes a cookie from B's
    loaded limiter, its timers clear it 120 seconds later, and the initiation A then writes is
    answered, in the same cookie period, with another cookie reply. -/

-- A's tunnel, for B's public key, and B's limiter, loaded from the first message on.
def keyedInitiator : Tunn Primitives.keyed :=
  Tunn.new Primitives.keyed (Vector.replicate 32 1) (Vector.replicate 32 2) none none 1 none ⟨1000000000, 0⟩ 0
    (Vector.replicate 32 0) (Vector.replicate 16 0)

def loadedLimiter : RateLimiter :=
  RateLimiter.new Primitives.keyed (Vector.replicate 32 2) 0 (Vector.replicate 32 0) (Vector.replicate 16 1) 0

theorem loaded_cookie_keyed {rl : RateLimiter} (keys : RateLimiter.SameKeys loadedLimiter rl) (addr : IpAddr)
    (now : Instant) (message mac1 : Bytes) :
    b2sKeyedMac16_2 Primitives.keyed (rl.currentCookie Primitives.keyed addr now).toList message mac1 ≠
      Vector.replicate 16 0 := by
  have cookie : rl.currentCookie Primitives.keyed addr now = Vector.replicate 16 1 := by
    rw [RateLimiter.currentCookie, keys.secret_key]
    rfl
  rw [cookie]
  show Vector.replicate 16 ((Vector.replicate 16 (1 : UInt8)).toList.headD 0) ≠ Vector.replicate 16 0
  decide

open RateLimiter in
theorem cookie_expires_within_period :
    ∃ (A1 A2 A3 A4 : Tunn Primitives.keyed) (m c m' : Bytes) (reply : PacketCookieReply) (rl1 : RateLimiter)
      (r : TunnResult),
      keyedInitiator.formatHandshakeInitiation (List.replicate 148 0) false (Vector.replicate 32 3) 0 =
        (A1, .writeToNetwork m) ∧
      loadedLimiter.verifyPacket Primitives.keyed (some (.v4 (Vector.replicate 4 10))) m (List.replicate 64 0) 0 =
        (rl1, .error (.writeToNetwork c)) ∧
      parseIncomingPacket c = .ok (.packetCookieReply reply) ∧
      A1.handleCookieReply reply = .ok (A2, .done) ∧ A2.handshake.hasCookie = true ∧
      A2.updateTimers (List.replicate 148 0) (Vector.replicate 32 4) (120 * 1000000000) = .ok (A3, r) ∧
      A3.handshake.hasCookie = false ∧
      A3.encapsulate [0x45] (List.replicate 148 0) (Vector.replicate 32 5) (121 * 1000000000) =
        .ok (A4, .writeToNetwork m') ∧
      rl1.curCounter (121 * 1000000000) = loadedLimiter.curCounter 0 ∧
      ∃ rl2 c', rl1.verifyPacket Primitives.keyed (some (.v4 (Vector.replicate 4 10))) m' (List.replicate 64 0)
        (121 * 1000000000) = (rl2, .error (.writeToNetwork c')) := by
  have roomy : handshakeInitSz ≤ (List.replicate 148 (0 : UInt8)).length := by simp [handshakeInitSz]
  have roomyReply : cookieReplySz ≤ (List.replicate 64 (0 : UInt8)).length := by simp [cookieReplySz]
  -- A's first initiation, written by its idle tunnel, carries no mac2
  obtain ⟨m, formatted, -⟩ := Handshake.parse_format_initiation keyedInitiator.handshake _ (Vector.replicate 32 3) 0
    roomy
  obtain ⟨h1, initiated⟩ : ∃ h1, keyedInitiator.handshake.formatHandshakeInitiation (List.replicate 148 0)
      (Vector.replicate 32 3) 0 = (h1, .ok m) := ⟨_, by rw [← formatted]⟩
  have sent := Handshake.format_initiation_sends _ _ _ _ _ m initiated
  obtain ⟨A1, wrote, handshake1, timers1⟩ : ∃ A1 : Tunn Primitives.keyed,
      keyedInitiator.formatHandshakeInitiation (List.replicate 148 0) false (Vector.replicate 32 3) 0 =
        (A1, .writeToNetwork m) ∧ A1.handshake = h1 ∧
      A1.timers = (keyedInitiator.timers.tick .timeLastHandshakeStarted).tick .timeLastPacketSent :=
    ⟨_, Tunn.format_handshake_initiation_idle keyedInitiator _ false _ 0 rfl h1 m initiated, rfl, rfl⟩
  obtain ⟨rl1, c, replied⟩ := sent_without_cookie_refused (Vector.replicate 32 2) 0 (Vector.replicate 32 0)
    (Vector.replicate 16 1) 0 loadedLimiter (same_keys_refl _) rfl rfl sent (by decide) (.v4 (Vector.replicate 4 10)) 0
    _ roomyReply (loaded_cookie_keyed (same_keys_refl _) _ 0)
  have keys1 : SameKeys loadedLimiter rl1 := by
    have counted := verify_packet_same_keys Primitives.keyed loadedLimiter (some (.v4 (Vector.replicate 4 10))) m
      (List.replicate 64 0) 0
    rwa [replied] at counted
  -- A opens the reply and keeps the cookie
  obtain ⟨reply, replyParsed, opens⟩ := cookie_reply_opens (Vector.replicate 32 2) 0 (Vector.replicate 32 0)
    (Vector.replicate 16 1) 0 Primitives.keyed_x_open_seal loadedLimiter rl1 (same_keys_refl _) rfl sent _ 0 _ c replied
  obtain ⟨A2, handled, handshake2, timers2⟩ : ∃ A2 : Tunn Primitives.keyed, A1.handleCookieReply reply = .ok (A2, .done) ∧
      A2.handshake = { A1.handshake with cookies := { A1.handshake.cookies with
        writeCookie := some (loadedLimiter.currentCookie Primitives.keyed (.v4 (Vector.replicate 4 10)) 0) } } ∧
      A2.timers = (A1.timers.tick .timeLastPacketReceived).tick .timeCookieReceived :=
    ⟨_, Tunn.handle_cookie_reply_opened (opens A1.handshake (by rw [handshake1]) (by rw [handshake1])), rfl, rfl⟩
  -- 120 seconds on, the initiation has been in flight past REKEY_ATTEMPT_TIME and the cookie
  -- past COOKIE_EXPIRATION_TIME: the timers give up and clear the cookie
  have before : A2.timers.Before 0 := by
    rw [timers2, timers1]
    exact (((Timers.before_new none true 0).ticked (Timers.ticked_tick _ _)).ticked (Timers.ticked_tick _ _)).ticked
      ((Timers.ticked_tick _ _).trans (Timers.ticked_tick _ _))
  have inFlight : A2.handshake.timer = some 0 := by
    have timer1 : h1.timer = some 0 := Handshake.format_initiation_timer initiated
    rw [handshake2, handshake1]
    exact timer1
  have overdue : rekeyAttemptTime ≤
      Instant.durationSince (120 * 1000000000) A2.timers.timeStarted - A2.timers.get .timeLastHandshakeStarted := by
    rw [timers2, timers1]
    decide
  have due : cookieExpirationTime ≤
      Instant.durationSince (120 * 1000000000) A2.timers.timeStarted - A2.timers.get .timeCookieReceived := by
    rw [timers2, timers1]
    decide
  obtain ⟨t3, updated⟩ := @Tunn.update_timers_gives_up Primitives.keyed A2 (List.replicate 148 0)
    (Vector.replicate 32 4) 0 (120 * 1000000000) 0 before (Nat.zero_le _) inFlight overdue
  have cleared : (t3.expireConnection (120 * 1000000000)).1.handshake.cookies.writeCookie = none :=
    Tunn.update_timers_clears_cookie updated (Handshake.not_expired_of_timer inFlight) due
  have params3 : (t3.expireConnection (120 * 1000000000)).1.handshake.params = A2.handshake.params :=
    (Tunn.update_timers_keeps_keys updated).params
  obtain ⟨expired, vacant, -, -⟩ := Tunn.expire_connection_clears t3 (120 * 1000000000)
  -- the next packet finds no session and starts a new handshake, whose initiation has no mac2
  have idle : ((t3.expireConnection (120 * 1000000000)).1.queuePacket [0x45]).handshake.isInProgress = false := by
    rw [Tunn.queue_packet_handshake]
    simp [Handshake.isInProgress, expired]
  obtain ⟨m', formatted', -⟩ := Handshake.parse_format_initiation
    ((t3.expireConnection (120 * 1000000000)).1.queuePacket [0x45]).handshake _ (Vector.replicate 32 5)
    (121 * 1000000000) roomy
  obtain ⟨h4, initiated'⟩ : ∃ h4, ((t3.expireConnection (120 * 1000000000)).1.queuePacket [0x45]).handshake.formatHandshakeInitiation
      (List.replicate 148 0) (Vector.replicate 32 5) (121 * 1000000000) = (h4, .ok m') := ⟨_, by rw [← formatted']⟩
  have sent' := Handshake.format_initiation_sends _ _ _ _ _ m' initiated'
  obtain ⟨A4, wrote', -⟩ := Tunn.format_handshake_initiation_starts _ _ false _ _ idle initiated'
  have encapsulated := (Tunn.encapsulate_without_session _ [0x45] (List.replicate 148 0) (Vector.replicate 32 5)
    (121 * 1000000000) (vacant _)).trans (congrArg Except.ok wrote')
  -- B, in the same period and still loaded, answers it with a cookie reply again
  obtain ⟨-, -, -, -, -, -, params1, -⟩ := sent
  have peer' : ((t3.expireConnection (120 * 1000000000)).1.queuePacket [0x45]).handshake.params.peerStaticPublic =
      Vector.replicate 32 2 := by
    rw [Tunn.queue_packet_handshake, params3, handshake2]
    show A1.handshake.params.peerStaticPublic = _
    rw [handshake1, params1]
    rfl
  have noCookie' : ((t3.expireConnection (120 * 1000000000)).1.queuePacket [0x45]).handshake.cookies.writeCookie =
      none := by
    rw [Tunn.queue_packet_handshake]
    exact cleared
  have loaded1 : rl1.limit ≤ rl1.count := by
    rw [keys1.limit]
    exact UInt64.zero_le
  obtain ⟨rl2, c', refused⟩ := sent_without_cookie_refused (Vector.replicate 32 2) 0 (Vector.replicate 32 0)
    (Vector.replicate 16 1) 0 rl1 keys1 peer' noCookie' sent' loaded1 (.v4 (Vector.replicate 4 10))
    (121 * 1000000000) _ roomyReply (loaded_cookie_keyed keys1 _ _)
  have period : rl1.curCounter (121 * 1000000000) = loadedLimiter.curCounter 0 := by
    rw [curCounter, curCounter, keys1.start_time]
    decide
  exact ⟨A1, A2, (t3.expireConnection (120 * 1000000000)).1, A4, m, c, m', reply, rl1,
    (t3.expireConnection (120 * 1000000000)).2, wrote, replied, replyParsed, handled, by rw [handshake2]; rfl,
    updated, by simp [Handshake.hasCookie, cleared], encapsulated, period, rl2, c', refused⟩

end Boringtun.Noise
