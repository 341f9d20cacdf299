import Boringtun.Lib.Loop
import Boringtun.Noise.Tunn

set_option autoImplicit false

/- The tunnel's side of `noise/timers.rs`: `update_timers`, called periodically, expires old
   sessions, gives up on a handshake that takes too long and decides whether a new handshake or
   a keepalive is due. Every `checked_sub(..).unwrap()` is a possible panic, so these functions
   return `Except String`. -/
namespace Boringtun.Noise

-- `now.checked_sub(earlier).unwrap()`: the unwrap panics when the timer lies in the future.
def checkedSubUnwrap (now earlier : Duration) : Except String Duration :=
  if earlier ≤ now then .ok (now - earlier) else .error "called Option::unwrap() on a None value"

-- `guard && now.checked_sub(since).unwrap() >= limit`, evaluated left to right, so the
-- subtraction is only made when the guard holds.
def elapsedAtLeast (guard : Bool) (now since limit : Duration) : Except String Bool :=
  if guard then do
    let elapsed ← checkedSubUnwrap now since
    return decide (limit ≤ elapsed)
  else return false

theorem checked_sub_unwrap_ok {now earlier : Duration} (before : earlier ≤ now) :
    checkedSubUnwrap now earlier = .ok (now - earlier) := by
  simp [checkedSubUnwrap, before]

theorem elapsed_at_least_ok (guard : Bool) {now since : Duration} (limit : Duration) (before : since ≤ now) :
    elapsedAtLeast guard now since limit = .ok (guard && decide (limit ≤ now - since)) := by
  cases guard <;> simp [elapsedAtLeast, checked_sub_unwrap_ok before, bind, Except.bind, pure, Except.pure]

theorem elapsed_at_least_bind_error {α : Type} {guard : Bool} {now since limit : Duration}
    {f : Bool → Except String α} {msg : String} (before : since ≤ now)
    (failed : (elapsedAtLeast guard now since limit >>= f) = .error msg) : ∃ b, f b = .error msg := by
  rw [elapsed_at_least_ok guard limit before] at failed
  exact ⟨_, failed⟩

namespace Tunn

variable {P : Primitives}

def clearAll (t : Tunn P) (now : Instant) : Tunn P :=
  { t with sessions := Vector.replicate nSessions none, packetQueue := [], timers := t.timers.clear now }

-- One iteration of `update_session_timers`: a session older than `REJECT_AFTER_TIME` is taken
-- out of its slot and the slot's timer restarts.
def expireSession (t : Tunn P) (timeNow : Duration) (i : Fin nSessions) : Except String (Tunn P) := do
  let elapsed ← checkedSubUnwrap timeNow (getElem t.timers.sessionTimers i i.isLt)
  if elapsed > rejectAfterTime then
    return { t with
      sessions := t.sessions.set i none i.isLt
      timers := { t.timers with sessionTimers := t.timers.sessionTimers.set i timeNow i.isLt } }
  else return t

def updateSessionTimers (t : Tunn P) (timeNow : Duration) : Except String (Tunn P) :=
  (List.finRange nSessions).foldlM (fun t i => t.expireSession timeNow i) t

def takeWantHandshake (t : Tunn P) : Tunn P × Bool :=
  ({ t with timers := { t.timers with wantHandshake := false } }, t.timers.wantHandshake)

def takeWantKeepalive (t : Tunn P) : Tunn P × Bool :=
  ({ t with timers := { t.timers with wantKeepalive := false } }, t.timers.wantKeepalive)

-- The checks of `update_timers` when no initiation is in flight: whether a new handshake or a
-- keepalive is due. The timers were loaded once, before the cookie was cleared.
def sessionTimerActions (t : Tunn P) (timeNow sessionEstablished autPacketReceived autPacketSent
    dataPacketReceived dataPacketSent : Duration) (persistentKeepalive : UInt16) :
    Except String (Tunn P × Bool × Bool) := do
  -- only the original initiator rekeys after REKEY_AFTER_TIME on send, or before
  -- REJECT_AFTER_TIME on receive
  let onSend ← elapsedAtLeast (t.timers.isInitiator && decide (sessionEstablished < dataPacketSent)) timeNow
    sessionEstablished rekeyAfterTime
  let onReceive ← elapsedAtLeast (t.timers.isInitiator && decide (sessionEstablished < dataPacketReceived)) timeNow
    sessionEstablished (rejectAfterTime - keepaliveTimeout - rekeyTimeout)
  -- sent data without hearing back for KEEPALIVE + REKEY_TIMEOUT: the wish is consumed only then
  let unanswered ← elapsedAtLeast (decide (dataPacketSent > autPacketReceived)) timeNow autPacketReceived
    (keepaliveTimeout + rekeyTimeout)
  let (t, wantedHandshake) := if unanswered then t.takeWantHandshake else (t, false)
  if onSend || onReceive || wantedHandshake then return (t, true, false)
  let unreplied ← elapsedAtLeast (decide (dataPacketReceived > autPacketSent)) timeNow autPacketSent keepaliveTimeout
  let (t, wantedKeepalive) := if unreplied then t.takeWantKeepalive else (t, false)
  let persistentDue ← elapsedAtLeast (decide (persistentKeepalive > 0)) timeNow
    (t.timers.get .timePersistentKeepalive) (persistentKeepalive.toNat * 1000000000)
  let t := if persistentDue then t.timerTick .timePersistentKeepalive else t
  return (t, false, wantedKeepalive || persistentDue)

def fireTimers (t : Tunn P) (handshakeInitiationRequired keepaliveRequired : Bool) (dst : Bytes)
    (ephemeralPrivate : Bytes32) (now : Instant) : Except String (Tunn P × TunnResult) :=
  if handshakeInitiationRequired then return t.formatHandshakeInitiation dst true ephemeralPrivate now
  else if keepaliveRequired then t.encapsulate [] dst ephemeralPrivate now
  else return (t, .done)

def expireConnection (t : Tunn P) (now : Instant) : Tunn P × TunnResult :=
  (({ t with handshake := t.handshake.setExpired }).clearAll now, .err .connectionExpired)

def updateTimers (t : Tunn P) (dst : Bytes) (ephemeralPrivate : Bytes32) (now : Instant) :
    Except String (Tunn P × TunnResult) := do
  let t := if t.timers.shouldResetRr then { t with rateLimiter := t.rateLimiter.resetCount now } else t
  let timeNow := now.durationSince t.timers.timeStarted
  let t := { t with timers := t.timers.set .timeCurrent timeNow }
  let t ← t.updateSessionTimers timeNow
  let sessionEstablished := t.timers.get .timeSessionEstablished
  let handshakeStarted := t.timers.get .timeLastHandshakeStarted
  let autPacketReceived := t.timers.get .timeLastPacketReceived
  let autPacketSent := t.timers.get .timeLastPacketSent
  let dataPacketReceived := t.timers.get .timeLastDataPacketReceived
  let dataPacketSent := t.timers.get .timeLastDataPacketSent
  let persistentKeepalive := t.timers.persistentKeepalive
  if t.handshake.isExpired then return (t, .err .connectionExpired)
  -- Clear cookie after COOKIE_EXPIRATION_TIME
  let cookieExpired ← elapsedAtLeast t.handshake.hasCookie timeNow (t.timers.get .timeCookieReceived)
    cookieExpirationTime
  let t := if cookieExpired then { t with handshake := t.handshake.clearCookie } else t
  -- keys are dropped after REJECT_AFTER_TIME * 3 without a new exchange
  if ← elapsedAtLeast true timeNow sessionEstablished (rejectAfterTime * 3) then return t.expireConnection now
  match t.handshake.timer with
  | some timeInitSent =>
      -- Handshake Initiation Retransmission, or give up after REKEY_ATTEMPT_TIME
      if ← elapsedAtLeast true timeNow handshakeStarted rekeyAttemptTime then return t.expireConnection now
      -- `time_init_sent.elapsed()` reads the clock again and saturates at zero
      t.fireTimers (decide (rekeyTimeout ≤ now.durationSince timeInitSent)) false dst ephemeralPrivate now
  | none =>
      let (t, handshakeInitiationRequired, keepaliveRequired) ← t.sessionTimerActions timeNow sessionEstablished
        autPacketReceived autPacketSent dataPacketReceived dataPacketSent persistentKeepalive
      t.fireTimers handshakeInitiationRequired keepaliveRequired dst ephemeralPrivate now

def timeSinceLastHandshake (t : Tunn P) (now : Instant) : Except String (Option Duration) :=
  if (t.session t.current).isSome then
    let durationSinceTunStart := now.durationSince t.timers.timeStarted
    let durationSinceSessionEstablished := t.timers.get .timeSessionEstablished
    some <$> checkedSubUnwrap durationSinceTunStart durationSinceSessionEstablished
  else .ok none

def persistentKeepalive (t : Tunn P) : Option UInt16 :=
  let keepalive := t.timers.persistentKeepalive
  if keepalive > 0 then some keepalive else none

-- `stats` without the loss estimate, which is computed in `f32` and read by no modelled caller:
-- the time since the last handshake, the bytes sent and received and the last round trip.
def stats (t : Tunn P) (now : Instant) : Except String (Option Duration × ℕ × ℕ × Option UInt32) := do
  let time ← t.timeSinceLastHandshake now
  return (time, t.txBytes, t.rxBytes, t.handshake.lastRtt)

-- `SystemTime::now().duration_since(UNIX_EPOCH).ok()?.checked_sub(..)`: the wall clock is an
-- argument, and a handshake that would lie before the epoch gives `None`.
def lastHandshakeTime (t : Tunn P) (now : Instant) (sinceEpoch : Duration) : Except String (Option Duration) := do
  match ← t.timeSinceLastHandshake now with
  | none => return none
  | some time => return if time ≤ sinceEpoch then some (sinceEpoch - time) else none

/-! Session timers that lie in the past keep `update_session_timers` from panicking. -/

def SessionTimersBefore (t : Tunn P) (timeNow : Duration) : Prop :=
  ∀ i : Fin nSessions, getElem t.timers.sessionTimers i i.isLt ≤ timeNow

theorem expire_session_ok (t : Tunn P) (timeNow : Duration) (i : Fin nSessions)
    (before : SessionTimersBefore t timeNow) :
    ∃ t', t.expireSession timeNow i = .ok t' ∧ SessionTimersBefore t' timeNow := by
  unfold expireSession
  rw [checked_sub_unwrap_ok (before i)]
  by_cases old : timeNow - getElem t.timers.sessionTimers i i.isLt > rejectAfterTime
  · refine ⟨_, by simp only [bind, Except.bind, old, if_true]; rfl, ?_⟩
    intro j
    by_cases same : j = i
    · subst same
      simp
    · simpa [Vector.getElem_set_ne _ _ (Fin.val_ne_of_ne (Ne.symm same))] using before j
  · exact ⟨t, by simp only [bind, Except.bind, old, if_false]; rfl, before⟩

theorem update_session_timers_ok (t : Tunn P) (timeNow : Duration) (before : SessionTimersBefore t timeNow) :
    ∃ t', t.updateSessionTimers timeNow = .ok t' ∧ SessionTimersBefore t' timeNow :=
  -- each iteration of the loop over the slots keeps the timers in the past
  Loop.foldlM_invariant (fun t => SessionTimersBefore t timeNow) _ _
    (fun t i _ before => expire_session_ok t timeNow i before) t before

end Tunn

end Boringtun.Noise
