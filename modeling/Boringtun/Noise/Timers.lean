import Boringtun.Noise.Handshake

set_option autoImplicit false

/- `noise/timers.rs`: the timer record of a tunnel. Every timer holds a `Duration` counted from
   the tunnel's start; `Instant::now()` is an argument of the operations that read it. -/
namespace Boringtun.Noise

def rekeyAfterTime : Duration := 120 * 1000000000
def rejectAfterTime : Duration := 180 * 1000000000
def rekeyAttemptTime : Duration := 90 * 1000000000
def rekeyTimeout : Duration := 5 * 1000000000
def keepaliveTimeout : Duration := 10 * 1000000000
def cookieExpirationTime : Duration := 120 * 1000000000

def nSessions : ℕ := 8

def slot (index : ℕ) : Fin nSessions := ⟨index % nSessions, Nat.mod_lt _ (by decide)⟩

theorem slot_lt (index : ℕ) : (slot index : ℕ) < nSessions := (slot index).isLt

inductive TimerName where
  | timeCurrent
  | timeSessionEstablished
  | timeLastHandshakeStarted
  | timeLastPacketReceived
  | timeLastPacketSent
  | timeLastDataPacketReceived
  | timeLastDataPacketSent
  | timeCookieReceived
  | timePersistentKeepalive
deriving DecidableEq, Repr

def TimerName.index : TimerName → Fin 9
  | .timeCurrent => 0
  | .timeSessionEstablished => 1
  | .timeLastHandshakeStarted => 2
  | .timeLastPacketReceived => 3
  | .timeLastPacketSent => 4
  | .timeLastDataPacketReceived => 5
  | .timeLastDataPacketSent => 6
  | .timeCookieReceived => 7
  | .timePersistentKeepalive => 8

structure Timers where
  isInitiator : Bool
  timeStarted : Instant
  timers : Vector Duration 9
  sessionTimers : Vector Duration nSessions
  wantKeepalive : Bool
  wantHandshake : Bool
  persistentKeepalive : UInt16
  shouldResetRr : Bool
deriving DecidableEq, Repr

namespace Timers

def new (persistentKeepalive : Option UInt16) (resetRr : Bool) (now : Instant) : Timers :=
  { isInitiator := false
    timeStarted := now
    timers := Vector.replicate 9 0
    sessionTimers := Vector.replicate nSessions 0
    wantKeepalive := false
    wantHandshake := false
    persistentKeepalive := persistentKeepalive.getD 0
    shouldResetRr := resetRr }

def get (timers : Timers) (name : TimerName) : Duration := timers.timers[name.index]

def set (timers : Timers) (name : TimerName) (time : Duration) : Timers :=
  { timers with timers := timers.timers.set name.index time }

-- Not a real clear: every timer moves to the current time, so that the frame of reference stays.
def clear (timers : Timers) (now : Instant) : Timers :=
  let now := now.durationSince timers.timeStarted
  { timers with timers := Vector.replicate 9 now, wantHandshake := false, wantKeepalive := false }

-- `timer_tick`: the named timer takes the current time; sending and receiving also flip the
-- wish for a handshake or a keepalive.
def tick (timers : Timers) (name : TimerName) : Timers :=
  let timers :=
    match name with
    | .timeLastPacketReceived => { timers with wantKeepalive := true, wantHandshake := false }
    | .timeLastPacketSent => { timers with wantHandshake := true, wantKeepalive := false }
    | _ => timers
  let time := timers.get .timeCurrent
  timers.set name time

def sessionEstablished (timers : Timers) (isInitiator : Bool) (sessionIdx : ℕ) : Timers :=
  let timers := timers.tick .timeSessionEstablished
  { timers with
    sessionTimers := timers.sessionTimers.set (slot sessionIdx) (timers.get .timeCurrent) (slot_lt sessionIdx)
    isInitiator }

@[simp] theorem get_session_established (timers : Timers) (isInitiator : Bool) (sessionIdx : ℕ) (name : TimerName) :
    (timers.sessionEstablished isInitiator sessionIdx).get name = (timers.tick .timeSessionEstablished).get name := rfl

@[simp] theorem time_started_session_established (timers : Timers) (isInitiator : Bool) (sessionIdx : ℕ) :
    (timers.sessionEstablished isInitiator sessionIdx).timeStarted = (timers.tick .timeSessionEstablished).timeStarted :=
  rfl

theorem get_set (timers : Timers) (name other : TimerName) (time : Duration) :
    (timers.set name time).get other = if name = other then time else timers.get other := by
  unfold get set
  by_cases same : name = other
  · subst same
    simp
  · have apart : (name.index : ℕ) ≠ other.index := by
      cases name <;> cases other <;> simp_all [TimerName.index]
    simp [same, Vector.getElem_set_ne _ _ apart]

@[simp] theorem tick_session_timers (timers : Timers) (name : TimerName) :
    (timers.tick name).sessionTimers = timers.sessionTimers := by
  unfold tick set
  cases name <;> rfl

@[simp] theorem tick_time_started (timers : Timers) (name : TimerName) :
    (timers.tick name).timeStarted = timers.timeStarted := by
  unfold tick set
  cases name <;> rfl

theorem tick_get (timers : Timers) (name other : TimerName) :
    (timers.tick name).get other = if name = other then timers.get .timeCurrent else timers.get other := by
  unfold tick
  cases name <;> simp only [get_set] <;> rfl

theorem tick_get_current (timers : Timers) (name : TimerName) :
    (timers.tick name).get .timeCurrent = timers.get .timeCurrent := by
  rw [tick_get]
  split <;> simp_all

@[simp] theorem session_established_session_timers (timers : Timers) (isInitiator : Bool) (sessionIdx : ℕ) :
    (timers.sessionEstablished isInitiator sessionIdx).sessionTimers =
      timers.sessionTimers.set (slot sessionIdx) (timers.get .timeCurrent) (slot_lt sessionIdx) := by
  simp [sessionEstablished, tick_get_current]

/-! Timers that lie in the past: every timer and every session timer is at or before the cached
    current time, which is at or before the clock. Ticks keep this, and so does moving the current
    time up to a later reading of the clock. -/

structure Before (timers : Timers) (clock : Instant) : Prop where
  current : timers.get .timeCurrent ≤ clock.durationSince timers.timeStarted
  named : ∀ name, timers.get name ≤ timers.get .timeCurrent
  sessions : ∀ i : Fin nSessions, getElem timers.sessionTimers i i.isLt ≤ timers.get .timeCurrent

structure Ticked (timers timers' : Timers) : Prop where
  timeStarted : timers'.timeStarted = timers.timeStarted
  current : timers'.get .timeCurrent = timers.get .timeCurrent
  named : ∀ name, timers'.get name = timers.get name ∨ timers'.get name = timers.get .timeCurrent
  sessions : timers'.sessionTimers = timers.sessionTimers

theorem ticked_refl (timers : Timers) : Ticked timers timers := ⟨rfl, rfl, fun _ => .inl rfl, rfl⟩

theorem Ticked.trans {timers timers' timers'' : Timers} (first : Ticked timers timers')
    (second : Ticked timers' timers'') : Ticked timers timers'' := by
  refine ⟨second.timeStarted.trans first.timeStarted, second.current.trans first.current, fun name => ?_,
    second.sessions.trans first.sessions⟩
  rcases second.named name with same | ticked
  · rw [same]
    exact first.named name
  · exact .inr (ticked.trans first.current)

theorem ticked_tick (timers : Timers) (name : TimerName) : Ticked timers (timers.tick name) := by
  refine ⟨tick_time_started timers name, tick_get_current timers name, fun other => ?_, tick_session_timers timers name⟩
  rw [tick_get]
  split
  · exact .inr rfl
  · exact .inl rfl

theorem Before.ticked {timers timers' : Timers} {clock : Instant} (before : timers.Before clock)
    (ticked : Ticked timers timers') : timers'.Before clock := by
  refine ⟨?_, fun name => ?_, fun i => ?_⟩
  · rw [ticked.current, ticked.timeStarted]
    exact before.current
  · rw [ticked.current]
    rcases ticked.named name with same | current
    · rw [same]
      exact before.named name
    · rw [current]
  · rw [ticked.current, ticked.sessions]
    exact before.sessions i

theorem Before.current_le {timers : Timers} {clock now : Instant} (before : timers.Before clock) (later : clock ≤ now) :
    timers.get .timeCurrent ≤ now.durationSince timers.timeStarted :=
  le_trans before.current (Nat.sub_le_sub_right later _)

theorem Before.mono {timers : Timers} {clock now : Instant} (before : timers.Before clock) (later : clock ≤ now) :
    timers.Before now :=
  ⟨before.current_le later, before.named, before.sessions⟩

theorem Before.get_le {timers : Timers} {clock : Instant} (before : timers.Before clock) (name : TimerName) :
    timers.get name ≤ clock.durationSince timers.timeStarted :=
  le_trans (before.named name) before.current

theorem before_new (persistentKeepalive : Option UInt16) (resetRr : Bool) (now : Instant) :
    (new persistentKeepalive resetRr now).Before now :=
  ⟨by simp [new, get], fun _ => by simp [new, get], fun _ => by simp [new]⟩

theorem clear_get (timers : Timers) (now : Instant) (name : TimerName) :
    (timers.clear now).get name = now.durationSince timers.timeStarted := by
  simp [clear, get]

theorem before_clear {timers : Timers} {clock now : Instant} (before : timers.Before clock) (later : clock ≤ now) :
    (timers.clear now).Before now := by
  refine ⟨le_of_eq (clear_get timers now _), fun name => by rw [clear_get, clear_get], fun i => ?_⟩
  rw [clear_get]
  exact le_trans (before.sessions i) (before.current_le later)

theorem before_set_current {timers : Timers} {clock now : Instant} (before : timers.Before clock)
    (later : clock ≤ now) :
    (timers.set .timeCurrent (now.durationSince timers.timeStarted)).Before now := by
  have moved : (timers.set .timeCurrent (now.durationSince timers.timeStarted)).get .timeCurrent =
      now.durationSince timers.timeStarted := by
    rw [get_set, if_pos rfl]
  refine ⟨le_of_eq moved, fun name => ?_, fun i => ?_⟩
  · rw [moved, get_set]
    split
    · exact le_refl _
    · exact le_trans (before.named name) (before.current_le later)
  · rw [moved]
    exact le_trans (before.sessions i) (before.current_le later)

theorem before_stamp {timers : Timers} {clock : Instant} (before : timers.Before clock) (i : Fin nSessions) :
    { timers with sessionTimers := timers.sessionTimers.set i (timers.get .timeCurrent) i.isLt }.Before clock := by
  refine ⟨before.current, before.named, fun j => ?_⟩
  by_cases same : j = i
  · subst same
    simp [get]
  · simpa [Vector.getElem_set_ne _ _ (Fin.val_ne_of_ne (Ne.symm same)), get] using before.sessions j

theorem before_session_established {timers : Timers} {clock : Instant} (before : timers.Before clock)
    (isInitiator : Bool) (sessionIdx : ℕ) : (timers.sessionEstablished isInitiator sessionIdx).Before clock := by
  -- the session timer takes the current time after the tick, which left that time as it was
  have stamped := before_stamp (before.ticked (ticked_tick timers .timeSessionEstablished)) (slot sessionIdx)
  exact ⟨stamped.current, stamped.named, stamped.sessions⟩

end Timers

end Boringtun.Noise
