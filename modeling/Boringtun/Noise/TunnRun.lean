import Boringtun.Noise.HandshakeRun
import Boringtun.Noise.TunnTimers

set_option autoImplicit false

/- Runs of a tunnel on a monotonic clock: every interleaving of `encapsulate`, `decapsulate`,
   `format_handshake_initiation`, `set_static_private` and `update_timers`, each given a reading of
   the clock no earlier than the one before. Along every run the timers stay in the past, so no
   `checked_sub(..).unwrap()` panics, and a session leaves its ring slot only through
   `update_timers`, `set_static_private` or a newer session stored in the same slot. -/
namespace Boringtun.Noise

namespace Tunn

variable {P : Primitives}

theorem sessions_set_session (t : Tunn P) (index : ℕ) (s : Option Session) (i : Fin nSessions) :
    getElem (t.setSession index s).sessions i i.isLt = if slot index = i then s else getElem t.sessions i i.isLt := by
  by_cases same : slot index = i
  · subst same
    simp [setSession]
  · simp [setSession, same, Vector.getElem_set_ne _ _ (Fin.val_ne_of_ne same)]

/-! What a call does to the ring and to the timers. -/

-- Slot `i` holds a session after the call only if it held one before, under the same session timer.
def Kept (t t' : Tunn P) (i : Fin nSessions) : Prop :=
  (getElem t'.sessions i i.isLt).isSome →
    (getElem t.sessions i i.isLt).isSome ∧
      getElem t'.timers.sessionTimers i i.isLt = getElem t.timers.sessionTimers i i.isLt

theorem kept_refl (t : Tunn P) (i : Fin nSessions) : Kept t t i := fun occupied => ⟨occupied, rfl⟩

theorem Kept.trans {t t' t'' : Tunn P} {i : Fin nSessions} (first : Kept t t' i) (second : Kept t' t'' i) :
    Kept t t'' i := by
  intro occupied
  obtain ⟨occupied', timer'⟩ := second occupied
  obtain ⟨occupied'', timer''⟩ := first occupied'
  exact ⟨occupied'', timer'.trans timer''⟩

theorem Kept.vacant {t t' : Tunn P} {i : Fin nSessions} (kept : Kept t t' i) (vacant : getElem t.sessions i i.isLt = none) :
    getElem t'.sessions i i.isLt = none := by
  cases stored : getElem t'.sessions i i.isLt with
  | none => rfl
  | some s =>
      have occupied := (kept (by rw [stored]; rfl)).1
      rw [vacant] at occupied
      cases occupied

-- A call made at `now`, on a tunnel last driven at `clock`, that stores no new session.
structure Moves (clock now : Instant) (t t' : Tunn P) : Prop where
  timeStarted : t'.timers.timeStarted = t.timers.timeStarted
  before : t.timers.Before clock → t'.timers.Before now
  kept : ∀ i, Kept t t' i

-- A call that stores a new session in slot `j`, under the current time.
structure Stores (clock now : Instant) (t t' : Tunn P) (j : Fin nSessions) : Prop where
  timeStarted : t'.timers.timeStarted = t.timers.timeStarted
  before : t.timers.Before clock → t'.timers.Before now
  kept : ∀ i, i ≠ j → Kept t t' i
  stored : (getElem t'.sessions j j.isLt).isSome
  stamped : getElem t'.timers.sessionTimers j j.isLt = t'.timers.get .timeCurrent

theorem moves_refl (t : Tunn P) {clock now : Instant} (later : clock ≤ now) : Moves clock now t t :=
  ⟨rfl, fun before => before.mono later, kept_refl t⟩

theorem Moves.trans {clock middle now : Instant} {t t' t'' : Tunn P} (first : Moves clock middle t t')
    (second : Moves middle now t' t'') : Moves clock now t t'' :=
  ⟨second.timeStarted.trans first.timeStarted, fun before => second.before (first.before before),
    fun i => (first.kept i).trans (second.kept i)⟩

-- After the call every timer lies behind the new reading, counted from the start it keeps.
theorem Moves.get_le {clock now : Instant} {t t' : Tunn P} (moved : Moves clock now t t')
    (before : t.timers.Before clock) (name : TimerName) :
    t'.timers.get name ≤ now.durationSince t.timers.timeStarted := by
  rw [← moved.timeStarted]
  exact (moved.before before).get_le name

theorem moves_of_ticked {t t' : Tunn P} {clock now : Instant} (later : clock ≤ now)
    (ticked : t.timers.Ticked t'.timers) (sessions : t'.sessions = t.sessions) : Moves clock now t t' := by
  refine ⟨ticked.timeStarted, fun before => (before.ticked ticked).mono later, fun i occupied => ?_⟩
  rw [sessions] at occupied
  exact ⟨occupied, by rw [ticked.sessions]⟩

theorem moves_timer_tick (t : Tunn P) (name : TimerName) {clock : Instant} : Moves clock clock t (t.timerTick name) :=
  moves_of_ticked (le_refl clock) (Timers.ticked_tick t.timers name) rfl

theorem moves_set_session (t : Tunn P) {index : ℕ} (s : Option Session) (occupied : (t.session index).isSome)
    {clock : Instant} : Moves clock clock t (t.setSession index s) := by
  refine ⟨rfl, id, fun i stored => ?_⟩
  rw [sessions_set_session] at stored
  split at stored
  · rename_i same
    subst same
    exact ⟨occupied, rfl⟩
  · exact ⟨stored, rfl⟩

theorem moves_set_current_session (t : Tunn P) (newIdx : ℕ) {clock : Instant} :
    Moves clock clock t (t.setCurrentSession newIdx) := by
  unfold setCurrentSession
  dsimp only
  split_ifs <;> exact moves_of_ticked (le_refl clock) (Timers.ticked_refl _) rfl

theorem moves_of_same (t t' : Tunn P) (sessions : t'.sessions = t.sessions) (timers : t'.timers = t.timers)
    {clock : Instant} : Moves clock clock t t' :=
  moves_of_ticked (le_refl clock) (timers ▸ Timers.ticked_refl _) sessions

theorem moves_handshake (t : Tunn P) (handshake : Handshake P) {clock : Instant} :
    Moves clock clock t { t with handshake } :=
  moves_of_same _ _ (by rfl) (by rfl)

theorem moves_clear (t : Tunn P) {clock now : Instant} (later : clock ≤ now) :
    Moves clock now t { t with timers := t.timers.clear now } :=
  ⟨rfl, fun before => Timers.before_clear before later, fun _ occupied => ⟨occupied, rfl⟩⟩

theorem format_handshake_initiation_moves (t : Tunn P) (dst : Bytes) (forceResend : Bool) (ephemeralPrivate : Bytes32)
    {clock now : Instant} (later : clock ≤ now) :
    Moves clock now t (t.formatHandshakeInitiation dst forceResend ephemeralPrivate now).1 := by
  unfold formatHandshakeInitiation
  split
  · exact moves_refl t later
  · dsimp only
    -- an expired handshake first moves every timer to the clock
    have cleared : Moves clock now t (if t.handshake.isExpired then { t with timers := t.timers.clear now } else t) := by
      split
      · exact moves_clear t later
      · exact moves_refl t later
    generalize (if t.handshake.isExpired then { t with timers := t.timers.clear now } else t) = t1 at cleared ⊢
    split
    · rename_i handshake packet _
      have started : Moves now now { t1 with handshake }
          (if !t1.handshake.isInProgress then { t1 with handshake }.timerTick .timeLastHandshakeStarted
            else { t1 with handshake }) := by
        split
        · exact moves_timer_tick _ _
        · exact moves_refl _ (le_refl now)
      exact ((cleared.trans (moves_handshake t1 handshake)).trans started).trans (moves_timer_tick _ _)
    · exact cleared.trans (moves_handshake _ _)

theorem moves_queue_packet (t : Tunn P) (packet : Bytes) {clock : Instant} : Moves clock clock t (t.queuePacket packet) := by
  unfold queuePacket
  split <;> exact moves_of_same _ _ (by rfl) (by rfl)

theorem moves_requeue_packet (t : Tunn P) (packet : Bytes) {clock : Instant} :
    Moves clock clock t (t.requeuePacket packet) := by
  unfold requeuePacket
  split <;> exact moves_of_same _ _ (by rfl) (by rfl)

theorem moves_dequeue_packet (t : Tunn P) {clock : Instant} : Moves clock clock t t.dequeuePacket.1 := by
  unfold dequeuePacket
  split <;> exact moves_of_same _ _ (by rfl) (by rfl)

theorem encapsulate_cases {t t' : Tunn P} {src dst : Bytes} {ephemeralPrivate : Bytes32} {now : Instant}
    {r : TunnResult} (encapsulated : t.encapsulate src dst ephemeralPrivate now = .ok (t', r)) :
    (∃ session session' packet, t.session t.current = some session ∧
        session.formatPacketData P src dst = .ok (session', packet) ∧ r = .writeToNetwork packet ∧
        t' = (let t1 := (t.setSession t.current (some session')).timerTick .timeLastPacketSent
          let t1 := if src ≠ [] then t1.timerTick .timeLastDataPacketSent else t1
          { t1 with txBytes := t1.txBytes + src.length })) ∨
      (t.session t.current = none ∧
        t' = ((t.queuePacket src).formatHandshakeInitiation dst false ephemeralPrivate now).1 ∧
        r = ((t.queuePacket src).formatHandshakeInitiation dst false ephemeralPrivate now).2) := by
  cases current : t.session t.current with
  | some session =>
      simp only [encapsulate, current] at encapsulated
      obtain ⟨⟨session', packet⟩, formatted, sent⟩ := Loop.bind_eq_ok.mp encapsulated
      cases sent
      exact .inl ⟨session, session', packet, rfl, formatted, rfl, rfl⟩
  | none =>
      rw [encapsulate_without_session t src dst ephemeralPrivate now current, Except.ok.injEq] at encapsulated
      exact .inr ⟨rfl, congrArg Prod.fst encapsulated.symm, congrArg Prod.snd encapsulated.symm⟩

theorem encapsulate_moves {t t' : Tunn P} {src dst : Bytes} {ephemeralPrivate : Bytes32} {clock now : Instant}
    {r : TunnResult} (later : clock ≤ now) (encapsulated : t.encapsulate src dst ephemeralPrivate now = .ok (t', r)) :
    Moves clock now t t' := by
  rcases encapsulate_cases encapsulated with ⟨session, session', packet, current, -, -, rfl⟩ | ⟨-, rfl, -⟩
  · -- the current session goes back with its counter moved on, and the timers tick
    have sent : Moves clock clock t ((t.setSession t.current (some session')).timerTick .timeLastPacketSent) :=
      (moves_set_session t _ (by rw [current]; rfl)).trans (moves_timer_tick _ _)
    have data : Moves clock clock ((t.setSession t.current (some session')).timerTick .timeLastPacketSent)
        (if src ≠ [] then ((t.setSession t.current (some session')).timerTick .timeLastPacketSent).timerTick
          .timeLastDataPacketSent else (t.setSession t.current (some session')).timerTick .timeLastPacketSent) := by
      split
      · exact moves_timer_tick _ _
      · exact moves_refl _ (le_refl clock)
    exact ((sent.trans data).trans (moves_of_same _ _ (by rfl) (by rfl))).trans (moves_refl _ later)
  · exact (moves_queue_packet t src).trans (format_handshake_initiation_moves _ dst false ephemeralPrivate later)

theorem encapsulate_error {t : Tunn P} {src dst : Bytes} {ephemeralPrivate : Bytes32} {now : Instant} {msg : String}
    (failed : t.encapsulate src dst ephemeralPrivate now = .error msg) :
    msg = "The destination buffer is too small" ∧ dst.length < src.length + dataOverheadSz := by
  cases current : t.session t.current with
  | none =>
      rw [encapsulate_without_session t src dst ephemeralPrivate now current] at failed
      cases failed
  | some session =>
      simp only [encapsulate, current] at failed
      rcases Loop.bind_eq_error.mp failed with formatted | ⟨_, _, returned⟩
      · simp only [Session.formatPacketData] at formatted
        split at formatted
        · cases formatted
          exact ⟨rfl, by assumption⟩
        · cases formatted
      · cases returned

theorem validate_decapsulated_packet_tunn (t : Tunn P) (packet : Bytes) :
    (t.validateDecapsulatedPacket packet).1 = t ∨ ∃ computedLen : ℕ,
      (t.validateDecapsulatedPacket packet).1 = { t.timerTick .timeLastDataPacketReceived with
        rxBytes := (t.timerTick .timeLastDataPacketReceived).rxBytes + computedLen } := by
  unfold validateDecapsulatedPacket
  split
  · exact .inl rfl
  · split
    · exact .inl rfl
    · split
      · exact .inl rfl
      · split <;> exact .inr ⟨_, rfl⟩

theorem validate_decapsulated_packet_moves (t : Tunn P) (packet : Bytes) {clock : Instant} :
    Moves clock clock t (t.validateDecapsulatedPacket packet).1 := by
  rcases validate_decapsulated_packet_tunn t packet with same | ⟨computedLen, taken⟩
  · rw [same]
    exact moves_refl t (le_refl clock)
  · rw [taken]
    exact (moves_timer_tick t .timeLastDataPacketReceived).trans (moves_of_same _ _ (by rfl) (by rfl))

theorem handle_data_cases {t t' : Tunn P} {packet : PacketData} {dst : Bytes} {r : TunnResult}
    (handled : t.handleData packet dst = .ok (t', r)) :
    (t.session packet.receiverIdx.toNat = none ∧ t' = t ∧ r = .err .noCurrentSession) ∨
      ∃ session session' opened, t.session packet.receiverIdx.toNat = some session ∧
        session.receivePacketData P packet dst = .ok (session', opened) ∧
        ((∃ e, opened = .error e ∧ t' = t.setSession packet.receiverIdx.toNat (some session') ∧ r = .err e) ∨
          ∃ decapsulated, opened = .ok decapsulated ∧
            t' = ((((t.setSession packet.receiverIdx.toNat (some session')).setCurrentSession
              packet.receiverIdx.toNat).timerTick .timeLastPacketReceived).validateDecapsulatedPacket decapsulated).1 ∧
            r = ((((t.setSession packet.receiverIdx.toNat (some session')).setCurrentSession
              packet.receiverIdx.toNat).timerTick .timeLastPacketReceived).validateDecapsulatedPacket decapsulated).2) := by
  unfold handleData at handled
  dsimp only at handled
  split at handled
  · rename_i found
    cases handled
    exact .inl ⟨found, rfl, rfl⟩
  · rename_i session found
    obtain ⟨⟨session', opened⟩, received, handled⟩ := Loop.bind_eq_ok.mp handled
    refine .inr ⟨session, session', opened, found, received, ?_⟩
    dsimp only at handled
    cases opened with
    | error e =>
        cases handled
        exact .inl ⟨e, rfl, rfl, rfl⟩
    | ok decapsulated =>
        have validated := (Except.ok.inj handled).symm
        exact .inr ⟨decapsulated, rfl, congrArg Prod.fst validated, congrArg Prod.snd validated⟩

theorem handle_data_moves {t t' : Tunn P} {packet : PacketData} {dst : Bytes} {r : TunnResult} {clock : Instant}
    (handled : t.handleData packet dst = .ok (t', r)) : Moves clock clock t t' := by
  rcases handle_data_cases handled with ⟨-, rfl, -⟩ |
    ⟨session, session', opened, found, -, ⟨e, -, rfl, -⟩ | ⟨decapsulated, -, rfl, -⟩⟩
  · exact moves_refl _ (le_refl clock)
  · exact moves_set_session t _ (by rw [found]; rfl)
  · have kept : Moves clock clock t (t.setSession packet.receiverIdx.toNat (some session')) :=
      moves_set_session t _ (by rw [found]; rfl)
    exact ((kept.trans (moves_set_current_session _ _)).trans (moves_timer_tick _ _)).trans
      (validate_decapsulated_packet_moves _ _)

theorem handle_cookie_reply_cases {t t' : Tunn P} {p : PacketCookieReply} {r : TunnResult}
    (handled : t.handleCookieReply p = .ok (t', r)) :
    ∃ handshake opened, t.handshake.receiveCookieReply p = .ok (handshake, opened) ∧
      ((∃ e, opened = .error e ∧ t' = { t with handshake } ∧ r = .err e) ∨
        (opened = .ok () ∧
          t' = (({ t with handshake } : Tunn P).timerTick .timeLastPacketReceived).timerTick .timeCookieReceived ∧
          r = .done)) := by
  unfold handleCookieReply at handled
  obtain ⟨⟨handshake, opened⟩, received, handled⟩ := Loop.bind_eq_ok.mp handled
  refine ⟨handshake, opened, received, ?_⟩
  dsimp only at handled
  cases opened with
  | error e =>
      cases handled
      exact .inl ⟨e, rfl, rfl, rfl⟩
  | ok _ =>
      cases handled
      exact .inr ⟨rfl, rfl, rfl⟩

theorem handle_cookie_reply_moves {t t' : Tunn P} {p : PacketCookieReply} {r : TunnResult} {clock : Instant}
    (handled : t.handleCookieReply p = .ok (t', r)) : Moves clock clock t t' := by
  rcases handle_cookie_reply_cases handled with ⟨handshake, opened, -, ⟨e, -, rfl, -⟩ | ⟨-, rfl, -⟩⟩
  · exact moves_handshake t handshake
  · exact ((moves_handshake t handshake).trans (moves_timer_tick _ _)).trans (moves_timer_tick _ _)

theorem Stores.of_same {clock now : Instant} {t t' t'' : Tunn P} {j : Fin nSessions} (stores : Stores clock now t t' j)
    (sessions : t''.sessions = t'.sessions) (timers : t''.timers = t'.timers) : Stores clock now t t'' j := by
  obtain ⟨timeStarted, before, kept, stored, stamped⟩ := stores
  refine ⟨by rw [timers, timeStarted], fun old => by rw [timers]; exact before old, fun i apart => ?_,
    by rw [sessions]; exact stored, by rw [timers]; exact stamped⟩
  unfold Kept
  rw [sessions, timers]
  exact kept i apart

theorem stores_established (t u : Tunn P) (index stampIdx : ℕ) (s : Session) (isInitiator : Bool)
    (sameSlot : slot stampIdx = slot index) (ticked : t.timers.Ticked u.timers)
    (sessions : u.sessions = (t.setSession index (some s)).sessions) {clock : Instant} :
    Stores clock clock t (u.timerTickSessionEstablished isInitiator stampIdx) (slot index) := by
  refine ⟨?_, fun before => ?_, fun i apart occupied => ?_, ?_, ?_⟩
  · simp [ticked.timeStarted]
  · exact Timers.before_session_established (before.ticked ticked) isInitiator stampIdx
  -- another slot: neither the store nor the stamp touches it
  · have other : ¬ slot index = i := fun same => apart same.symm
    have unstamped : ¬ (slot stampIdx : ℕ) = i := by
      rw [sameSlot]
      exact fun same => other (Fin.ext same)
    simp only [sessions_timer_tick_session_established, sessions, sessions_set_session, other, if_false]
      at occupied
    refine ⟨occupied, ?_⟩
    simp [Vector.getElem_set_ne _ _ unstamped, ticked.sessions]
  · show ((u.timerTickSessionEstablished isInitiator stampIdx).session index).isSome = true
    rw [session_timer_tick_session_established, session, sessions, ← session, session_set_session]
    rfl
  · simp [sameSlot, Timers.tick_get_current]

/-! The handshake messages store new sessions. -/

theorem handle_handshake_init_cases {t t' : Tunn P} {p : HandshakeInit} {dst : Bytes} {ephemeralPrivate : Bytes32}
    {r : TunnResult} (handled : t.handleHandshakeInit p dst ephemeralPrivate = .ok (t', r)) :
    (∃ handshake e, t.handshake.receiveHandshakeInitialization p dst ephemeralPrivate = .ok (handshake, .error e) ∧
      t' = { t with handshake } ∧ r = .err e) ∨
    ∃ handshake m s, t.handshake.receiveHandshakeInitialization p dst ephemeralPrivate = .ok (handshake, .ok (m, s)) ∧
      r = .writeToNetwork m ∧
      t' = (((({ t with handshake }).setSession s.localIndex (some s)).timerTick .timeLastPacketReceived).timerTick
        .timeLastPacketSent).timerTickSessionEstablished false s.localIndex := by
  cases received : t.handshake.receiveHandshakeInitialization p dst ephemeralPrivate with
  | error msg => simp [handleHandshakeInit, received, bind, Except.bind] at handled
  | ok result =>
      obtain ⟨handshake, answered⟩ := result
      cases answered with
      | error e =>
          simp only [handleHandshakeInit, received, bind, Except.bind, pure, Except.pure, Except.ok.injEq,
            Prod.mk.injEq] at handled
          exact .inl ⟨handshake, e, rfl, handled.1.symm, handled.2.symm⟩
      | ok out =>
          obtain ⟨m, s⟩ := out
          simp only [handleHandshakeInit, received, bind, Except.bind, pure, Except.pure, Except.ok.injEq,
            Prod.mk.injEq] at handled
          exact .inr ⟨handshake, m, s, rfl, handled.2.symm, handled.1.symm⟩

theorem handle_handshake_response_cases {t t' : Tunn P} {p : HandshakeResponse} {dst : Bytes} {now : Instant}
    {r : TunnResult} (handled : t.handleHandshakeResponse p dst now = .ok (t', r)) :
    (∃ handshake e, t.handshake.receiveHandshakeResponse p now = .ok (handshake, .error e) ∧
      t' = { t with handshake } ∧ r = .err e) ∨
    ∃ handshake s s' m, t.handshake.receiveHandshakeResponse p now = .ok (handshake, .ok s) ∧
      s.formatPacketData P [] dst = .ok (s', m) ∧ r = .writeToNetwork m ∧
      t' = ((((({ t with handshake }).setSession (s'.localIndex % nSessions) (some s')).timerTick
        .timeLastPacketReceived).timerTickSessionEstablished true (s'.localIndex % nSessions)).setCurrentSession
          s'.localIndex) := by
  cases received : t.handshake.receiveHandshakeResponse p now with
  | error msg => simp [handleHandshakeResponse, received, bind, Except.bind] at handled
  | ok result =>
      obtain ⟨handshake, answered⟩ := result
      cases answered with
      | error e =>
          simp only [handleHandshakeResponse, received, bind, Except.bind, pure, Except.pure, Except.ok.injEq,
            Prod.mk.injEq] at handled
          exact .inl ⟨handshake, e, rfl, handled.1.symm, handled.2.symm⟩
      | ok s =>
          cases formatted : s.formatPacketData P [] dst with
          | error msg => simp [handleHandshakeResponse, received, formatted, bind, Except.bind] at handled
          | ok sent =>
              obtain ⟨s', m⟩ := sent
              simp only [handleHandshakeResponse, received, formatted, bind, Except.bind, pure, Except.pure,
                Except.ok.injEq, Prod.mk.injEq] at handled
              exact .inr ⟨handshake, s, s', m, rfl, formatted, handled.2.symm, handled.1.symm⟩

theorem handle_handshake_init_effect (clock : Instant) {t t' : Tunn P} {p : HandshakeInit} {dst : Bytes}
    {ephemeralPrivate : Bytes32} {r : TunnResult} (handled : t.handleHandshakeInit p dst ephemeralPrivate = .ok (t', r)) :
    Moves clock clock t t' ∧ (∀ m, r ≠ .writeToNetwork m) ∨
      (∃ m, r = .writeToNetwork m) ∧ Stores clock clock t t' (slot t'.handshake.nextIndex.toNat) := by
  rcases handle_handshake_init_cases handled with ⟨handshake, e, -, rfl, rfl⟩ | ⟨handshake, m, s, received, rfl, rfl⟩
  · exact .inl ⟨moves_handshake t handshake, fun _ sent => by cases sent⟩
  · have index : s.localIndex = handshake.nextIndex.toNat := by
      rw [Session.localIndex, Handshake.receive_initiation_index received]
    refine .inr ⟨⟨m, rfl⟩, ?_⟩
    show Stores clock clock t _ (slot handshake.nextIndex.toNat)
    rw [← index]
    exact stores_established t
      (((({ t with handshake }).setSession s.localIndex (some s)).timerTick .timeLastPacketReceived).timerTick
        .timeLastPacketSent) s.localIndex s.localIndex s false rfl
      ((Timers.ticked_tick t.timers .timeLastPacketReceived).trans (Timers.ticked_tick _ .timeLastPacketSent)) (by rfl)

theorem handle_handshake_init_current {t t' : Tunn P} {p : HandshakeInit} {dst : Bytes} {ephemeralPrivate : Bytes32}
    {r : TunnResult} (handled : t.handleHandshakeInit p dst ephemeralPrivate = .ok (t', r)) :
    t'.timers.get .timeCurrent = t.timers.get .timeCurrent := by
  rcases handle_handshake_init_cases handled with ⟨handshake, e, -, rfl, -⟩ | ⟨handshake, m, s, -, -, rfl⟩
  · rfl
  · simp [Timers.tick_get_current]

theorem handle_handshake_response_effect (clock : Instant) {t t' : Tunn P} {p : HandshakeResponse} {dst : Bytes}
    {now : Instant} {r : TunnResult} (handled : t.handleHandshakeResponse p dst now = .ok (t', r)) :
    Moves clock clock t t' ∧ (∀ m, r ≠ .writeToNetwork m) ∨
      (∃ m, r = .writeToNetwork m) ∧ Stores clock clock t t' (slot p.receiverIdx.toNat) := by
  rcases handle_handshake_response_cases handled with ⟨handshake, e, -, rfl, rfl⟩ |
    ⟨handshake, s, s', m, received, formatted, rfl, rfl⟩
  · exact .inl ⟨moves_handshake t handshake, fun _ sent => by cases sent⟩
  · -- the keepalive only moves the sending counter on
    have index : s'.receivingIndex = p.receiverIdx := by
      rw [← Handshake.receive_response_index received]
      simp only [Session.formatPacketData] at formatted
      split at formatted
      · cases formatted
      · cases formatted
        rfl
    have sameSlot : slot (s'.localIndex % nSessions) = slot p.receiverIdx.toNat := by
      simp [slot, Session.localIndex, index]
    have stored : Stores clock clock t _ (slot (s'.localIndex % nSessions)) := stores_established t
      ((({ t with handshake }).setSession (s'.localIndex % nSessions) (some s')).timerTick .timeLastPacketReceived)
      (s'.localIndex % nSessions) (s'.localIndex % nSessions) s' true rfl
      (Timers.ticked_tick t.timers .timeLastPacketReceived) (by rfl)
    refine .inr ⟨⟨m, rfl⟩, ?_⟩
    rw [← sameSlot]
    exact stored.of_same (sessions_set_current_session _ _) (timers_set_current_session _ _)

theorem send_queued_packet_cases {t t' : Tunn P} {dst : Bytes} {ephemeralPrivate : Bytes32} {now : Instant}
    {r : TunnResult} (sent : t.sendQueuedPacket dst ephemeralPrivate now = .ok (t', r)) :
    (t.dequeuePacket.2 = none ∧ t' = t.dequeuePacket.1 ∧ r = .done) ∨
      ∃ packet t2 r2, t.dequeuePacket.2 = some packet ∧
        t.dequeuePacket.1.encapsulate packet dst ephemeralPrivate now = .ok (t2, r2) ∧
        ((t' = t2 ∧ r = r2 ∧ ∀ e, r2 ≠ .err e) ∨ (t' = t2.requeuePacket packet ∧ r = .done ∧ ∃ e, r2 = .err e)) := by
  unfold sendQueuedPacket at sent
  split at sent
  · rename_i t1 queued
    cases sent
    rw [queued]
    exact .inl ⟨rfl, rfl, rfl⟩
  · rename_i t1 packet queued
    obtain ⟨⟨t2, r2⟩, encapsulated, sent⟩ := Loop.bind_eq_ok.mp sent
    rw [queued]
    refine .inr ⟨packet, t2, r2, rfl, encapsulated, ?_⟩
    cases r2 with
    | err e =>
        cases sent
        exact .inr ⟨rfl, rfl, e, rfl⟩
    | _ =>
        cases sent
        exact .inl ⟨rfl, rfl, fun _ => nofun⟩

theorem send_queued_packet_moves {t t' : Tunn P} {dst : Bytes} {ephemeralPrivate : Bytes32} {clock now : Instant}
    {r : TunnResult} (later : clock ≤ now) (sent : t.sendQueuedPacket dst ephemeralPrivate now = .ok (t', r)) :
    Moves clock now t t' := by
  have dequeued : Moves clock clock t t.dequeuePacket.1 := moves_dequeue_packet t
  rcases send_queued_packet_cases sent with ⟨-, rfl, -⟩ | ⟨packet, t2, r2, -, encapsulated, ⟨rfl, -⟩ | ⟨rfl, -⟩⟩
  · exact dequeued.trans (moves_refl _ later)
  · exact dequeued.trans (encapsulate_moves later encapsulated)
  · exact (dequeued.trans (encapsulate_moves later encapsulated)).trans (moves_requeue_packet _ _)

-- The ring slot in which a call of `decapsulate` stored a new session: the rate limiter passed a
-- handshake initiation or response, and its handler answered with a message.
def storedSlot (t : Tunn P) (srcAddr : Option IpAddr) (datagram : Bytes) (now : Instant) (t' : Tunn P)
    (r : TunnResult) : Option (Fin nSessions) :=
  if datagram = [] then none
  else
    match (t.rateLimiter.verifyPacket P srcAddr datagram (List.replicate cookieReplySz 0) now).2, r with
    | .ok (.handshakeInit _), .writeToNetwork _ => some (slot t'.handshake.nextIndex.toNat)
    | .ok (.handshakeResponse p), .writeToNetwork _ => some (slot p.receiverIdx.toNat)
    | _, _ => none

def Effect (clock now : Instant) (t t' : Tunn P) : Option (Fin nSessions) → Prop
  | none => Moves clock now t t'
  | some j => Stores clock now t t' j

theorem Effect.timeStarted {clock now : Instant} {t t' : Tunn P} {stored : Option (Fin nSessions)}
    (effect : Effect clock now t t' stored) : t'.timers.timeStarted = t.timers.timeStarted := by
  cases stored with
  | none => exact Moves.timeStarted effect
  | some j => exact Stores.timeStarted effect

theorem Effect.before {clock now : Instant} {t t' : Tunn P} {stored : Option (Fin nSessions)}
    (effect : Effect clock now t t' stored) (before : t.timers.Before clock) : t'.timers.Before now := by
  cases stored with
  | none => exact Moves.before effect before
  | some j => exact Stores.before effect before

theorem Effect.kept {clock now : Instant} {t t' : Tunn P} {stored : Option (Fin nSessions)}
    (effect : Effect clock now t t' stored) (i : Fin nSessions) (other : stored ≠ some i) : Kept t t' i := by
  cases stored with
  | none => exact Moves.kept effect i
  | some j => exact Stores.kept effect i (fun same => other (by rw [same]))

theorem Stores.after_moves {clock now : Instant} {t t' t'' : Tunn P} {j : Fin nSessions} (first : Moves clock now t t')
    (second : Stores now now t' t'' j) : Stores clock now t t'' j :=
  ⟨second.timeStarted.trans first.timeStarted, fun before => second.before (first.before before),
    fun i apart => (first.kept i).trans (second.kept i apart), second.stored, second.stamped⟩

-- Everything `decapsulate` can do: flush the queue on an empty datagram; else the rate limiter
-- answers by itself, with a cookie reply or an error, or hands the packet to its handler.
theorem decapsulate_cases {t t' : Tunn P} {srcAddr : Option IpAddr} {datagram dst : Bytes}
    {ephemeralPrivate : Bytes32} {now : Instant} {r : TunnResult}
    (decapsulated : t.decapsulate srcAddr datagram dst ephemeralPrivate now = .ok (t', r)) :
    (datagram = [] ∧ t.sendQueuedPacket dst ephemeralPrivate now = .ok (t', r)) ∨
      (datagram ≠ [] ∧ ∃ rateLimiter,
        (∃ answer, t.rateLimiter.verifyPacket P srcAddr datagram (List.replicate cookieReplySz 0) now =
            (rateLimiter, .error answer) ∧ t' = { t with rateLimiter }) ∨
        (∃ packet, t.rateLimiter.verifyPacket P srcAddr datagram (List.replicate cookieReplySz 0) now =
            (rateLimiter, .ok packet) ∧
          ({ t with rateLimiter } : Tunn P).handleVerifiedPacket packet dst ephemeralPrivate now = .ok (t', r))) := by
  by_cases empty : datagram = []
  · rw [decapsulate, if_pos empty] at decapsulated
    exact .inl ⟨empty, decapsulated⟩
  rw [decapsulate, if_neg empty] at decapsulated
  dsimp only at decapsulated
  rcases verified : t.rateLimiter.verifyPacket P srcAddr datagram (List.replicate cookieReplySz 0) now with
    ⟨rateLimiter, verdict⟩
  rw [verified] at decapsulated
  refine .inr ⟨empty, rateLimiter, ?_⟩
  rcases verdict with answer | packet
  · refine .inl ⟨answer, rfl, ?_⟩
    cases answer with
    | writeToNetwork cookie =>
        dsimp only at decapsulated
        split at decapsulated
        · cases decapsulated
        · cases decapsulated
          rfl
    | err e =>
        cases decapsulated
        rfl
    | _ => cases decapsulated
  · exact .inr ⟨packet, rfl, decapsulated⟩

theorem decapsulate_effect {t t' : Tunn P} {srcAddr : Option IpAddr} {datagram dst : Bytes}
    {ephemeralPrivate : Bytes32} {clock now : Instant} {r : TunnResult} (later : clock ≤ now)
    (decapsulated : t.decapsulate srcAddr datagram dst ephemeralPrivate now = .ok (t', r)) :
    Effect clock now t t' (storedSlot t srcAddr datagram now t' r) := by
  rcases decapsulate_cases decapsulated with ⟨empty, flushed⟩ |
    ⟨empty, rateLimiter, ⟨answer, verified, rfl⟩ | ⟨packet, verified, decapsulated⟩⟩
  · have quiet : storedSlot t srcAddr datagram now t' r = none := by simp [storedSlot, empty]
    rw [quiet]
    exact send_queued_packet_moves later flushed
  · -- the limiter answered by itself and no handler ran
    have quiet : storedSlot t srcAddr datagram now { t with rateLimiter } r = none := by
      simp [storedSlot, empty, verified]
    rw [quiet]
    exact (moves_of_same _ _ (by rfl) (by rfl)).trans (moves_refl _ later)
  · have limited : Moves clock now t { t with rateLimiter } := (moves_of_same _ _ (by rfl) (by rfl)).trans
      (moves_refl _ later)
    cases packet with
    | handshakeInit p =>
        rcases handle_handshake_init_effect now decapsulated with ⟨moves, quiet⟩ | ⟨⟨m, rfl⟩, stores⟩
        · -- the handler wrote no message, so it stored nothing
          have none : storedSlot t srcAddr datagram now t' r = none := by
            cases r with
            | writeToNetwork m => exact absurd rfl (quiet m)
            | _ => simp [storedSlot, empty, verified]
          rw [none]
          exact limited.trans moves
        · have stored : storedSlot t srcAddr datagram now t' (.writeToNetwork m) =
              some (slot t'.handshake.nextIndex.toNat) := by
            simp [storedSlot, empty, verified]
          rw [stored]
          exact stores.after_moves limited
    | handshakeResponse p =>
        rcases handle_handshake_response_effect now decapsulated with ⟨moves, quiet⟩ | ⟨⟨m, rfl⟩, stores⟩
        · -- the handler wrote no message, so it stored nothing
          have none : storedSlot t srcAddr datagram now t' r = none := by
            cases r with
            | writeToNetwork m => exact absurd rfl (quiet m)
            | _ => simp [storedSlot, empty, verified]
          rw [none]
          exact limited.trans moves
        · have stored : storedSlot t srcAddr datagram now t' (.writeToNetwork m) = some (slot p.receiverIdx.toNat) := by
            simp [storedSlot, empty, verified]
          rw [stored]
          exact stores.after_moves limited
    | packetCookieReply p =>
        have none : storedSlot t srcAddr datagram now t' r = none := by cases r <;> simp [storedSlot, empty, verified]
        rw [none]
        exact limited.trans (handle_cookie_reply_moves decapsulated)
    | packetData p =>
        have none : storedSlot t srcAddr datagram now t' r = none := by cases r <;> simp [storedSlot, empty, verified]
        rw [none]
        exact limited.trans (handle_data_moves decapsulated)

theorem set_static_private_moves {t t' : Tunn P} {staticPrivate staticPublic : Bytes32}
    {rateLimiter : Option RateLimiter} {nonceKey : Bytes32} {secretKey : Bytes16} {clock now : Instant}
    (later : clock ≤ now)
    (changed : t.setStaticPrivate staticPrivate staticPublic rateLimiter nonceKey secretKey now = .ok t') :
    Moves clock now t t' := by
  cases keyed : t.handshake.setStaticPrivate staticPrivate staticPublic with
  | error msg => simp [setStaticPrivate, keyed, bind, Except.bind] at changed
  | ok handshake =>
      simp only [setStaticPrivate, keyed, bind, Except.bind, pure, Except.pure, Except.ok.injEq] at changed
      subst changed
      refine ⟨rfl, fun before => ?_, fun i occupied => ?_⟩
      · apply Timers.Before.mono _ later
        apply before.ticked
        exact ⟨rfl, rfl, fun _ => .inl rfl, rfl⟩
      · simp at occupied

/-! `update_timers`: the loop over the ring, then the checks that may give up on the connection. -/

theorem expire_session_cases {t t' : Tunn P} {timeNow : Duration} {i : Fin nSessions}
    (expired : t.expireSession timeNow i = .ok t') :
    t' = t ∧ ¬rejectAfterTime < timeNow - getElem t.timers.sessionTimers i i.isLt ∨
      rejectAfterTime < timeNow - getElem t.timers.sessionTimers i i.isLt ∧
        t' = { t with
          sessions := t.sessions.set i none i.isLt
          timers := { t.timers with sessionTimers := t.timers.sessionTimers.set i timeNow i.isLt } } := by
  unfold expireSession checkedSubUnwrap at expired
  split at expired
  · simp only [bind, Except.bind, pure, Except.pure] at expired
    split at expired
    · cases expired
      exact .inr ⟨by assumption, rfl⟩
    · cases expired
      exact .inl ⟨rfl, by assumption⟩
  · cases expired

-- The loop over a list of distinct slots: a slot of the list whose session is older than
-- REJECT_AFTER_TIME is emptied, every other slot keeps its session under its timer, and a session
-- timer either stays or restarts at `timeNow`.
theorem fold_expire_session {timeNow : Duration} :
    ∀ (l : List (Fin nSessions)) {t t' : Tunn P}, l.Nodup →
      l.foldlM (fun t i => t.expireSession timeNow i) t = .ok t' →
      t'.timers.timers = t.timers.timers ∧ t'.timers.timeStarted = t.timers.timeStarted ∧
      (∀ i : Fin nSessions, getElem t'.timers.sessionTimers i i.isLt = getElem t.timers.sessionTimers i i.isLt ∨
        getElem t'.timers.sessionTimers i i.isLt = timeNow) ∧
      (∀ i ∈ l, rejectAfterTime < timeNow - getElem t.timers.sessionTimers i i.isLt →
        getElem t'.sessions i i.isLt = none) ∧
      ∀ i, Kept t t' i
  | [], t, t', _, done => by
      cases done
      exact ⟨rfl, rfl, fun _ => .inl rfl, fun _ absent => by simp at absent, kept_refl t⟩
  | j :: rest, t, t', distinct, done => by
      obtain ⟨fresh, distinct⟩ := List.nodup_cons.mp distinct
      rw [List.foldlM_cons] at done
      cases first : t.expireSession timeNow j with
      | error msg => simp [first, bind, Except.bind] at done
      | ok t1 =>
          simp only [first, bind, Except.bind] at done
          obtain ⟨timers, started, restarted, emptied, kept⟩ := fold_expire_session rest distinct done
          -- what the first iteration did to slot `j`, and that it left every other slot alone
          have step : t1.timers.timers = t.timers.timers ∧ t1.timers.timeStarted = t.timers.timeStarted ∧
              (∀ i, i ≠ j → getElem t1.sessions i i.isLt = getElem t.sessions i i.isLt ∧
                getElem t1.timers.sessionTimers i i.isLt = getElem t.timers.sessionTimers i i.isLt) ∧
              (rejectAfterTime < timeNow - getElem t.timers.sessionTimers j j.isLt → getElem t1.sessions j j.isLt = none ∧
                getElem t1.timers.sessionTimers j j.isLt = timeNow) ∧
              (¬rejectAfterTime < timeNow - getElem t.timers.sessionTimers j j.isLt → t1 = t) := by
            rcases expire_session_cases first with ⟨rfl, young⟩ | ⟨old, rfl⟩
            · exact ⟨rfl, rfl, fun _ _ => ⟨rfl, rfl⟩, fun old => absurd old young, fun _ => rfl⟩
            · refine ⟨rfl, rfl, fun i apart => ?_, fun _ => by simp, fun young => absurd old young⟩
              have index : (j : ℕ) ≠ i := Fin.val_ne_of_ne (Ne.symm apart)
              simp [Vector.getElem_set_ne _ _ index]
          obtain ⟨timers1, started1, others, expiredFirst, youngFirst⟩ := step
          refine ⟨timers.trans timers1, started.trans started1, fun i => ?_, fun i member old => ?_, fun i => ?_⟩
          · rcases restarted i with same | now
            · rw [same]
              by_cases atFirst : i = j
              · subst atFirst
                by_cases old : rejectAfterTime < timeNow - getElem t.timers.sessionTimers i i.isLt
                · exact .inr (expiredFirst old).2
                · rw [youngFirst old]
                  exact .inl rfl
              · exact .inl (others i atFirst).2
            · exact .inr now
          · rcases List.mem_cons.mp member with rfl | later
            -- the first iteration emptied it, and the rest of the loop fills no slot
            · exact (kept i).vacant (expiredFirst old).1
            · have apart : i ≠ j := fun same => fresh (same ▸ later)
              exact emptied i later (by rw [(others i apart).2]; exact old)
          · refine Kept.trans ?_ (kept i)
            intro occupied
            by_cases atFirst : i = j
            · subst atFirst
              by_cases old : rejectAfterTime < timeNow - getElem t.timers.sessionTimers i i.isLt
              · rw [(expiredFirst old).1] at occupied
                cases occupied
              · rw [youngFirst old] at occupied ⊢
                exact ⟨occupied, rfl⟩
            · rw [(others i atFirst).1] at occupied
              exact ⟨occupied, (others i atFirst).2⟩

theorem update_session_timers_handshake {t t' : Tunn P} {timeNow : Duration}
    (expired : t.updateSessionTimers timeNow = .ok t') : t'.handshake = t.handshake := by
  unfold updateSessionTimers at expired
  refine Loop.foldlM_ok_invariant (fun u : Tunn P => u.handshake = t.handshake) _ _ ?_ t rfl expired
  rintro u i u' - same step
  rcases expire_session_cases step with ⟨rfl, -⟩ | ⟨-, rfl⟩
  · exact same
  · exact same

theorem update_session_timers_effect (clock : Instant) {t t' : Tunn P} {timeNow : Duration}
    (current : t.timers.get .timeCurrent = timeNow) (expired : t.updateSessionTimers timeNow = .ok t') :
    Moves clock clock t t' ∧ ∀ i : Fin nSessions,
      rejectAfterTime < timeNow - getElem t.timers.sessionTimers i i.isLt → getElem t'.sessions i i.isLt = none := by
  subst current
  obtain ⟨timers, started, restarted, emptied, kept⟩ := fold_expire_session _ (List.nodup_finRange nSessions) expired
  have current : t'.timers.get .timeCurrent = t.timers.get .timeCurrent := by simp only [Timers.get, timers]
  refine ⟨⟨started, fun before => ⟨?_, fun name => ?_, fun i => ?_⟩, kept⟩,
    fun i old => emptied i (List.mem_finRange i) old⟩
  · rw [current, started]
    exact before.current
  · simp only [Timers.get, timers]
    exact before.named name
  · rw [current]
    rcases restarted i with same | restamped
    · rw [same]
      exact before.sessions i
    · rw [restamped]

theorem refresh_effect (t t0 : Tunn P) {t2 : Tunn P} {clock now : Instant} (later : clock ≤ now)
    (sameSessions : t0.sessions = t.sessions) (sameTimers : t0.timers = t.timers)
    (expired : { t0 with timers := t0.timers.set .timeCurrent (now.durationSince t0.timers.timeStarted) }.updateSessionTimers
      (now.durationSince t0.timers.timeStarted) = .ok t2) :
    Moves clock now t t2 ∧ ∀ i : Fin nSessions,
      rejectAfterTime < now.durationSince t.timers.timeStarted - getElem t.timers.sessionTimers i i.isLt →
        getElem t2.sessions i i.isLt = none := by
  rw [sameTimers] at expired
  obtain ⟨moved, emptied⟩ := update_session_timers_effect now (by exact Timers.get_set ..) expired
  refine ⟨⟨moved.timeStarted, fun before => moved.before (Timers.before_set_current before later), fun i => ?_⟩,
    emptied⟩
  exact (show Kept t { t0 with timers := t.timers.set .timeCurrent (now.durationSince t.timers.timeStarted) } i from
    fun occupied => ⟨sameSessions ▸ occupied, rfl⟩).trans (moved.kept i)

theorem refresh_ok (t t0 : Tunn P) {clock now : Instant} (before : t.timers.Before clock) (later : clock ≤ now)
    (sameTimers : t0.timers = t.timers) :
    ∃ t2, { t0 with timers := t0.timers.set .timeCurrent (now.durationSince t0.timers.timeStarted) }.updateSessionTimers
      (now.durationSince t0.timers.timeStarted) = .ok t2 := by
  have past : SessionTimersBefore { t0 with timers := t0.timers.set .timeCurrent (now.durationSince t0.timers.timeStarted) }
      (now.durationSince t0.timers.timeStarted) := by
    intro i
    show getElem t0.timers.sessionTimers i i.isLt ≤ _
    rw [sameTimers]
    exact le_trans (before.sessions i) (before.current_le later)
  obtain ⟨t2, ok, -⟩ := update_session_timers_ok _ _ past
  exact ⟨t2, ok⟩

theorem expire_connection_moves (t : Tunn P) {clock now : Instant} (later : clock ≤ now) :
    Moves clock now t (t.expireConnection now).1 :=
  ⟨rfl, fun before => Timers.before_clear before later, fun _ occupied => by simp [expireConnection, clearAll] at occupied⟩

theorem moves_take_want_handshake (t : Tunn P) {clock : Instant} : Moves clock clock t t.takeWantHandshake.1 :=
  moves_of_ticked (le_refl clock) ⟨rfl, rfl, fun _ => .inl rfl, rfl⟩ rfl

theorem moves_take_want_keepalive (t : Tunn P) {clock : Instant} : Moves clock clock t t.takeWantKeepalive.1 :=
  moves_of_ticked (le_refl clock) ⟨rfl, rfl, fun _ => .inl rfl, rfl⟩ rfl

theorem session_timer_actions_keeps (R : Tunn P → Tunn P → Prop) (refl : ∀ t, R t t)
    (trans : ∀ {t t' t'' : Tunn P}, R t t' → R t' t'' → R t t'')
    (handshakeTaken : ∀ t : Tunn P, R t t.takeWantHandshake.1)
    (keepaliveTaken : ∀ t : Tunn P, R t t.takeWantKeepalive.1)
    (ticked : ∀ t : Tunn P, R t (t.timerTick .timePersistentKeepalive)) {t t' : Tunn P}
    {timeNow sessionEstablished autPacketReceived autPacketSent dataPacketReceived dataPacketSent : Duration}
    {persistentKeepalive : UInt16} {handshakeInitiationRequired keepaliveRequired : Bool}
    (acted : t.sessionTimerActions timeNow sessionEstablished autPacketReceived autPacketSent dataPacketReceived
      dataPacketSent persistentKeepalive = .ok (t', handshakeInitiationRequired, keepaliveRequired)) :
    R t t' := by
  unfold sessionTimerActions at acted
  obtain ⟨onSend, -, acted⟩ := Loop.bind_eq_ok.mp acted
  obtain ⟨onReceive, -, acted⟩ := Loop.bind_eq_ok.mp acted
  obtain ⟨unanswered, -, acted⟩ := Loop.bind_eq_ok.mp acted
  have taken : R t (if unanswered = true then t.takeWantHandshake else (t, false)).1 := by
    split
    · exact handshakeTaken t
    · exact refl t
  generalize (if unanswered = true then t.takeWantHandshake else (t, false)) = pair at taken acted
  obtain ⟨t1, wantedHandshake⟩ := pair
  dsimp only at acted taken
  by_cases due : (onSend || onReceive || wantedHandshake) = true
  · rw [if_pos due] at acted
    obtain rfl := Loop.eq_fst_of_pure_eq_ok acted
    exact taken
  rw [if_neg due] at acted
  obtain ⟨unreplied, -, acted⟩ := Loop.bind_eq_ok.mp acted
  have kept : R t1 (if unreplied = true then t1.takeWantKeepalive else (t1, false)).1 := by
    split
    · exact keepaliveTaken t1
    · exact refl t1
  generalize (if unreplied = true then t1.takeWantKeepalive else (t1, false)) = pair at kept acted
  obtain ⟨t2, wantedKeepalive⟩ := pair
  dsimp only at acted kept
  obtain ⟨persistentDue, -, acted⟩ := Loop.bind_eq_ok.mp acted
  obtain rfl := Loop.eq_fst_of_pure_eq_ok acted
  refine trans (trans taken kept) ?_
  split
  · exact ticked t2
  · exact refl t2

theorem session_timer_actions_moves {t t' : Tunn P} {timeNow sessionEstablished autPacketReceived autPacketSent
    dataPacketReceived dataPacketSent : Duration} {persistentKeepalive : UInt16}
    {handshakeInitiationRequired keepaliveRequired : Bool} {clock : Instant}
    (acted : t.sessionTimerActions timeNow sessionEstablished autPacketReceived autPacketSent dataPacketReceived
      dataPacketSent persistentKeepalive = .ok (t', handshakeInitiationRequired, keepaliveRequired)) :
    Moves clock clock t t' :=
  session_timer_actions_keeps (Moves clock clock) (fun t => moves_refl t (le_refl clock)) Moves.trans
    (fun t => moves_take_want_handshake t) (fun t => moves_take_want_keepalive t) (fun t => moves_timer_tick t _) acted

theorem session_timer_actions_ok {t : Tunn P} {timeNow sessionEstablished autPacketReceived autPacketSent
    dataPacketReceived dataPacketSent : Duration} {persistentKeepalive : UInt16} {msg : String}
    (established : sessionEstablished ≤ timeNow) (received : autPacketReceived ≤ timeNow) (sent : autPacketSent ≤ timeNow)
    (keepalive : t.timers.get .timePersistentKeepalive ≤ timeNow)
    (failed : t.sessionTimerActions timeNow sessionEstablished autPacketReceived autPacketSent dataPacketReceived
      dataPacketSent persistentKeepalive = .error msg) : False := by
  unfold sessionTimerActions at failed
  obtain ⟨_, failed⟩ := elapsed_at_least_bind_error established failed
  obtain ⟨_, failed⟩ := elapsed_at_least_bind_error established failed
  obtain ⟨unanswered, failed⟩ := elapsed_at_least_bind_error received failed
  -- the wishes are flags: taking them leaves the timers
  have taken : (if unanswered = true then t.takeWantHandshake else (t, false)).1.timers.timers = t.timers.timers := by
    split <;> rfl
  generalize (if unanswered = true then t.takeWantHandshake else (t, false)) = pair at taken failed
  obtain ⟨t1, wantedHandshake⟩ := pair
  dsimp only at taken failed
  split at failed
  · cases failed
  obtain ⟨unreplied, failed⟩ := elapsed_at_least_bind_error sent failed
  have kept : (if unreplied = true then t1.takeWantKeepalive else (t1, false)).1.timers.timers = t.timers.timers := by
    split <;> exact taken
  generalize (if unreplied = true then t1.takeWantKeepalive else (t1, false)) = pair at kept failed
  obtain ⟨t2, wantedKeepalive⟩ := pair
  dsimp only at kept failed
  have persistent : t2.timers.get .timePersistentKeepalive ≤ timeNow := by
    simp only [Timers.get, kept]
    exact keepalive
  obtain ⟨_, returned⟩ := elapsed_at_least_bind_error persistent failed
  cases returned

theorem fire_timers_moves {t t' : Tunn P} {handshakeInitiationRequired keepaliveRequired : Bool} {dst : Bytes}
    {ephemeralPrivate : Bytes32} {clock now : Instant} {r : TunnResult} (later : clock ≤ now)
    (fired : t.fireTimers handshakeInitiationRequired keepaliveRequired dst ephemeralPrivate now = .ok (t', r)) :
    Moves clock now t t' := by
  unfold fireTimers at fired
  split at fired
  · obtain rfl := Loop.eq_fst_of_pure_eq_ok fired
    exact format_handshake_initiation_moves t dst true ephemeralPrivate later
  · split at fired
    · exact encapsulate_moves later fired
    · obtain rfl := Loop.eq_fst_of_pure_eq_ok fired
      exact moves_refl _ later

theorem fire_timers_error {t : Tunn P} {handshakeInitiationRequired keepaliveRequired : Bool} {dst : Bytes}
    {ephemeralPrivate : Bytes32} {now : Instant} {msg : String}
    (failed : t.fireTimers handshakeInitiationRequired keepaliveRequired dst ephemeralPrivate now = .error msg) :
    msg = "The destination buffer is too small" ∧ dst.length < dataOverheadSz := by
  unfold fireTimers at failed
  split at failed
  · cases failed
  · split at failed
    · simpa using encapsulate_error failed
    · cases failed

theorem reset_count_keeps (t : Tunn P) (now : Instant) :
    (if t.timers.shouldResetRr then { t with rateLimiter := t.rateLimiter.resetCount now } else t).timers = t.timers ∧
      (if t.timers.shouldResetRr then { t with rateLimiter := t.rateLimiter.resetCount now } else t).sessions =
        t.sessions ∧
      (if t.timers.shouldResetRr then { t with rateLimiter := t.rateLimiter.resetCount now } else t).handshake =
        t.handshake ∧
      (if t.timers.shouldResetRr then { t with rateLimiter := t.rateLimiter.resetCount now } else t).packetQueue =
        t.packetQueue := by
  split <;> exact ⟨rfl, rfl, rfl, rfl⟩

-- Everything `update_timers` can do, after the rate limiter's reset `t0` and the session loop
-- `t2`: stop on an expired handshake; or clear the cookie (`t3`) and then give up the connection,
-- fire the retransmission of the initiation in flight, or run the session checks and fire what
-- they ask for.
theorem update_timers_inversion {t t' : Tunn P} {dst : Bytes} {ephemeralPrivate : Bytes32} {now : Instant}
    {r : TunnResult} (updated : t.updateTimers dst ephemeralPrivate now = .ok (t', r)) :
    ∃ t0 t2 : Tunn P, t0.sessions = t.sessions ∧ t0.timers = t.timers ∧ t0.handshake = t.handshake ∧
      t0.packetQueue = t.packetQueue ∧
      { t0 with timers := t0.timers.set .timeCurrent (now.durationSince t0.timers.timeStarted) }.updateSessionTimers
        (now.durationSince t0.timers.timeStarted) = .ok t2 ∧
      ((t2.handshake.isExpired = true ∧ t' = t2 ∧ r = .err .connectionExpired) ∨
        ∃ t3 : Tunn P, (∃ cookieExpired, elapsedAtLeast t2.handshake.hasCookie (now.durationSince t0.timers.timeStarted)
            (t2.timers.get .timeCookieReceived) cookieExpirationTime = .ok cookieExpired ∧
          t3 = if cookieExpired then { t2 with handshake := t2.handshake.clearCookie } else t2) ∧
          ((t' = (t3.expireConnection now).1 ∧ r = .err .connectionExpired) ∨
            (∃ sent, t3.handshake.timer = some sent ∧
              elapsedAtLeast true (now.durationSince t0.timers.timeStarted) (t2.timers.get .timeLastHandshakeStarted)
                rekeyAttemptTime = .ok false ∧
              t3.fireTimers (decide (rekeyTimeout ≤ now.durationSince sent)) false dst ephemeralPrivate now =
                .ok (t', r)) ∨
            (t3.handshake.timer = none ∧ ∃ (t4 : Tunn P) (timeNow sessionEstablished autPacketReceived autPacketSent
                dataPacketReceived dataPacketSent : Duration) (persistentKeepalive : UInt16)
                (handshakeInitiationRequired keepaliveRequired : Bool),
              t3.sessionTimerActions timeNow sessionEstablished autPacketReceived autPacketSent dataPacketReceived
                dataPacketSent persistentKeepalive = .ok (t4, handshakeInitiationRequired, keepaliveRequired) ∧
              t4.fireTimers handshakeInitiationRequired keepaliveRequired dst ephemeralPrivate now = .ok (t', r)))) := by
  unfold updateTimers at updated
  obtain ⟨reset, sameSessions, sameHandshake, sameQueue⟩ := reset_count_keeps t now
  obtain ⟨t2, refreshed, rest⟩ := Loop.bind_eq_ok.mp updated
  refine ⟨_, t2, sameSessions, reset, sameHandshake, sameQueue, refreshed, ?_⟩
  dsimp only at rest
  by_cases isExpired : t2.handshake.isExpired = true
  · rw [if_pos isExpired] at rest
    cases rest
    exact .inl ⟨isExpired, rfl, rfl⟩
  rw [if_neg isExpired] at rest
  obtain ⟨cookieExpired, checkedCookie, rest⟩ := Loop.bind_eq_ok.mp rest
  generalize clearing : (if cookieExpired = true then { t2 with handshake := t2.handshake.clearCookie } else t2) = t3
    at rest
  refine .inr ⟨t3, ⟨cookieExpired, checkedCookie, clearing.symm⟩, ?_⟩
  obtain ⟨giveUp, -, rest⟩ := Loop.bind_eq_ok.mp rest
  by_cases gaveUp : giveUp = true
  · rw [if_pos gaveUp] at rest
    cases rest
    exact .inl ⟨rfl, rfl⟩
  rw [if_neg gaveUp] at rest
  cases timer : t3.handshake.timer with
  | some timeInitSent =>
      rw [timer] at rest
      obtain ⟨attemptsOver, checked, rest⟩ := Loop.bind_eq_ok.mp rest
      by_cases gaveUp' : attemptsOver = true
      · rw [if_pos gaveUp'] at rest
        cases rest
        exact .inl ⟨rfl, rfl⟩
      · rw [if_neg gaveUp'] at rest
        rw [Bool.not_eq_true] at gaveUp'
        exact .inr (.inl ⟨timeInitSent, rfl, gaveUp' ▸ checked, rest⟩)
  | none =>
      rw [timer] at rest
      obtain ⟨⟨t4, handshakeInitiationRequired, keepaliveRequired⟩, acting, rest⟩ := Loop.bind_eq_ok.mp rest
      exact .inr (.inr ⟨rfl, t4, _, _, _, _, _, _, _, handshakeInitiationRequired, keepaliveRequired, acting, rest⟩)

theorem update_timers_cookie_tail {dst : Bytes} {ephemeralPrivate : Bytes32} {now : Instant}
    (R : Tunn P → Tunn P → Prop) (trans : ∀ {t t' t'' : Tunn P}, R t t' → R t' t'' → R t t'')
    (expired : ∀ t : Tunn P, R t (t.expireConnection now).1)
    (acted : ∀ {t t' : Tunn P} {timeNow sessionEstablished autPacketReceived autPacketSent dataPacketReceived
      dataPacketSent : Duration} {persistentKeepalive : UInt16} {handshakeInitiationRequired keepaliveRequired : Bool},
      t.sessionTimerActions timeNow sessionEstablished autPacketReceived autPacketSent dataPacketReceived dataPacketSent
        persistentKeepalive = .ok (t', handshakeInitiationRequired, keepaliveRequired) → R t t')
    (fired : ∀ {t t' : Tunn P} {handshakeInitiationRequired keepaliveRequired : Bool} {r : TunnResult},
      t.fireTimers handshakeInitiationRequired keepaliveRequired dst ephemeralPrivate now = .ok (t', r) → R t t')
    {t t' : Tunn P} {r : TunnResult} (updated : t.updateTimers dst ephemeralPrivate now = .ok (t', r)) :
    ∃ t0 t2 : Tunn P, t0.sessions = t.sessions ∧ t0.timers = t.timers ∧ t0.handshake = t.handshake ∧
      t0.packetQueue = t.packetQueue ∧
      { t0 with timers := t0.timers.set .timeCurrent (now.durationSince t0.timers.timeStarted) }.updateSessionTimers
        (now.durationSince t0.timers.timeStarted) = .ok t2 ∧
      ((t2.handshake.isExpired = true ∧ t' = t2) ∨
        ∃ cookieExpired, elapsedAtLeast t2.handshake.hasCookie (now.durationSince t0.timers.timeStarted)
            (t2.timers.get .timeCookieReceived) cookieExpirationTime = .ok cookieExpired ∧
          R (if cookieExpired then { t2 with handshake := t2.handshake.clearCookie } else t2) t') := by
  obtain ⟨t0, t2, sameSessions, sameTimers, sameHandshake, sameQueue, refreshed, rest⟩ := update_timers_inversion updated
  refine ⟨t0, t2, sameSessions, sameTimers, sameHandshake, sameQueue, refreshed, ?_⟩
  rcases rest with ⟨isExpired, rfl, -⟩ | ⟨t3, ⟨cookieExpired, checked, rfl⟩, rest⟩
  · exact .inl ⟨isExpired, rfl⟩
  refine .inr ⟨cookieExpired, checked, ?_⟩
  rcases rest with ⟨rfl, -⟩ | ⟨sent, -, -, fired'⟩ | ⟨-, t4, _, _, _, _, _, _, _, _, _, acting, fired'⟩
  · exact expired _
  · exact fired fired'
  · exact trans (acted acting) (fired fired')

theorem update_timers_tail {dst : Bytes} {ephemeralPrivate : Bytes32} {now : Instant} (R : Tunn P → Tunn P → Prop)
    (refl : ∀ t, R t t) (trans : ∀ {t t' t'' : Tunn P}, R t t' → R t' t'' → R t t'')
    (cleared : ∀ t : Tunn P, R t { t with handshake := t.handshake.clearCookie })
    (expired : ∀ t : Tunn P, R t (t.expireConnection now).1)
    (acted : ∀ {t t' : Tunn P} {timeNow sessionEstablished autPacketReceived autPacketSent dataPacketReceived
      dataPacketSent : Duration} {persistentKeepalive : UInt16} {handshakeInitiationRequired keepaliveRequired : Bool},
      t.sessionTimerActions timeNow sessionEstablished autPacketReceived autPacketSent dataPacketReceived dataPacketSent
        persistentKeepalive = .ok (t', handshakeInitiationRequired, keepaliveRequired) → R t t')
    (fired : ∀ {t t' : Tunn P} {handshakeInitiationRequired keepaliveRequired : Bool} {r : TunnResult},
      t.fireTimers handshakeInitiationRequired keepaliveRequired dst ephemeralPrivate now = .ok (t', r) → R t t')
    {t t' : Tunn P} {r : TunnResult} (updated : t.updateTimers dst ephemeralPrivate now = .ok (t', r)) :
    ∃ t0 t2 : Tunn P, t0.sessions = t.sessions ∧ t0.timers = t.timers ∧ t0.packetQueue = t.packetQueue ∧
      { t0 with timers := t0.timers.set .timeCurrent (now.durationSince t0.timers.timeStarted) }.updateSessionTimers
        (now.durationSince t0.timers.timeStarted) = .ok t2 ∧ R t2 t' := by
  obtain ⟨t0, t2, sameSessions, sameTimers, -, sameQueue, refreshed, rest⟩ :=
    update_timers_cookie_tail R trans expired acted fired updated
  refine ⟨t0, t2, sameSessions, sameTimers, sameQueue, refreshed, ?_⟩
  rcases rest with ⟨-, rfl⟩ | ⟨cookieExpired, -, rest⟩
  · exact refl _
  refine trans ?_ rest
  split
  · exact cleared _
  · exact refl _

theorem update_timers_effect {t t' : Tunn P} {dst : Bytes} {ephemeralPrivate : Bytes32} {clock now : Instant}
    {r : TunnResult} (later : clock ≤ now) (updated : t.updateTimers dst ephemeralPrivate now = .ok (t', r)) :
    Moves clock now t t' ∧ ∀ i : Fin nSessions,
      rejectAfterTime < now.durationSince t.timers.timeStarted - getElem t.timers.sessionTimers i i.isLt →
        getElem t'.sessions i i.isLt = none := by
  obtain ⟨t0, t2, sameSessions, sameTimers, -, refreshed, tail⟩ := update_timers_tail (Moves now now)
    (fun t => moves_refl t (le_refl now)) Moves.trans (fun t => moves_handshake t _)
    (fun t => expire_connection_moves t (le_refl now)) session_timer_actions_moves (fire_timers_moves (le_refl now))
    updated
  obtain ⟨moved, emptied⟩ := refresh_effect t t0 later sameSessions sameTimers refreshed
  exact ⟨moved.trans tail, fun i old => (tail.kept i).vacant (emptied i old)⟩

theorem update_timers_error {t : Tunn P} {dst : Bytes} {ephemeralPrivate : Bytes32} {clock now : Instant} {msg : String}
    (before : t.timers.Before clock) (later : clock ≤ now) (failed : t.updateTimers dst ephemeralPrivate now = .error msg) :
    msg = "The destination buffer is too small" ∧ dst.length < dataOverheadSz := by
  unfold updateTimers at failed
  obtain ⟨reset, sameSessions, -⟩ := reset_count_keeps t now
  rcases Loop.bind_eq_error.mp failed with expired | ⟨t2, expired, failed⟩
  · obtain ⟨_, ok⟩ := refresh_ok t _ before later reset
    cases ok.symm.trans expired
  obtain ⟨moved, -⟩ := refresh_effect t _ later sameSessions reset expired
  have past : ∀ name, t2.timers.get name ≤
      now.durationSince (if t.timers.shouldResetRr then { t with rateLimiter := t.rateLimiter.resetCount now }
        else t).timers.timeStarted := by
    rw [reset]
    exact moved.get_le before
  dsimp only at failed
  by_cases isExpired : t2.handshake.isExpired = true
  · rw [if_pos isExpired] at failed
    cases failed
  rw [if_neg isExpired] at failed
  obtain ⟨cookieExpired, failed⟩ := elapsed_at_least_bind_error (past _) failed
  have cleared : (if cookieExpired = true then { t2 with handshake := t2.handshake.clearCookie } else t2).timers =
      t2.timers := by
    split <;> rfl
  generalize (if cookieExpired = true then { t2 with handshake := t2.handshake.clearCookie } else t2) = t3
    at cleared failed
  obtain ⟨giveUp, failed⟩ := elapsed_at_least_bind_error (past _) failed
  by_cases gaveUp : giveUp = true
  · rw [if_pos gaveUp] at failed
    cases failed
  rw [if_neg gaveUp] at failed
  cases timer : t3.handshake.timer with
  | some timeInitSent =>
      rw [timer] at failed
      obtain ⟨attemptsOver, failed⟩ := elapsed_at_least_bind_error (past _) failed
      by_cases gaveUp' : attemptsOver = true
      · rw [if_pos gaveUp'] at failed
        cases failed
      · rw [if_neg gaveUp'] at failed
        exact fire_timers_error failed
  | none =>
      rw [timer] at failed
      rcases Loop.bind_eq_error.mp failed with acted | ⟨⟨t4, handshakeInitiationRequired, keepaliveRequired⟩, -, failed⟩
      · exact (session_timer_actions_ok (past _) (past _) (past _) (by rw [cleared]; exact past _) acted).elim
      · exact fire_timers_error failed

theorem update_timers_ok {t : Tunn P} {dst : Bytes} {ephemeralPrivate : Bytes32} {clock now : Instant}
    (before : t.timers.Before clock) (later : clock ≤ now) (roomy : dataOverheadSz ≤ dst.length) :
    ∃ t' r, t.updateTimers dst ephemeralPrivate now = .ok (t', r) := by
  cases updated : t.updateTimers dst ephemeralPrivate now with
  | error msg => exact absurd (update_timers_error before later updated).2 (by omega)
  | ok result => exact ⟨result.1, result.2, rfl⟩

theorem time_since_last_handshake_ok {t : Tunn P} {clock now : Instant} (before : t.timers.Before clock)
    (later : clock ≤ now) : ∃ time, t.timeSinceLastHandshake now = .ok time := by
  unfold timeSinceLastHandshake
  split
  · dsimp only
    rw [checked_sub_unwrap_ok ((before.mono later).get_le .timeSessionEstablished)]
    exact ⟨_, rfl⟩
  · exact ⟨none, rfl⟩

theorem stats_ok {t : Tunn P} {clock now : Instant} (before : t.timers.Before clock) (later : clock ≤ now) :
    ∃ stats, t.stats now = .ok stats := by
  obtain ⟨time, ok⟩ := time_since_last_handshake_ok before later
  exact ⟨_, by rw [stats, ok]; rfl⟩

end Tunn

end Boringtun.Noise
