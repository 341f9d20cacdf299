import Boringtun.Noise.TunnExchange
import Boringtun.Noise.TunnRun

set_option autoImplicit false

/- A tunnel as its caller drives it: `Tunn::new`, then any interleaving of `encapsulate`,
   `decapsulate`, `format_handshake_initiation`, `set_static_private` and `update_timers`, each
   given a reading of the clock no earlier than the one before. A step is labelled with the ring
   slot it stored a new session in. -/
namespace Boringtun.Noise

structure Clocked (P : Primitives) where
  tunn : Tunn P
  clock : Instant

namespace Clocked

open Relation

variable {P : Primitives}

inductive Step : Clocked P → Option (Fin nSessions) → Clocked P → Prop
  | encapsulate (σ : Clocked P) (src dst : Bytes) (ephemeralPrivate : Bytes32) (now : Instant) (t : Tunn P)
      (r : TunnResult) (later : σ.clock ≤ now) (called : σ.tunn.encapsulate src dst ephemeralPrivate now = .ok (t, r)) :
      Step σ none ⟨t, now⟩
  | decapsulate (σ : Clocked P) (srcAddr : Option IpAddr) (datagram dst : Bytes) (ephemeralPrivate : Bytes32)
      (now : Instant) (t : Tunn P) (r : TunnResult) (later : σ.clock ≤ now)
      (called : σ.tunn.decapsulate srcAddr datagram dst ephemeralPrivate now = .ok (t, r)) :
      Step σ (σ.tunn.storedSlot srcAddr datagram now t r) ⟨t, now⟩
  | formatHandshakeInitiation (σ : Clocked P) (dst : Bytes) (forceResend : Bool) (ephemeralPrivate : Bytes32)
      (now : Instant) (later : σ.clock ≤ now) :
      Step σ none ⟨(σ.tunn.formatHandshakeInitiation dst forceResend ephemeralPrivate now).1, now⟩
  | setStaticPrivate (σ : Clocked P) (staticPrivate staticPublic : Bytes32) (rateLimiter : Option RateLimiter)
      (nonceKey : Bytes32) (secretKey : Bytes16) (now : Instant) (t : Tunn P) (later : σ.clock ≤ now)
      (called : σ.tunn.setStaticPrivate staticPrivate staticPublic rateLimiter nonceKey secretKey now = .ok t) :
      Step σ none ⟨t, now⟩
  | updateTimers (σ : Clocked P) (dst : Bytes) (ephemeralPrivate : Bytes32) (now : Instant) (t : Tunn P)
      (r : TunnResult) (later : σ.clock ≤ now) (called : σ.tunn.updateTimers dst ephemeralPrivate now = .ok (t, r)) :
      Step σ none ⟨t, now⟩

def Next (σ σ' : Clocked P) : Prop := ∃ stored, Step σ stored σ'

def Avoids (j : Fin nSessions) (σ σ' : Clocked P) : Prop := ∃ stored, stored ≠ some j ∧ Step σ stored σ'

def Reachable (σ : Clocked P) : Prop :=
  ∃ (staticPrivate peerStaticPublic : Bytes32) (presharedKey : Option Bytes32) (persistentKeepalive : Option UInt16)
    (index : UInt32) (rateLimiter : Option RateLimiter) (stamper : TimeStamper) (start : Instant) (nonceKey : Bytes32)
    (secretKey : Bytes16),
    ReflTransGen Next ⟨Tunn.new P staticPrivate peerStaticPublic presharedKey persistentKeepalive index rateLimiter
      stamper start nonceKey secretKey, start⟩ σ

theorem Reachable.tail {σ σ' : Clocked P} {stored : Option (Fin nSessions)} (reachable : Reachable σ)
    (step : Step σ stored σ') : Reachable σ' := by
  obtain ⟨staticPrivate, peerStaticPublic, presharedKey, persistentKeepalive, index, rateLimiter, stamper, start,
    nonceKey, secretKey, run⟩ := reachable
  exact ⟨staticPrivate, peerStaticPublic, presharedKey, persistentKeepalive, index, rateLimiter, stamper, start,
    nonceKey, secretKey, run.tail ⟨stored, step⟩⟩

theorem step_effect {σ σ' : Clocked P} {stored : Option (Fin nSessions)} (step : Step σ stored σ') :
    σ.clock ≤ σ'.clock ∧ Tunn.Effect σ.clock σ'.clock σ.tunn σ'.tunn stored := by
  cases step with
  | encapsulate _ _ _ _ _ _ later called => exact ⟨later, Tunn.encapsulate_moves later called⟩
  | decapsulate _ _ _ _ _ _ _ later called => exact ⟨later, Tunn.decapsulate_effect later called⟩
  | formatHandshakeInitiation dst forceResend ephemeralPrivate _ later =>
      exact ⟨later, Tunn.format_handshake_initiation_moves _ dst forceResend ephemeralPrivate later⟩
  | setStaticPrivate _ _ _ _ _ _ _ later called => exact ⟨later, Tunn.set_static_private_moves later called⟩
  | updateTimers _ _ _ _ _ later called => exact ⟨later, (Tunn.update_timers_effect later called).1⟩

/-! Timers that lie in the past on every reachable state. -/

structure Timely (σ : Clocked P) : Prop where
  started : σ.tunn.timers.timeStarted ≤ σ.clock
  before : σ.tunn.timers.Before σ.clock

theorem Timely.step {σ σ' : Clocked P} {stored : Option (Fin nSessions)} (timely : Timely σ)
    (step : Step σ stored σ') : Timely σ' := by
  obtain ⟨later, effect⟩ := step_effect step
  exact ⟨by rw [effect.timeStarted]; exact le_trans timely.started later, effect.before timely.before⟩

theorem reachable_timely {σ : Clocked P} (reachable : Reachable σ) : Timely σ := by
  obtain ⟨staticPrivate, peerStaticPublic, presharedKey, persistentKeepalive, index, rateLimiter, stamper, start,
    nonceKey, secretKey, run⟩ := reachable
  induction run with
  | refl => exact ⟨le_refl start, Timers.before_new _ _ start⟩
  | tail _ next timely =>
      obtain ⟨stored, step⟩ := next
      exact timely.step step

theorem avoids_run {j : Fin nSessions} {σ σ' : Clocked P} (run : ReflTransGen (Avoids j) σ σ') :
    Tunn.Kept σ.tunn σ'.tunn j ∧ σ'.tunn.timers.timeStarted = σ.tunn.timers.timeStarted := by
  induction run with
  | refl => exact ⟨Tunn.kept_refl _ j, rfl⟩
  | tail _ avoids kept =>
      obtain ⟨stored, other, step⟩ := avoids
      obtain ⟨-, effect⟩ := step_effect step
      exact ⟨kept.1.trans (effect.kept j other), effect.timeStarted.trans kept.2⟩

def plainResponderTunn : Tunn Primitives.plain :=
  Tunn.new Primitives.plain (Vector.replicate 32 2) (Vector.replicate 32 1) none none 2 none ⟨1000000000, 0⟩ 0
    (Vector.replicate 32 0) (Vector.replicate 16 0)

theorem reachable_plain_responder : Reachable (⟨plainResponderTunn, 0⟩ : Clocked Primitives.plain) :=
  ⟨_, _, _, _, _, _, _, _, _, _, .refl⟩

theorem plain_responder_stores (now : Instant) :
    ∃ j σ1, Step (⟨plainResponderTunn, 0⟩ : Clocked Primitives.plain) (some j) σ1 ∧ σ1.clock = now ∧
      σ1.tunn.timers.get .timeCurrent = 0 := by
  obtain ⟨m1, init, rateLimiter, t', m2, -, nonempty, verified, handled, decapsulated⟩ :=
    decapsulate_initiation Primitives.plain_dh_commutes Primitives.plain_open_seal plainInitiator plainResponderTunn
      rfl rfl rfl rfl (RateLimiter.same_keys_refl _) (by decide) (List.replicate 148 0) (Vector.replicate 32 3) 0
      (by simp [handshakeInitSz]) rfl none (List.replicate 148 0) (by simp [handshakeRespSz]) (Vector.replicate 32 4) now
  have label : plainResponderTunn.storedSlot none m1 now t' (.writeToNetwork m2) =
      some (slot t'.handshake.nextIndex.toNat) := by
    simp [Tunn.storedSlot, nonempty, verified]
  have step := Step.decapsulate ⟨plainResponderTunn, 0⟩ none m1 _ _ now t' _ (Nat.zero_le now) decapsulated
  rw [label] at step
  refine ⟨_, _, step, rfl, ?_⟩
  rw [Tunn.handle_handshake_init_current handled]
  rfl

end Clocked

open Clocked in
theorem timer_arithmetic_never_panics {P : Primitives} {σ : Clocked P} (reachable : Reachable σ) :
    σ.tunn.timers.Before σ.clock ∧ ∀ now, σ.clock ≤ now →
      (∀ dst ephemeralPrivate msg, σ.tunn.updateTimers dst ephemeralPrivate now = .error msg →
        msg = "The destination buffer is too small" ∧ dst.length < dataOverheadSz) ∧
      (∃ time, σ.tunn.timeSinceLastHandshake now = .ok time) ∧ ∃ stats, σ.tunn.stats now = .ok stats := by
  have before := (reachable_timely reachable).before
  refine ⟨before, fun now later => ⟨fun dst ephemeralPrivate msg failed => ?_, ?_, ?_⟩⟩
  · exact Tunn.update_timers_error before later failed
  · exact Tunn.time_since_last_handshake_ok before later
  · exact Tunn.stats_ok before later

-- The responder once it has taken the plain initiator's first initiation five seconds in.
open Clocked in
theorem plain_timer_arithmetic_never_panics :
    ∃ j σ1, Step (⟨plainResponderTunn, 0⟩ : Clocked Primitives.plain) (some j) σ1 ∧ σ1.clock = 5000000000 ∧
      Reachable σ1 ∧ σ1.tunn.timers.Before σ1.clock ∧
      ∀ now, σ1.clock ≤ now →
        (∀ dst ephemeralPrivate msg, σ1.tunn.updateTimers dst ephemeralPrivate now = .error msg →
          msg = "The destination buffer is too small" ∧ dst.length < dataOverheadSz) ∧
        (∃ time, σ1.tunn.timeSinceLastHandshake now = .ok time) ∧
        ∃ stats, σ1.tunn.stats now = .ok stats := by
  obtain ⟨j, σ1, stored, clock, -⟩ := plain_responder_stores 5000000000
  have reachable := reachable_plain_responder.tail stored
  exact ⟨j, σ1, stored, clock, reachable, timer_arithmetic_never_panics reachable⟩

theorem age_ge_of_stamp_le {started stamp clock now : ℕ} (startedBefore : started ≤ clock)
    (stamped : stamp ≤ clock - started) : now - clock ≤ now - started - stamp := by
  omega

open Clocked Relation in
theorem session_lifetime_bounded {P : Primitives} {σ σ1 σ2 : Clocked P} {j : Fin nSessions} (reachable : Reachable σ)
    (stored : Step σ (some j) σ1) (quiet : ReflTransGen (Avoids j) σ1 σ2) {dst : Bytes} {ephemeralPrivate : Bytes32}
    {now : Instant} {t : Tunn P} {r : TunnResult} (later : σ2.clock ≤ now) (late : rejectAfterTime < now - σ1.clock)
    (updated : σ2.tunn.updateTimers dst ephemeralPrivate now = .ok (t, r)) :
    getElem t.sessions j j.isLt = none ∧
      ∀ σ3, ReflTransGen (Avoids j) ⟨t, now⟩ σ3 → getElem σ3.tunn.sessions j j.isLt = none := by
  -- the new session's timer is the current time of the call that stored it, behind that call's clock
  have timely := (reachable_timely reachable).step stored
  have stores : Tunn.Stores σ.clock σ1.clock σ.tunn σ1.tunn j := (step_effect stored).2
  have stamp : getElem σ1.tunn.timers.sessionTimers j j.isLt ≤ σ1.clock.durationSince σ1.tunn.timers.timeStarted := by
    rw [stores.stamped]
    exact timely.before.current
  obtain ⟨kept, started⟩ := avoids_run quiet
  obtain ⟨moved, emptied⟩ := Tunn.update_timers_effect later updated
  -- the slot still holds the session under that timer, or it has already lost it
  have gone : getElem t.sessions j j.isLt = none := by
    cases occupied : getElem σ2.tunn.sessions j j.isLt with
    | none => exact (moved.kept j).vacant occupied
    | some s =>
        obtain ⟨-, timer⟩ := kept (by rw [occupied]; rfl)
        apply emptied j
        rw [timer, started]
        exact lt_of_lt_of_le late (age_ge_of_stamp_le timely.started stamp)
  exact ⟨gone, fun σ3 run => (avoids_run run).1.vacant gone⟩

open Clocked Relation in
theorem plain_session_lifetime_bounded :
    ∃ j σ1 t r, Step (⟨plainResponderTunn, 0⟩ : Clocked Primitives.plain) (some j) σ1 ∧ σ1.clock = 0 ∧
      σ1.tunn.updateTimers (List.replicate 148 0) (Vector.replicate 32 5) 181000000000 = .ok (t, r) ∧
      getElem t.sessions j j.isLt = none ∧
        ∀ σ3, ReflTransGen (Avoids j) ⟨t, 181000000000⟩ σ3 → getElem σ3.tunn.sessions j j.isLt = none := by
  obtain ⟨j, σ1, stored, clock, -⟩ := plain_responder_stores 0
  have timely := (reachable_timely reachable_plain_responder).step stored
  have later : σ1.clock ≤ 181000000000 := by rw [clock]; decide
  obtain ⟨t, r, updated⟩ : ∃ t r, σ1.tunn.updateTimers (List.replicate 148 0) (Vector.replicate 32 5) 181000000000 =
      .ok (t, r) :=
    Tunn.update_timers_ok timely.before later (by simp [dataOverheadSz])
  exact ⟨j, σ1, t, r, stored, clock, updated,
    session_lifetime_bounded reachable_plain_responder stored .refl later (by rw [clock]; decide) updated⟩

open Clocked in
theorem stale_clock_expires_new_session {P : Primitives} {σ σ1 : Clocked P} {j : Fin nSessions}
    (stored : Step σ (some j) σ1)
    (stale : rejectAfterTime < σ1.clock.durationSince σ1.tunn.timers.timeStarted - σ1.tunn.timers.get .timeCurrent)
    {dst : Bytes} {ephemeralPrivate : Bytes32} {t : Tunn P} {r : TunnResult}
    (updated : σ1.tunn.updateTimers dst ephemeralPrivate σ1.clock = .ok (t, r)) :
    (getElem σ1.tunn.sessions j j.isLt).isSome ∧ getElem t.sessions j j.isLt = none := by
  -- the session was stamped with the cached current time, not with the clock of its own call
  have stores : Tunn.Stores σ.clock σ1.clock σ.tunn σ1.tunn j := (step_effect stored).2
  refine ⟨stores.stored, (Tunn.update_timers_effect (le_refl _) updated).2 j ?_⟩
  rw [stores.stamped]
  exact stale

open Clocked in
theorem plain_stale_clock_expires_new_session :
    ∃ j σ1 t r, Step (⟨plainResponderTunn, 0⟩ : Clocked Primitives.plain) (some j) σ1 ∧ σ1.clock = 181000000000 ∧
      rejectAfterTime < σ1.clock.durationSince σ1.tunn.timers.timeStarted - σ1.tunn.timers.get .timeCurrent ∧
      σ1.tunn.updateTimers (List.replicate 148 0) (Vector.replicate 32 5) σ1.clock = .ok (t, r) ∧
      (getElem σ1.tunn.sessions j j.isLt).isSome ∧ getElem t.sessions j j.isLt = none := by
  obtain ⟨j, σ1, stored, clock, current⟩ := plain_responder_stores 181000000000
  have timely := (reachable_timely reachable_plain_responder).step stored
  have started : σ1.tunn.timers.timeStarted = 0 := (step_effect stored).2.timeStarted
  have stale : rejectAfterTime < σ1.clock.durationSince σ1.tunn.timers.timeStarted - σ1.tunn.timers.get .timeCurrent := by
    rw [clock, started, current]
    decide
  obtain ⟨t, r, updated⟩ : ∃ t r, σ1.tunn.updateTimers (List.replicate 148 0) (Vector.replicate 32 5) σ1.clock =
      .ok (t, r) :=
    Tunn.update_timers_ok timely.before (le_refl σ1.clock) (by simp [dataOverheadSz])
  exact ⟨j, σ1, t, r, stored, clock, stale, updated, stale_clock_expires_new_session stored stale updated⟩

end Boringtun.Noise
