import Boringtun.Noise.Handshake

set_option autoImplicit false

/- `sleepyinstant/unix.rs`: an instant is a reading of `CLOCK_BOOTTIME` (`CLOCK_MONOTONIC` on the
   BSDs) as a `timespec`, and the time between two instants is their difference, with a second
   borrowed when the nanoseconds would go negative. The rest of the model reads the clock as a
   count of nanoseconds (`Noise.Instant`); the difference computed here is the difference of the
   two counts. -/
namespace Boringtun.Sleepyinstant

-- `libc::timespec` on a 64-bit target: `time_t` and `c_long` are `i64`.
structure TimeSpec where
  tvSec : Int64
  tvNsec : Int64
deriving DecidableEq, Repr

structure Duration where
  secs : UInt64
  nanos : UInt32
deriving DecidableEq, Repr

namespace Duration

def nanosPerSec : UInt32 := 1000000000

def zero : Duration := ⟨0, 0⟩

-- `Duration::new`: nanoseconds past a second carry into the seconds.
def new (secs : UInt64) (nanos : UInt32) : Except String Duration :=
  if nanos < nanosPerSec then .ok ⟨secs, nanos⟩
  else
    let carried := (nanos / nanosPerSec).toUInt64
    if secs.toNat + carried.toNat < 2 ^ 64 then .ok ⟨secs + carried, nanos % nanosPerSec⟩
    else .error "overflow in Duration::new"

def asNanos (d : Duration) : ℕ := d.secs.toNat * 1000000000 + d.nanos.toNat

theorem new_of_lt (secs : UInt64) {nanos : UInt32} (below : nanos.toNat < 1000000000) :
    new secs nanos = .ok ⟨secs, nanos⟩ :=
  if_pos (UInt32.lt_iff_toNat_lt.mpr below)

end Duration

structure Instant where
  t : TimeSpec

namespace Instant

def nanosecond : Int64 := 1000000000

-- The difference of two readings, borrowing a second when the nanoseconds go negative.
def difference (self earlier : Instant) : Int64 × Int64 :=
  if self.t.tvNsec < earlier.t.tvNsec then
    (self.t.tvSec - earlier.t.tvSec - 1, self.t.tvNsec - earlier.t.tvNsec + nanosecond)
  else (self.t.tvSec - earlier.t.tvSec, self.t.tvNsec - earlier.t.tvNsec)

def checkedDurationSince (self earlier : Instant) : Except String (Option Duration) :=
  let (tvSec, tvNsec) := self.difference earlier
  if tvSec < 0 then .ok none
  else do
    let d ← Duration.new tvSec.toUInt64 tvNsec.toUInt64.toUInt32
    return some d

def durationSince (self earlier : Instant) : Except String Duration := do
  let d ← self.checkedDurationSince earlier
  return d.getD Duration.zero

end Instant

/-! Readings of the clock: seconds since boot, and nanoseconds below one second. In that range
    no subtraction of `checked_duration_since` wraps and no cast drops a bit. -/

structure TimeSpec.Reading (t : TimeSpec) : Prop where
  sec_nonneg : 0 ≤ t.tvSec.toInt
  nsec_nonneg : 0 ≤ t.tvNsec.toInt
  nsec_lt : t.tvNsec.toInt < 1000000000

def Instant.toNanos (a : Instant) : ℕ := (a.t.tvSec.toInt * 1000000000 + a.t.tvNsec.toInt).toNat

theorem to_int_sub_of_range {x y : Int64} (low : -2 ^ 63 ≤ x.toInt - y.toInt) (high : x.toInt - y.toInt < 2 ^ 63) :
    (x - y).toInt = x.toInt - y.toInt := by
  rw [Int64.toInt_sub]
  exact Int.bmod_eq_of_le (by omega) (by omega)

theorem to_int_add_of_range {x y : Int64} (low : -2 ^ 63 ≤ x.toInt + y.toInt) (high : x.toInt + y.toInt < 2 ^ 63) :
    (x + y).toInt = x.toInt + y.toInt := by
  rw [Int64.toInt_add]
  exact Int.bmod_eq_of_le (by omega) (by omega)

theorem to_uint64_to_nat {x : Int64} (nonneg : 0 ≤ x.toInt) : (x.toUInt64.toNat : ℤ) = x.toInt := by
  have bits : x.toUInt64.toNat = x.toBitVec.toNat := by
    rw [← UInt64.toNat_toBitVec, Int64.toBitVec_toUInt64]
  rw [bits, Int64.toInt, BitVec.toInt] at *
  split at nonneg <;> omega

theorem to_uint32_to_nat {x : Int64} (nonneg : 0 ≤ x.toInt) (small : x.toInt < 2 ^ 32) :
    (x.toUInt64.toUInt32.toNat : ℤ) = x.toInt := by
  have wide := to_uint64_to_nat nonneg
  rw [UInt64.toNat_toUInt32]
  omega

namespace Instant

variable {a b : Instant}

theorem difference_spec (readA : a.t.Reading) (readB : b.t.Reading) :
    (a.difference b).1.toInt * 1000000000 + (a.difference b).2.toInt =
        (a.t.tvSec.toInt - b.t.tvSec.toInt) * 1000000000 + (a.t.tvNsec.toInt - b.t.tvNsec.toInt) ∧
      0 ≤ (a.difference b).2.toInt ∧ (a.difference b).2.toInt < 1000000000 ∧
      (0 ≤ (a.difference b).1.toInt ↔ b.t.tvSec.toInt < a.t.tvSec.toInt ∨
        b.t.tvSec.toInt = a.t.tvSec.toInt ∧ b.t.tvNsec.toInt ≤ a.t.tvNsec.toInt) := by
  have secHigh := Int64.toInt_lt a.t.tvSec
  have secHigh' := Int64.toInt_lt b.t.tvSec
  have readA' := readA
  have readB' := readB
  obtain ⟨_, _, _⟩ := readA'
  obtain ⟨_, _, _⟩ := readB'
  have seconds : (a.t.tvSec - b.t.tvSec).toInt = a.t.tvSec.toInt - b.t.tvSec.toInt :=
    to_int_sub_of_range (by omega) (by omega)
  have nanos : (a.t.tvNsec - b.t.tvNsec).toInt = a.t.tvNsec.toInt - b.t.tvNsec.toInt :=
    to_int_sub_of_range (by omega) (by omega)
  unfold difference
  split
  · -- the borrow: one second less, one second's worth of nanoseconds more
    rename_i borrow
    rw [Int64.lt_iff_toInt_lt] at borrow
    have one : (1 : Int64).toInt = 1 := rfl
    have billion : nanosecond.toInt = 1000000000 := rfl
    have borrowed : (a.t.tvSec - b.t.tvSec - 1).toInt = a.t.tvSec.toInt - b.t.tvSec.toInt - 1 := by
      rw [to_int_sub_of_range (by rw [seconds, one]; omega) (by rw [seconds, one]; omega), seconds, one]
    have carried :
        (a.t.tvNsec - b.t.tvNsec + nanosecond).toInt = a.t.tvNsec.toInt - b.t.tvNsec.toInt + 1000000000 := by
      rw [to_int_add_of_range (by rw [nanos, billion]; omega) (by rw [nanos, billion]; omega), nanos, billion]
    simp only [borrowed, carried]
    refine ⟨by ring, by omega, by omega, by omega⟩
  · rename_i noBorrow
    rw [Int64.lt_iff_toInt_lt] at noBorrow
    simp only [seconds, nanos]
    refine ⟨trivial, by omega, by omega, by omega⟩

theorem checked_duration_since_of_reading (readA : a.t.Reading) (readB : b.t.Reading) :
    a.checkedDurationSince b =
      .ok (if (a.difference b).1 < 0 then none
        else some ⟨(a.difference b).1.toUInt64, (a.difference b).2.toUInt64.toUInt32⟩) := by
  obtain ⟨-, low, high, -⟩ := difference_spec readA readB
  have below : (a.difference b).2.toUInt64.toUInt32.toNat < 1000000000 := by
    have cast := to_uint32_to_nat low (by omega)
    omega
  unfold checkedDurationSince
  generalize a.difference b = pair at below ⊢
  obtain ⟨tvSec, tvNsec⟩ := pair
  dsimp only
  split
  · rfl
  · rw [Duration.new_of_lt _ below]
    rfl

theorem duration_since_of_checked {result : Option Duration} (checked : a.checkedDurationSince b = .ok result) :
    a.durationSince b = .ok (result.getD Duration.zero) := by
  rw [durationSince, checked]
  rfl

theorem as_nanos_of_difference (readA : a.t.Reading) (readB : b.t.Reading) (later : ¬(a.difference b).1 < 0) :
    ((⟨(a.difference b).1.toUInt64, (a.difference b).2.toUInt64.toUInt32⟩ : Duration).asNanos : ℤ) =
      (a.t.tvSec.toInt - b.t.tvSec.toInt) * 1000000000 + (a.t.tvNsec.toInt - b.t.tvNsec.toInt) := by
  obtain ⟨counted, low, high, -⟩ := difference_spec readA readB
  have nonneg : 0 ≤ (a.difference b).1.toInt := by
    rw [Int64.lt_iff_toInt_lt] at later
    exact Int.not_lt.mp later
  have seconds := to_uint64_to_nat nonneg
  have nanos := to_uint32_to_nat low (by omega)
  simp only [Duration.asNanos, Nat.cast_add, Nat.cast_mul]
  rw [seconds, nanos, ← counted]
  rfl

theorem not_before_iff (readA : a.t.Reading) (readB : b.t.Reading) :
    ¬(a.difference b).1 < 0 ↔ b.t.tvSec.toInt < a.t.tvSec.toInt ∨
      b.t.tvSec.toInt = a.t.tvSec.toInt ∧ b.t.tvNsec.toInt ≤ a.t.tvNsec.toInt := by
  obtain ⟨-, -, -, sign⟩ := difference_spec readA readB
  rw [Int64.lt_iff_toInt_lt, ← sign]
  exact Int.not_lt

theorem checked_duration_since_exact (a b : Instant) (readA : a.t.Reading) (readB : b.t.Reading) :
    ∃ result, a.checkedDurationSince b = .ok result ∧ a.durationSince b = .ok (result.getD Duration.zero) ∧
      (result.isSome ↔ b.t.tvSec.toInt < a.t.tvSec.toInt ∨
        b.t.tvSec.toInt = a.t.tvSec.toInt ∧ b.t.tvNsec.toInt ≤ a.t.tvNsec.toInt) ∧
      ∀ d ∈ result, (d.asNanos : ℤ) =
        (a.t.tvSec.toInt - b.t.tvSec.toInt) * 1000000000 + (a.t.tvNsec.toInt - b.t.tvNsec.toInt) := by
  have checked := checked_duration_since_of_reading readA readB
  refine ⟨_, checked, duration_since_of_checked checked, ?_, ?_⟩
  · rw [← not_before_iff readA readB]
    split <;> simp [*]
  · intro d returned
    split at returned
    · cases returned
    · rename_i later
      cases returned
      exact as_nanos_of_difference readA readB later

theorem checked_duration_since_borrow_second :
    (⟨⟨5, 100⟩⟩ : Instant).t.Reading ∧ (⟨⟨3, 200⟩⟩ : Instant).t.Reading ∧
      ∃ result, (⟨⟨5, 100⟩⟩ : Instant).checkedDurationSince ⟨⟨3, 200⟩⟩ = .ok result ∧
        (⟨⟨5, 100⟩⟩ : Instant).durationSince ⟨⟨3, 200⟩⟩ = .ok (result.getD Duration.zero) ∧
        (result.isSome ↔ (3 : Int64).toInt < (5 : Int64).toInt ∨
          (3 : Int64).toInt = (5 : Int64).toInt ∧ (200 : Int64).toInt ≤ (100 : Int64).toInt) ∧
        ∀ d ∈ result, (d.asNanos : ℤ) =
          ((5 : Int64).toInt - (3 : Int64).toInt) * 1000000000 + ((100 : Int64).toInt - (200 : Int64).toInt) :=
  have readA : (⟨⟨5, 100⟩⟩ : Instant).t.Reading := ⟨by decide, by decide, by decide⟩
  have readB : (⟨⟨3, 200⟩⟩ : Instant).t.Reading := ⟨by decide, by decide, by decide⟩
  ⟨readA, readB, checked_duration_since_exact _ _ readA readB⟩

-- The rest of the model reads the clock as a count of nanoseconds and takes `duration_since` as
-- the truncated difference of two counts: on readings, that is what the borrow computes.
theorem duration_since_refines (readA : a.t.Reading) (readB : b.t.Reading) :
    ∃ d, a.durationSince b = .ok d ∧ d.asNanos = Noise.Instant.durationSince a.toNanos b.toNanos := by
  have checked := checked_duration_since_of_reading readA readB
  have ordered := not_before_iff readA readB
  have secA := readA.sec_nonneg
  have secB := readB.sec_nonneg
  have nsecA := readA.nsec_lt
  have nsecB := readB.nsec_nonneg
  have nsecB' := readB.nsec_lt
  refine ⟨_, duration_since_of_checked checked, ?_⟩
  unfold Noise.Instant.durationSince toNanos
  split
  · -- `earlier` is after `self`: the count of `self` is the smaller one
    rename_i before
    have earlier : ¬(b.t.tvSec.toInt < a.t.tvSec.toInt ∨
        b.t.tvSec.toInt = a.t.tvSec.toInt ∧ b.t.tvNsec.toInt ≤ a.t.tvNsec.toInt) :=
      fun notBefore => ordered.mpr notBefore before
    have zero : Duration.zero.asNanos = 0 := rfl
    rw [Option.getD_none, zero]
    omega
  · rename_i later
    have counted := as_nanos_of_difference readA readB later
    have notBefore := ordered.mp later
    rw [Option.getD_some]
    omega

end Instant

end Boringtun.Sleepyinstant
