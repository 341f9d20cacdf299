import Mathlib
import Boringtun.Lib.Loop

set_option autoImplicit false

/- Orbits of a map that is injective on a set it maps into itself. A generator that walks such
   an orbit and stops before it comes back to its start never repeats a state. -/
namespace Orbit

variable {α : Type} {f : α → α} {s : Set α}

theorem iterate_mem (maps : Set.MapsTo f s s) {x : α} (start : x ∈ s) (n : ℕ) : f^[n] x ∈ s :=
  maps.iterate n start

theorem iterate_inj_of_no_return (inj : Set.InjOn f s) (maps : Set.MapsTo f s s) {x : α} (start : x ∈ s)
    {n : ℕ} (noReturn : ∀ k, 0 < k → k < n → f^[k] x ≠ x) {i j : ℕ} (early : i < n) (late : j < n)
    (same : f^[i] x = f^[j] x) : i = j := by
  wlog order : i ≤ j generalizing i j
  · exact (this late early same.symm (by omega)).symm
  obtain ⟨d, rfl⟩ := Nat.exists_eq_add_of_le order
  rw [Function.iterate_add_apply] at same
  -- cancel the first `i` steps: the orbit came back to `x` after `d` steps
  have back : x = f^[d] x := inj.iterate maps i start (iterate_mem maps start d) same
  by_cases zero : d = 0
  · omega
  · exact absurd back.symm (noReturn d (by omega) (by omega))

end Orbit

/- `IndexLfsr` of `device/mod.rs`: the device numbers its peers with the states of a 24-bit
   linear feedback shift register started at a random seed, masked by a second random value,
   and panics once the register comes back to its seed. The OS random draws are an argument. -/
namespace Boringtun.Device

structure IndexLfsr where
  initial : UInt32
  lfsr : UInt32
  mask : UInt32
deriving DecidableEq, Repr

namespace IndexLfsr

def lfsrMax : UInt32 := 0xffffff
def lfsrPoly : UInt32 := 0xd80000

def InRange (x : UInt32) : Prop := 0 < x.toNat ∧ x.toNat < 2 ^ 24

instance (x : UInt32) : Decidable (InRange x) := inferInstanceAs (Decidable (0 < x.toNat ∧ x.toNat < 2 ^ 24))

theorem in_range_of_draw (draw : UInt32) (positive : draw &&& lfsrMax > 0) : InRange (draw &&& lfsrMax) := by
  refine ⟨UInt32.lt_iff_toNat_lt.mp positive, ?_⟩
  rw [UInt32.toNat_and]
  exact lt_of_le_of_lt Nat.and_le_right (by decide)

abbrev Seed := { i : UInt32 // InRange i }

theorem in_range_one : InRange 1 := by decide

-- `random_index`: the first draw of `OsRng` that is nonzero in its low 24 bits; `none` if the
-- draws run out first (the source loops until one is).
def randomIndex : List UInt32 → Option Seed
  | [] => none
  | draw :: rest =>
      let i := draw &&& lfsrMax
      if positive : i > 0 then some ⟨i, in_range_of_draw draw positive⟩ else randomIndex rest

def default (seed mask : Seed) : IndexLfsr := { initial := seed.1, lfsr := seed.1, mask := mask.1 }

-- 24-bit polynomial for randomness, arbitrarily chosen to inject bitflips into the value.
def shift (lfsr : UInt32) : UInt32 := (lfsr >>> 1) ^^^ ((0 - (lfsr &&& 1)) &&& lfsrPoly)

def next (g : IndexLfsr) : Except String (IndexLfsr × UInt32) :=
  -- lfsr will never have value of 0
  let value := g.lfsr - 1
  let lfsr := shift g.lfsr
  if lfsr = g.initial then .error "Too many peers created"
  else .ok ({ g with lfsr }, value ^^^ g.mask)

theorem next_inversion {g g' : IndexLfsr} {value : UInt32} (stepped : g.next = .ok (g', value)) :
    g' = { g with lfsr := shift g.lfsr } ∧ value = (g.lfsr - 1) ^^^ g.mask ∧ shift g.lfsr ≠ g.initial := by
  simp only [next] at stepped
  split at stepped
  · cases stepped
  · rename_i fresh
    cases stepped
    exact ⟨rfl, rfl, fresh⟩

/-! On 24-bit values the register moves the low bit out and, when it was set, flips the bits of
    the polynomial, which include bit 23: an odd state goes to the upper half, an even one to the
    lower. So the shift is injective on the nonzero 24-bit values and keeps them. -/

theorem shift_toNat (x : UInt32) :
    (shift x).toNat = if x.toNat % 2 = 0 then x.toNat / 2 else x.toNat / 2 ^^^ 0xd80000 := by
  have low : (x &&& 1).toNat = x.toNat % 2 := by rw [UInt32.toNat_and]; exact Nat.and_one_is_mod _
  have half : (x >>> 1).toNat = x.toNat / 2 := by
    rw [UInt32.toNat_shiftRight, Nat.shiftRight_eq_div_pow]; rfl
  by_cases even : x.toNat % 2 = 0
  · have bit : x &&& 1 = 0 := UInt32.toNat_inj.mp (by rw [low, even]; rfl)
    simp [shift, bit, half, even]
  · have bit : x &&& 1 = 1 := UInt32.toNat_inj.mp (by rw [low]; simp; omega)
    simp [shift, bit, UInt32.toNat_xor, half, even, lfsrPoly]

theorem xor_poly_lt {y : ℕ} (small : y < 2 ^ 23) : y ^^^ 0xd80000 < 2 ^ 24 :=
  Nat.xor_lt_two_pow (by omega) (by decide)

theorem xor_poly_ge {y : ℕ} (small : y < 2 ^ 23) : 2 ^ 23 ≤ y ^^^ 0xd80000 := by
  apply Nat.ge_two_pow_of_testBit
  rw [Nat.testBit_xor, Nat.testBit_lt_two_pow small]
  decide

theorem shift_in_range {x : UInt32} (range : InRange x) : InRange (shift x) := by
  obtain ⟨positive, small⟩ := range
  have half : x.toNat / 2 < 2 ^ 23 := by omega
  unfold InRange
  rw [shift_toNat]
  split
  · omega
  · exact ⟨by have := xor_poly_ge half; omega, xor_poly_lt half⟩

theorem shift_inj {x y : UInt32} (rangeX : InRange x) (rangeY : InRange y) (same : shift x = shift y) : x = y := by
  have halfX : x.toNat / 2 < 2 ^ 23 := by have := rangeX.2; omega
  have halfY : y.toNat / 2 < 2 ^ 23 := by have := rangeY.2; omega
  have values := congrArg UInt32.toNat same
  rw [shift_toNat, shift_toNat] at values
  apply UInt32.toNat_inj.mp
  -- an even state lands below 2^23 and an odd one above, so both have the same parity
  split at values <;> split at values
  · omega
  · have := xor_poly_ge halfY
    omega
  · have := xor_poly_ge halfX
    omega
  · have halves : x.toNat / 2 = y.toNat / 2 := Nat.xor_left_injective values
    omega

theorem shift_maps : Set.MapsTo shift {x | InRange x} {x | InRange x} := fun _ range => shift_in_range range

theorem shift_injOn : Set.InjOn shift {x | InRange x} := fun _ rangeX _ rangeY same => shift_inj rangeX rangeY same

/-! A run of the generator: after `pos` calls it stands at the `pos`-th state of the seed's orbit,
    and the register has not come back to the seed at any of the states `1 .. pos`. -/

structure Issued (g : IndexLfsr) (pos : ℕ) : Prop where
  seed : InRange g.initial
  mask : g.mask.toNat < 2 ^ 24
  current : g.lfsr = shift^[pos] g.initial
  noReturn : ∀ k, 0 < k → k ≤ pos → shift^[k] g.initial ≠ g.initial

def valueAt (g : IndexLfsr) (k : ℕ) : UInt32 := (shift^[k] g.initial - 1) ^^^ g.mask

theorem default_issued (seed mask : Seed) : Issued (default seed mask) 0 :=
  ⟨seed.2, mask.2.2, rfl, fun k positive short => absurd short (by omega)⟩

theorem orbit_in_range {g : IndexLfsr} {pos : ℕ} (issued : Issued g pos) (k : ℕ) : InRange (shift^[k] g.initial) :=
  Orbit.iterate_mem shift_maps issued.seed k

theorem next_issued {g g' : IndexLfsr} {pos : ℕ} {value : UInt32} (issued : Issued g pos)
    (stepped : g.next = .ok (g', value)) :
    Issued g' (pos + 1) ∧ value = g.valueAt pos ∧ g'.valueAt = g.valueAt := by
  obtain ⟨rfl, rfl, fresh⟩ := next_inversion stepped
  refine ⟨⟨issued.seed, issued.mask, ?_, ?_⟩, by rw [valueAt, issued.current], rfl⟩
  · show shift g.lfsr = shift^[pos + 1] g.initial
    rw [issued.current, Function.iterate_succ_apply']
  · intro k positive short
    by_cases last : k = pos + 1
    · subst last
      rw [Function.iterate_succ_apply', ← issued.current]
      exact fresh
    · exact issued.noReturn k positive (by omega)

theorem value_at_lt {g : IndexLfsr} {pos : ℕ} (issued : Issued g pos) (k : ℕ) : (g.valueAt k).toNat < 2 ^ 24 := by
  obtain ⟨positive, small⟩ := orbit_in_range issued k
  have one : (1 : UInt32) ≤ shift^[k] g.initial := UInt32.le_iff_toNat_le.mpr positive
  rw [valueAt, UInt32.toNat_xor, UInt32.toNat_sub_of_le _ _ one]
  exact Nat.xor_lt_two_pow (by simp; omega) issued.mask

theorem value_at_inj {g : IndexLfsr} {pos i j : ℕ} (issued : Issued g pos) (early : i ≤ pos) (late : j ≤ pos)
    (same : g.valueAt i = g.valueAt j) : i = j := by
  have unmasked : shift^[i] g.initial - 1 = shift^[j] g.initial - 1 := by
    have := congrArg (· ^^^ g.mask) same
    simpa [valueAt, UInt32.xor_assoc] using this
  have states : shift^[i] g.initial = shift^[j] g.initial := by simpa using unmasked
  have noReturn : ∀ k, 0 < k → k < pos + 1 → shift^[k] g.initial ≠ g.initial :=
    fun k positive short => issued.noReturn k positive (by omega)
  exact Orbit.iterate_inj_of_no_return shift_injOn shift_maps issued.seed noReturn (by omega) (by omega) states

/-! A run of calls: `n` successive calls of `next`, stopped by the first assertion that fails. -/

def draws (g : IndexLfsr) : ℕ → Except String (IndexLfsr × List UInt32)
  | 0 => .ok (g, [])
  | n + 1 => do
      let (g', value) ← g.next
      let (g'', values) ← g'.draws n
      return (g'', value :: values)

theorem draws_issued {g g' : IndexLfsr} {pos : ℕ} {values : List UInt32} (issued : Issued g pos) :
    ∀ {n}, g.draws n = .ok (g', values) →
      Issued g' (pos + n) ∧ g'.valueAt = g.valueAt ∧ values = (List.range n).map fun k => g.valueAt (pos + k)
  | 0, drawn => by
      cases drawn
      exact ⟨issued, rfl, rfl⟩
  | n + 1, drawn => by
      obtain ⟨⟨g1, value⟩, stepped, afterward⟩ := Loop.bind_eq_ok.mp drawn
      dsimp only at afterward
      obtain ⟨⟨g2, rest⟩, drawnRest, returned⟩ := Loop.bind_eq_ok.mp afterward
      cases returned
      obtain ⟨issued1, first, sameValues⟩ := next_issued issued stepped
      obtain ⟨issued2, sameValues', rest⟩ := draws_issued issued1 drawnRest
      refine ⟨by rw [Nat.add_right_comm] at issued2; exact issued2, sameValues'.trans sameValues, ?_⟩
      rw [first, rest, sameValues, List.range_succ_eq_map, List.map_cons, List.map_map]
      congr 1
      apply List.map_congr_left
      intro k _
      simp only [Function.comp_apply]
      congr 1
      omega

theorem draws_never_repeat (seed mask : Seed) (n : ℕ) {g : IndexLfsr} {values : List UInt32}
    (drawn : (default seed mask).draws n = .ok (g, values)) :
    InRange g.lfsr ∧ values.Nodup ∧ ∀ value ∈ values, value.toNat < 2 ^ 24 := by
  obtain ⟨issued, sameValues, rfl⟩ := draws_issued (default_issued seed mask) drawn
  rw [Nat.zero_add] at issued
  refine ⟨?_, ?_, ?_⟩
  · rw [issued.current]
    exact orbit_in_range issued n
  -- the calls return the values of the states `0 .. n - 1`, which the register never revisits
  · apply List.Nodup.map_on _ List.nodup_range
    intro i early j late same
    rw [← sameValues] at same
    exact value_at_inj issued (by simp at early; omega) (by simp at late; omega) (by simpa using same)
  · intro value drawnValue
    obtain ⟨k, -, rfl⟩ := List.mem_map.mp drawnValue
    rw [← sameValues]
    exact value_at_lt issued _

theorem draws_from_one_never_repeat :
    (default ⟨1, in_range_one⟩ ⟨1, in_range_one⟩).draws 2 = .ok (⟨1, 0x6c0000, 1⟩, [1, 0xd7fffe]) ∧
      InRange (0x6c0000 : UInt32) ∧ [(1 : UInt32), 0xd7fffe].Nodup ∧
      ∀ value ∈ [(1 : UInt32), 0xd7fffe], value.toNat < 2 ^ 24 :=
  ⟨rfl, draws_never_repeat ⟨1, in_range_one⟩ ⟨1, in_range_one⟩ 2 rfl⟩

end IndexLfsr

end Boringtun.Device
