import Boringtun.Noise.Errors
import Boringtun.Lib.ReplayWindow
import Boringtun.Lib.Word

set_option autoImplicit false

namespace Boringtun.Noise

/- `session.rs` keeps, per session, a bitmap of the last `N_BITS` receive
   counters. All arithmetic is on `u64` and wraps, as in the release profile of
   the crate (no `overflow-checks`). -/

def wordSize : UInt64 := 64
def nWords : UInt64 := 16
def nBits : UInt64 := wordSize * nWords

structure ReceivingKeyCounterValidator where
  next : UInt64
  receiveCnt : UInt64
  bitmap : Vector UInt64 16
deriving DecidableEq, Repr

namespace ReceivingKeyCounterValidator

abbrev V := ReceivingKeyCounterValidator

def default : V := ⟨0, 0, Vector.replicate 16 0⟩

@[simp] theorem wordSize_toNat : wordSize.toNat = 64 := rfl
@[simp] theorem nBits_toNat : nBits.toNat = 1024 := rfl

theorem word_lt (idx : UInt64) : (idx % nBits / wordSize).toNat < 16 := by
  simp only [UInt64.toNat_div, UInt64.toNat_mod, nBits_toNat, wordSize_toNat]
  omega

-- `(bit_idx / WORD_SIZE) as usize` where `bit_idx = idx % N_BITS`.
def word (idx : UInt64) : Fin 16 := ⟨(idx % nBits / wordSize).toNat, word_lt idx⟩

-- `(bit_idx % WORD_SIZE) as usize`.
def bit (idx : UInt64) : UInt64 := idx % nBits % wordSize

def setBit (v : V) (idx : UInt64) : V :=
  { v with bitmap := v.bitmap.set (word idx) (v.bitmap[word idx] ||| ((1 : UInt64) <<< bit idx)) }

def clearBit (v : V) (idx : UInt64) : V :=
  { v with bitmap := v.bitmap.set (word idx) (v.bitmap[word idx] &&& ~~~((1 : UInt64) <<< bit idx)) }

def clearWord (v : V) (idx : UInt64) : V :=
  { v with bitmap := v.bitmap.set (word idx) 0 }

def checkBit (v : V) (idx : UInt64) : Bool :=
  ((v.bitmap[word idx] >>> bit idx) &&& 1) == 1

def willAccept (v : V) (counter : UInt64) : Except WireGuardError Unit :=
  if counter ≥ v.next then .ok ()
  else if counter + nBits < v.next then .error .invalidCounter
  else if v.checkBit counter then .error .duplicateCounter
  else .ok ()

-- First loop of the gap: `while !i.is_multiple_of(WORD_SIZE) && i < counter`.
def clearUnaligned (v : V) (i counter : UInt64) : V × UInt64 :=
  if progress : i % wordSize ≠ 0 ∧ i < counter then clearUnaligned (v.clearBit i) (i + 1) counter
  else (v, i)
termination_by counter.toNat - i.toNat
decreasing_by
  have below := UInt64.lt_iff_toNat_lt.mp progress.2
  have step : (i + 1).toNat = i.toNat + 1 := by
    rw [UInt64.toNat_add, UInt64.toNat_one]
    have := counter.toNat_lt
    omega
  omega

-- Last loop of the gap: `while i < counter`.
def clearRemaining (v : V) (i counter : UInt64) : V × UInt64 :=
  if progress : i < counter then clearRemaining (v.clearBit i) (i + 1) counter
  else (v, i)
termination_by counter.toNat - i.toNat
decreasing_by
  have below := UInt64.lt_iff_toNat_lt.mp progress
  have step : (i + 1).toNat = i.toNat + 1 := by
    rw [UInt64.toNat_add, UInt64.toNat_one]
    have := counter.toNat_lt
    omega
  omega

-- `i = (i + WORD_SIZE) & 0u64.wrapping_sub(WORD_SIZE)` rounds down to a word boundary.
theorem align_toNat (n : UInt64) : (n &&& (0 - wordSize)).toNat = n.toNat - n.toNat % 64 := by
  have mask : (0 - wordSize).toNat = 2 ^ 64 - 2 ^ 6 := by decide
  rw [UInt64.toNat_and, mask, Word.and_high_mask n.toNat 64 6 n.toNat_lt (by omega)]
  rfl

theorem word_step_bounds (i counter : UInt64) (fits : counter.toNat + 64 < 2 ^ 64) (below : i ≤ counter)
    (grow : i + wordSize < counter) :
    i.toNat < ((i + wordSize) &&& (0 - wordSize)).toNat ∧ (i + wordSize) &&& (0 - wordSize) ≤ counter := by
  have belowNat := UInt64.le_iff_toNat_le.mp below
  have sum : (i + wordSize).toNat = i.toNat + 64 := by
    rw [UInt64.toNat_add, wordSize_toNat]
    omega
  have growNat := UInt64.lt_iff_toNat_lt.mp grow
  rw [sum] at growNat
  rw [UInt64.le_iff_toNat_le, align_toNat, sum]
  omega

-- Middle loop of the gap: `while i + WORD_SIZE < counter`, clearing whole words. It only
-- runs below `counter`, where `i + WORD_SIZE` cannot wrap; `fits` and `below` say so.
def clearWords (v : V) (i counter : UInt64) (fits : counter.toNat + 64 < 2 ^ 64) (below : i ≤ counter) :
    V × UInt64 :=
  if grow : i + wordSize < counter then
    clearWords (v.clearWord i) ((i + wordSize) &&& (0 - wordSize)) counter fits
      (word_step_bounds i counter fits below grow).2
  else (v, i)
termination_by counter.toNat - i.toNat
decreasing_by
  have bounds := word_step_bounds i counter fits below grow
  have ordered := UInt64.le_iff_toNat_le.mp bounds.2
  omega

theorem clear_unaligned_le (v : V) (i counter : UInt64) (below : i ≤ counter) :
    (clearUnaligned v i counter).2 ≤ counter := by
  fun_induction clearUnaligned v i counter with
  | case1 v i progress ih =>
      apply ih
      have belowNat := UInt64.lt_iff_toNat_lt.mp progress.2
      rw [UInt64.le_iff_toNat_le, UInt64.toNat_add, UInt64.toNat_one]
      omega
  | case2 => exact below

-- Past the "too far back" test, a forward jump of less than `N_BITS` leaves room for
-- `counter + WORD_SIZE`: had `counter + N_BITS` wrapped, `next` would be below `N_BITS`.
theorem gap_fits (next counter : UInt64) (recent : ¬ counter + nBits < next) (ahead : next < counter)
    (near : ¬ counter - next ≥ nBits) : counter.toNat + 1024 < 2 ^ 64 := by
  rw [UInt64.lt_iff_toNat_lt, UInt64.toNat_add, nBits_toNat] at recent
  rw [ge_iff_le, UInt64.le_iff_toNat_le, UInt64.toNat_sub_of_le _ _ (UInt64.le_of_lt ahead),
    nBits_toNat] at near
  have aheadNat := UInt64.lt_iff_toNat_lt.mp ahead
  have := counter.toNat_lt
  omega

theorem forward_of_not_le {next counter : UInt64} (inOrder : ¬ counter = next) (ahead : ¬ counter < next) :
    next < counter := by
  rw [UInt64.lt_iff_toNat_lt]
  have := UInt64.le_iff_toNat_le.mp (UInt64.not_lt.mp ahead)
  have := UInt64.toNat_inj.not.mpr inOrder
  omega

-- The three loops of `mark_did_receive` that clear the bits of the skipped counters
-- `next .. counter`.
def clearGap (v : V) (counter : UInt64) (fits : counter.toNat + 1024 < 2 ^ 64) (below : v.next ≤ counter) : V :=
  let head := clearUnaligned v v.next counter
  let words := clearWords head.1 head.2 counter (by omega) (clear_unaligned_le v v.next counter below)
  (clearRemaining words.1 words.2 counter).1

def markDidReceive (v : V) (counter : UInt64) : V × Except WireGuardError Unit :=
  if tooOld : counter + nBits < v.next then (v, .error .invalidCounter)
  else if inOrder : counter = v.next then ({ v.setBit counter with next := v.next + 1 }, .ok ())
  else if ahead : counter < v.next then
    if v.checkBit counter then (v, .error .invalidCounter) else (v.setBit counter, .ok ())
  else
    -- Packets were dropped or reordered: clear the bits between `next` and `counter`.
    let cleared : V :=
      if far : counter - v.next ≥ nBits then { v with bitmap := Vector.replicate 16 0 }
      else
        clearGap v counter (gap_fits v.next counter tooOld (forward_of_not_le inOrder ahead) far)
          (UInt64.not_lt.mp ahead)
    ({ cleared.setBit counter with next := counter + 1 }, .ok ())

def receivingCounterQuickCheck (v : V) (counter : UInt64) : Except WireGuardError Unit :=
  v.willAccept counter

-- `Session::receiving_counter_mark`: `receive_cnt` counts the counters marked `Ok`.
def receivingCounterMark (v : V) (counter : UInt64) : V × Except WireGuardError Unit :=
  let marked := v.markDidReceive counter
  match marked.2 with
  | .ok () => ({ marked.1 with receiveCnt := marked.1.receiveCnt + 1 }, marked.2)
  | .error _ => marked

/-! The bitmap read as one bit per residue of a counter modulo `N_BITS`. -/

def held (v : V) (p : ℕ) : Bool :=
  v.bitmap[(⟨p % 1024 / 64, by omega⟩ : Fin 16)].toNat.testBit (p % 64)

theorem word_val (idx : UInt64) : (word idx).val = idx.toNat % 1024 / 64 := by
  simp [word, UInt64.toNat_div, UInt64.toNat_mod]

theorem bit_toNat (idx : UInt64) : (bit idx).toNat = idx.toNat % 64 := by
  simp only [bit, UInt64.toNat_mod, nBits_toNat, wordSize_toNat]
  omega

theorem bit_eq (idx : UInt64) : bit idx = UInt64.ofNat (idx.toNat % 64) := by
  apply UInt64.toNat_inj.mp
  have small : idx.toNat % 64 < 2 ^ 64 := by omega
  rw [bit_toNat, UInt64.toNat_ofNat', Nat.mod_eq_of_lt small]

theorem check_bit_eq (v : V) (idx : UInt64) : v.checkBit idx = v.held idx.toNat := by
  rw [checkBit, bit_eq, Word.test_shift_and_one _ _ (by omega), held]
  simp only [Fin.getElem_fin, word_val]

@[simp] theorem set_bit_next (v : V) (idx : UInt64) : (v.setBit idx).next = v.next := rfl

@[simp] theorem set_bit_receive_cnt (v : V) (idx : UInt64) : (v.setBit idx).receiveCnt = v.receiveCnt := rfl

@[simp] theorem held_with_next (v : V) (n : UInt64) (p : ℕ) : held { v with next := n } p = v.held p := rfl

@[simp] theorem held_with_receive_cnt (v : V) (n : UInt64) (p : ℕ) :
    held { v with receiveCnt := n } p = v.held p := rfl

@[simp] theorem held_zero (v : V) (p : ℕ) : held { v with bitmap := Vector.replicate 16 0 } p = false := by
  simp [held]

theorem held_set_bit (v : V) (idx : UInt64) (p : ℕ) :
    (v.setBit idx).held p = (decide (p % 1024 = idx.toNat % 1024) || v.held p) := by
  unfold held setBit
  simp only [Fin.getElem_fin, word_val, bit_eq]
  by_cases sameWord : p % 1024 / 64 = idx.toNat % 1024 / 64
  · simp only [sameWord, Vector.getElem_set_self]
    rw [Word.test_or_shift _ _ _ (by omega)]
    congr 1
    apply decide_eq_decide.mpr
    omega
  · have apart : p % 1024 ≠ idx.toNat % 1024 := fun same => sameWord (by rw [same])
    rw [Vector.getElem_set_ne _ _ (Ne.symm sameWord)]
    simp [apart]

theorem held_clear_bit (v : V) (idx : UInt64) (p : ℕ) :
    (v.clearBit idx).held p = (!decide (p % 1024 = idx.toNat % 1024) && v.held p) := by
  unfold held clearBit
  simp only [Fin.getElem_fin, word_val, bit_eq]
  by_cases sameWord : p % 1024 / 64 = idx.toNat % 1024 / 64
  · simp only [sameWord, Vector.getElem_set_self]
    rw [Word.test_and_not_shift _ _ _ (by omega) (by omega)]
    congr 2
    apply decide_eq_decide.mpr
    omega
  · have apart : p % 1024 ≠ idx.toNat % 1024 := fun same => sameWord (by rw [same])
    rw [Vector.getElem_set_ne _ _ (Ne.symm sameWord)]
    simp [apart]

theorem held_clear_word (v : V) (idx : UInt64) (p : ℕ) :
    (v.clearWord idx).held p = (!decide (p % 1024 / 64 = idx.toNat % 1024 / 64) && v.held p) := by
  unfold held clearWord
  simp only [Fin.getElem_fin, word_val]
  by_cases sameWord : p % 1024 / 64 = idx.toNat % 1024 / 64
  · simp [sameWord]
  · rw [Vector.getElem_set_ne _ _ (Ne.symm sameWord)]
    simp [sameWord]

def Covers (lo hi p : ℕ) : Prop := ∃ k, lo ≤ k ∧ k < hi ∧ k % 1024 = p % 1024

theorem covers_empty (lo p : ℕ) : ¬ Covers lo lo p := by
  rintro ⟨k, low, high, -⟩
  omega

theorem covers_succ (lo hi p : ℕ) (nonempty : lo < hi) :
    Covers lo hi p ↔ p % 1024 = lo % 1024 ∨ Covers (lo + 1) hi p := by
  constructor
  · rintro ⟨k, low, high, same⟩
    by_cases first : k = lo
    · exact Or.inl (first ▸ same.symm)
    · exact Or.inr ⟨k, by omega, high, same⟩
  · rintro (here | ⟨k, low, high, same⟩)
    · exact ⟨lo, le_refl lo, nonempty, here.symm⟩
    · exact ⟨k, by omega, high, same⟩

theorem covers_split (lo mid hi p : ℕ) (first : lo ≤ mid) (second : mid ≤ hi) :
    Covers lo hi p ↔ Covers lo mid p ∨ Covers mid hi p := by
  constructor
  · rintro ⟨k, low, high, same⟩
    by_cases before : k < mid
    · exact Or.inl ⟨k, low, before, same⟩
    · exact Or.inr ⟨k, by omega, high, same⟩
  · rintro (⟨k, low, high, same⟩ | ⟨k, low, high, same⟩)
    · exact ⟨k, low, by omega, same⟩
    · exact ⟨k, by omega, high, same⟩

theorem covers_word (i p : ℕ) (aligned : i % 64 = 0) :
    Covers i (i + 64) p ↔ p % 1024 / 64 = i % 1024 / 64 := by
  constructor
  · rintro ⟨k, low, high, same⟩
    omega
  · intro sameWord
    exact ⟨i + p % 64, by omega, by omega, by omega⟩

theorem succ_toNat {i counter : UInt64} (below : i < counter) : (i + 1).toNat = i.toNat + 1 := by
  rw [UInt64.toNat_add, UInt64.toNat_one]
  have := UInt64.lt_iff_toNat_lt.mp below
  have := counter.toNat_lt
  omega

theorem clear_unaligned_ge (v : V) (i counter : UInt64) : i ≤ (clearUnaligned v i counter).2 := by
  fun_induction clearUnaligned v i counter with
  | case1 v i progress ih =>
      have step := succ_toNat progress.2
      exact UInt64.le_iff_toNat_le.mpr (by have := UInt64.le_iff_toNat_le.mp ih; omega)
  | case2 => exact UInt64.le_refl _

theorem clear_unaligned_stop (v : V) (i counter : UInt64) :
    (clearUnaligned v i counter).2.toNat % 64 = 0 ∨ counter ≤ (clearUnaligned v i counter).2 := by
  fun_induction clearUnaligned v i counter with
  | case1 v i progress ih => exact ih
  | case2 v i stopped =>
      by_cases aligned : i % wordSize = 0
      · left
        simpa [UInt64.toNat_mod] using congrArg UInt64.toNat aligned
      · exact Or.inr (UInt64.not_lt.mp fun below => stopped ⟨aligned, below⟩)

theorem clear_unaligned_held (v : V) (i counter : UInt64) (p : ℕ) :
    (clearUnaligned v i counter).1.held p = true ↔
      v.held p = true ∧ ¬ Covers i.toNat (clearUnaligned v i counter).2.toNat p := by
  fun_induction clearUnaligned v i counter with
  | case1 v i progress ih =>
      have step := succ_toNat progress.2
      have later := UInt64.le_iff_toNat_le.mp (clear_unaligned_ge (v.clearBit i) (i + 1) counter)
      rw [ih, held_clear_bit, covers_succ i.toNat _ p (by omega), step]
      simp only [Bool.and_eq_true, Bool.not_eq_true', decide_eq_false_iff_not, not_or]
      rw [and_assoc, and_left_comm]
  | case2 v i stopped =>
      simpa using fun _ => covers_empty i.toNat p

theorem clear_words_ge_aux (v : V) (i counter : UInt64) (fits : counter.toNat + 64 < 2 ^ 64) (below : i ≤ counter) :
    i ≤ (clearWords v i counter fits below).2 := by
  fun_induction clearWords v i counter fits below with
  | case1 v i below grow ih =>
      have bounds := word_step_bounds i counter fits below grow
      exact UInt64.le_iff_toNat_le.mpr (by have := UInt64.le_iff_toNat_le.mp ih; omega)
  | case2 => exact UInt64.le_refl _

theorem clear_words_le (v : V) (i counter : UInt64) (fits : counter.toNat + 64 < 2 ^ 64) (below : i ≤ counter) :
    (clearWords v i counter fits below).2 ≤ counter := by
  fun_induction clearWords v i counter fits below with
  | case1 v i below grow ih => exact ih
  | case2 v i below stopped => exact below

theorem clear_words_held (v : V) (i counter : UInt64) (fits : counter.toNat + 64 < 2 ^ 64) (below : i ≤ counter)
    (aligned : i.toNat % 64 = 0 ∨ counter ≤ i) (p : ℕ) :
    (clearWords v i counter fits below).1.held p = true ↔
      v.held p = true ∧ ¬ Covers i.toNat (clearWords v i counter fits below).2.toNat p := by
  fun_induction clearWords v i counter fits below with
  | case1 v i below grow ih =>
      have bounds := word_step_bounds i counter fits below grow
      have sum : (i + wordSize).toNat = i.toNat + 64 := by
        rw [UInt64.toNat_add, wordSize_toNat]
        have := UInt64.le_iff_toNat_le.mp below
        omega
      have growNat := UInt64.lt_iff_toNat_lt.mp grow
      -- inside the loop `i` is a word boundary, so the next `i` is exactly one word on
      have wordAligned : i.toNat % 64 = 0 := by
        rcases aligned with aligned | past
        · exact aligned
        · have := UInt64.le_iff_toNat_le.mp past
          omega
      have advanced : ((i + wordSize) &&& (0 - wordSize)).toNat = i.toNat + 64 := by
        rw [align_toNat, sum]
        omega
      have stillAligned : ((i + wordSize) &&& (0 - wordSize)).toNat % 64 = 0 := by
        rw [advanced]
        omega
      have later := UInt64.le_iff_toNat_le.mp (clear_words_ge_aux (v.clearWord i) _ counter fits bounds.2)
      have oneWord := covers_word i.toNat p wordAligned
      rw [← advanced] at oneWord
      rw [ih (Or.inl stillAligned), held_clear_word,
        covers_split i.toNat ((i + wordSize) &&& (0 - wordSize)).toNat _ p (by omega) later, oneWord]
      simp only [Bool.and_eq_true, Bool.not_eq_true', decide_eq_false_iff_not, not_or]
      rw [and_assoc, and_left_comm]
  | case2 v i below stopped =>
      simpa using fun _ => covers_empty i.toNat p

theorem clear_remaining_eq (v : V) (i counter : UInt64) (below : i ≤ counter) :
    (clearRemaining v i counter).2 = counter := by
  fun_induction clearRemaining v i counter with
  | case1 v i progress ih =>
      apply ih
      have step := succ_toNat progress
      have := UInt64.lt_iff_toNat_lt.mp progress
      exact UInt64.le_iff_toNat_le.mpr (by omega)
  | case2 v i stopped => exact UInt64.le_antisymm below (UInt64.not_lt.mp stopped)

theorem clear_remaining_ge (v : V) (i counter : UInt64) : i ≤ (clearRemaining v i counter).2 := by
  fun_induction clearRemaining v i counter with
  | case1 v i progress ih =>
      have step := succ_toNat progress
      exact UInt64.le_iff_toNat_le.mpr (by have := UInt64.le_iff_toNat_le.mp ih; omega)
  | case2 => exact UInt64.le_refl _

theorem clear_remaining_held (v : V) (i counter : UInt64) (p : ℕ) :
    (clearRemaining v i counter).1.held p = true ↔
      v.held p = true ∧ ¬ Covers i.toNat (clearRemaining v i counter).2.toNat p := by
  fun_induction clearRemaining v i counter with
  | case1 v i progress ih =>
      have step := succ_toNat progress
      have later := UInt64.le_iff_toNat_le.mp (clear_remaining_ge (v.clearBit i) (i + 1) counter)
      rw [ih, held_clear_bit, covers_succ i.toNat _ p (by omega), step]
      simp only [Bool.and_eq_true, Bool.not_eq_true', decide_eq_false_iff_not, not_or]
      rw [and_assoc, and_left_comm]
  | case2 v i stopped =>
      simpa using fun _ => covers_empty i.toNat p

theorem clear_gap_held (v : V) (counter : UInt64) (fits : counter.toNat + 1024 < 2 ^ 64) (below : v.next ≤ counter)
    (p : ℕ) : (v.clearGap counter fits below).held p = true ↔ v.held p = true ∧ ¬ Covers v.next.toNat counter.toNat p := by
  unfold clearGap
  dsimp only
  have headLe := clear_unaligned_le v v.next counter below
  have headGe := UInt64.le_iff_toNat_le.mp (clear_unaligned_ge v v.next counter)
  have wordsLe := clear_words_le (clearUnaligned v v.next counter).1 (clearUnaligned v v.next counter).2 counter
    (by omega) headLe
  have wordsGe := UInt64.le_iff_toNat_le.mp (clear_words_ge_aux (clearUnaligned v v.next counter).1
    (clearUnaligned v v.next counter).2 counter (by omega) headLe)
  rw [clear_remaining_held, clear_remaining_eq _ _ _ wordsLe,
    clear_words_held _ _ _ _ _ (clear_unaligned_stop v v.next counter), clear_unaligned_held,
    covers_split v.next.toNat (clearUnaligned v v.next counter).2.toNat counter.toNat p headGe
      (UInt64.le_iff_toNat_le.mp (UInt64.le_trans (by exact UInt64.le_iff_toNat_le.mpr wordsGe) wordsLe)),
    covers_split (clearUnaligned v v.next counter).2.toNat _ counter.toNat p wordsGe
      (UInt64.le_iff_toNat_le.mp wordsLe)]
  simp only [not_or, and_assoc]

theorem covers_all (lo hi p : ℕ) (wide : lo + 1024 ≤ hi) : Covers lo hi p :=
  ⟨lo + (p % 1024 + 1024 - lo % 1024) % 1024, by omega, by omega, by omega⟩

theorem held_set_bit_iff (v : V) (idx : UInt64) (p : ℕ) :
    (v.setBit idx).held p = true ↔ p % 1024 = idx.toNat % 1024 ∨ v.held p = true := by
  rw [held_set_bit, Bool.or_eq_true, decide_eq_true_iff]

/-! One lemma per branch of `mark_did_receive`. -/

theorem mark_too_old {v : V} {counter : UInt64} (tooOld : counter + nBits < v.next) :
    v.markDidReceive counter = (v, .error .invalidCounter) := by
  rw [markDidReceive, dif_pos tooOld]

theorem mark_in_order {v : V} {counter : UInt64} (recent : ¬ counter + nBits < v.next) (inOrder : counter = v.next) :
    v.markDidReceive counter = ({ v.setBit counter with next := v.next + 1 }, .ok ()) := by
  rw [markDidReceive, dif_neg recent, dif_pos inOrder]

theorem mark_behind {v : V} {counter : UInt64} (recent : ¬ counter + nBits < v.next) (inOrder : ¬ counter = v.next)
    (behind : counter < v.next) :
    v.markDidReceive counter =
      if v.checkBit counter then (v, .error .invalidCounter) else (v.setBit counter, .ok ()) := by
  rw [markDidReceive, dif_neg recent, dif_neg inOrder, dif_pos behind]

theorem mark_forward {v : V} {counter : UInt64} (recent : ¬ counter + nBits < v.next) (inOrder : ¬ counter = v.next)
    (ahead : ¬ counter < v.next) :
    ∃ cleared : V, v.markDidReceive counter = ({ cleared.setBit counter with next := counter + 1 }, .ok ()) ∧
      ∀ p, cleared.held p = true ↔ v.held p = true ∧ ¬ Covers v.next.toNat counter.toNat p := by
  rw [markDidReceive, dif_neg recent, dif_neg inOrder, dif_neg ahead]
  refine ⟨_, rfl, fun p => ?_⟩
  have forward := UInt64.lt_iff_toNat_lt.mp (forward_of_not_le inOrder ahead)
  split
  · rename_i far
    rw [ge_iff_le, UInt64.le_iff_toNat_le, UInt64.toNat_sub_of_le _ _ (UInt64.le_of_lt
      (forward_of_not_le inOrder ahead)), nBits_toNat] at far
    simp [covers_all v.next.toNat counter.toNat p (by omega)]
  · exact clear_gap_held _ _ _ _ p

-- The validator stands for the set `accepted` of counters marked so far: `next` is one past the
-- largest of them, and the bit of each of the last `N_BITS` counters below `next` says whether it
-- was marked.
structure Window (v : V) (accepted : Finset ℕ) : Prop where
  next_eq : v.next.toNat = ReplayWindow.top accepted
  window : ∀ c, c < v.next.toNat → v.next.toNat ≤ c + 1024 → (v.held c = true ↔ c ∈ accepted)

theorem window_default : Window default ∅ :=
  ⟨rfl, fun c below => absurd below (Nat.not_lt_zero c)⟩

theorem not_mem_of_top_le {accepted : Finset ℕ} {c : ℕ} (above : ReplayWindow.top accepted ≤ c) : c ∉ accepted :=
  fun member => absurd (ReplayWindow.lt_top_of_mem member) (Nat.not_lt.mpr above)

section Refinement

variable {v : V} {accepted : Finset ℕ} {counter : UInt64}

theorem sum_toNat (fits : counter.toNat + 1024 < 2 ^ 64) : (counter + nBits).toNat = counter.toNat + 1024 := by
  rw [UInt64.toNat_add, nBits_toNat]
  omega

theorem succ_toNat_of_fits (fits : counter.toNat + 1024 < 2 ^ 64) : (counter + 1).toNat = counter.toNat + 1 := by
  rw [UInt64.toNat_add, UInt64.toNat_one]
  omega

end Refinement

theorem covers_empty_of_le (lo hi p : ℕ) (order : hi ≤ lo) : ¬ Covers lo hi p := by
  rintro ⟨k, low, high, -⟩
  omega

theorem window_insert {v v' : V} {accepted : Finset ℕ} {c : ℕ} (rep : Window v accepted)
    (admitted : ReplayWindow.Admits 1024 accepted c) (next' : v'.next.toNat = max v.next.toNat (c + 1))
    (held' : ∀ p, v'.held p = true ↔ p % 1024 = c % 1024 ∨ (v.held p = true ∧ ¬ Covers v.next.toNat c p)) :
    Window v' (insert c accepted) := by
  have top := rep.next_eq
  have recent := admitted.2
  refine ⟨by rw [next', ReplayWindow.top_insert, top, max_comm], fun x below above => ?_⟩
  rw [next'] at below above
  rw [held', Finset.mem_insert]
  by_cases same : x = c
  · exact iff_of_true (Or.inl (congrArg (· % 1024) same)) (Or.inl same)
  · have apart : x % 1024 ≠ c % 1024 := by
      intro eq
      apply same
      omega
    simp only [apart, same, false_or]
    by_cases old : v.next.toNat ≤ x
    · have skipped : Covers v.next.toNat c x := ⟨x, old, by omega, rfl⟩
      exact iff_of_false (fun held => held.2 skipped) (not_mem_of_top_le (by omega))
    · have kept : ¬ Covers v.next.toNat c x := by
        rintro ⟨k, low, high, eq⟩
        omega
      simpa only [kept, not_false_eq_true, and_true] using rep.window x (by omega) (by omega)

theorem step_admitted {accepted : Finset ℕ} {c : ℕ} (admitted : ReplayWindow.Admits 1024 accepted c) :
    (ReplayWindow.step 1024 accepted c).1 = insert c accepted := by
  rw [ReplayWindow.step, if_pos admitted]

theorem step_refused {accepted : Finset ℕ} {c : ℕ} (refused : ¬ ReplayWindow.Admits 1024 accepted c) :
    (ReplayWindow.step 1024 accepted c).1 = accepted := by
  rw [ReplayWindow.step, if_neg refused]

section Marking

variable {v : V} {accepted : Finset ℕ} {counter : UInt64}

theorem mark_did_receive_refines (rep : Window v accepted) (fits : counter.toNat + 1024 < 2 ^ 64) :
    ((v.markDidReceive counter).2 = .ok () ↔ ReplayWindow.Admits 1024 accepted counter.toNat) ∧
      Window (v.markDidReceive counter).1 (ReplayWindow.step 1024 accepted counter.toNat).1 := by
  have top := rep.next_eq
  have room := sum_toNat fits
  by_cases tooOld : counter + nBits < v.next
  · have refused : ¬ ReplayWindow.Admits 1024 accepted counter.toNat := fun admitted => by
      have := UInt64.lt_iff_toNat_lt.mp tooOld
      have := admitted.2
      omega
    rw [mark_too_old tooOld, step_refused refused]
    exact ⟨iff_of_false (by simp) refused, rep⟩
  · have recent : v.next.toNat ≤ counter.toNat + 1024 := by
      have := UInt64.lt_iff_toNat_lt.not.mp tooOld
      omega
    by_cases inOrder : counter = v.next
    · have admitted : ReplayWindow.Admits 1024 accepted counter.toNat :=
        ⟨not_mem_of_top_le (by rw [inOrder]; omega), by omega⟩
      rw [mark_in_order tooOld inOrder, step_admitted admitted]
      refine ⟨iff_of_true rfl admitted, window_insert rep admitted ?_ fun p => ?_⟩
      · rw [inOrder] at fits ⊢
        simp [succ_toNat_of_fits fits]
      · rw [held_with_next, held_set_bit_iff, inOrder]
        simp [covers_empty]
    · by_cases behind : counter < v.next
      · have behindNat := UInt64.lt_iff_toNat_lt.mp behind
        have marked := rep.window counter.toNat behindNat (by omega)
        rw [mark_behind tooOld inOrder behind, check_bit_eq]
        by_cases bitSet : v.held counter.toNat = true
        · have refused : ¬ ReplayWindow.Admits 1024 accepted counter.toNat := fun admitted =>
            admitted.1 (marked.mp bitSet)
          simp only [bitSet, if_true, step_refused refused]
          exact ⟨iff_of_false (by simp) refused, rep⟩
        · have admitted : ReplayWindow.Admits 1024 accepted counter.toNat :=
            ⟨fun member => bitSet (marked.mpr member), by omega⟩
          simp only [bitSet, Bool.false_eq_true, if_false, step_admitted admitted]
          refine ⟨iff_of_true (by simp) admitted, window_insert rep admitted (by rw [set_bit_next]; omega) fun p => ?_⟩
          rw [held_set_bit_iff]
          simp [covers_empty_of_le _ _ p (Nat.le_of_lt behindNat)]
      · have forward := UInt64.lt_iff_toNat_lt.mp (forward_of_not_le inOrder behind)
        have admitted : ReplayWindow.Admits 1024 accepted counter.toNat :=
          ⟨not_mem_of_top_le (by omega), by omega⟩
        obtain ⟨cleared, result, clearedHeld⟩ := mark_forward tooOld inOrder behind
        rw [result, step_admitted admitted]
        refine ⟨iff_of_true rfl admitted, window_insert rep admitted ?_ fun p => ?_⟩
        · simp only [succ_toNat_of_fits fits]
          omega
        · rw [held_with_next, held_set_bit_iff, clearedHeld]

theorem mark_refused_unchanged (v : V) (counter : UInt64) (refused : (v.markDidReceive counter).2 ≠ .ok ()) :
    (v.markDidReceive counter).1 = v := by
  by_cases tooOld : counter + nBits < v.next
  · rw [mark_too_old tooOld]
  · by_cases inOrder : counter = v.next
    · rw [mark_in_order tooOld inOrder] at refused
      exact absurd rfl refused
    · by_cases behind : counter < v.next
      · rw [mark_behind tooOld inOrder behind] at refused ⊢
        by_cases bitSet : v.checkBit counter = true
        · simp [bitSet]
        · simp [bitSet] at refused
      · obtain ⟨cleared, result, -⟩ := mark_forward tooOld inOrder behind
        rw [result] at refused
        exact absurd rfl refused

end Marking

structure Represents (v : V) (accepted : Finset ℕ) : Prop extends Window v accepted where
  count : v.receiveCnt.toNat = accepted.card

theorem represents_default : Represents default ∅ := ⟨window_default, rfl⟩

theorem clear_unaligned_receive_cnt (v : V) (i counter : UInt64) :
    (clearUnaligned v i counter).1.receiveCnt = v.receiveCnt := by
  fun_induction clearUnaligned v i counter with
  | case1 v i progress ih => exact ih
  | case2 => rfl

theorem clear_words_receive_cnt (v : V) (i counter : UInt64) (fits : counter.toNat + 64 < 2 ^ 64)
    (below : i ≤ counter) : (clearWords v i counter fits below).1.receiveCnt = v.receiveCnt := by
  fun_induction clearWords v i counter fits below with
  | case1 v i below grow ih => exact ih
  | case2 => rfl

theorem clear_remaining_receive_cnt (v : V) (i counter : UInt64) :
    (clearRemaining v i counter).1.receiveCnt = v.receiveCnt := by
  fun_induction clearRemaining v i counter with
  | case1 v i progress ih => exact ih
  | case2 => rfl

theorem mark_receive_cnt (v : V) (counter : UInt64) : (v.markDidReceive counter).1.receiveCnt = v.receiveCnt := by
  unfold markDidReceive
  split
  · rfl
  · split
    · rfl
    · split
      · split <;> rfl
      · dsimp only
        split
        · rfl
        · simp only [clearGap, set_bit_receive_cnt, clear_remaining_receive_cnt, clear_words_receive_cnt,
            clear_unaligned_receive_cnt]

theorem counter_mark_refines {v : V} {accepted : Finset ℕ} {counter : UInt64} (rep : Represents v accepted)
    (fits : counter.toNat + 1024 < 2 ^ 64) :
    ((v.receivingCounterMark counter).2 = .ok () ↔ ReplayWindow.Admits 1024 accepted counter.toNat) ∧
      Represents (v.receivingCounterMark counter).1 (ReplayWindow.step 1024 accepted counter.toNat).1 := by
  obtain ⟨verdict, window⟩ := mark_did_receive_refines rep.toWindow fits
  unfold receivingCounterMark
  dsimp only
  cases marked : (v.markDidReceive counter).2 with
  | error failure =>
    dsimp only
    have refused : ¬ ReplayWindow.Admits 1024 accepted counter.toNat := fun admitted => by
      rw [verdict.mpr admitted] at marked
      cases marked
    have same := mark_refused_unchanged v counter (by rw [marked]; exact fun h => by cases h)
    rw [step_refused refused, same, marked]
    exact ⟨iff_of_false (fun h => by cases h) refused, rep⟩
  | ok value =>
    cases value
    dsimp only
    have admitted := verdict.mp marked
    have bounded := ReplayWindow.card_le_top (insert counter.toNat accepted)
    rw [step_admitted admitted] at window ⊢
    refine ⟨iff_of_true rfl admitted, ⟨window.next_eq, window.window⟩, ?_⟩
    have fresh := Finset.card_insert_of_notMem admitted.1
    have marks := window.next_eq
    have within := (v.markDidReceive counter).1.next.toNat_lt
    show (((v.markDidReceive counter).1.receiveCnt) + 1).toNat = _
    rw [UInt64.toNat_add, UInt64.toNat_one, mark_receive_cnt, rep.count, fresh]
    omega

def markAll : V → List UInt64 → V × List (Except WireGuardError Unit)
  | v, [] => (v, [])
  | v, counter :: rest =>
      let first := v.receivingCounterMark counter
      let tail := markAll first.1 rest
      (tail.1, first.2 :: tail.2)

theorem verdict_to_bool {result : Except WireGuardError Unit} {admitted : Prop} [Decidable admitted]
    (verdict : result = .ok () ↔ admitted) : result.toBool = decide admitted := by
  cases result with
  | error failure => simp [Except.toBool, ← verdict]
  | ok value => simp [Except.toBool, ← verdict]

theorem mark_all_refines (v : V) (accepted : Finset ℕ) (rep : Represents v accepted) (counters : List UInt64)
    (fits : ∀ c ∈ counters, c.toNat + 1024 < 2 ^ 64) :
    (markAll v counters).2.map Except.toBool = (ReplayWindow.run 1024 accepted (counters.map UInt64.toNat)).2 ∧
      Represents (markAll v counters).1 (ReplayWindow.run 1024 accepted (counters.map UInt64.toNat)).1 := by
  induction counters generalizing v accepted with
  | nil => exact ⟨rfl, rep⟩
  | cons counter rest ih =>
      obtain ⟨verdict, next⟩ := counter_mark_refines rep (fits counter List.mem_cons_self)
      obtain ⟨verdicts, final⟩ := ih _ _ next (fun c member => fits c (List.mem_cons_of_mem counter member))
      refine ⟨?_, final⟩
      simp only [markAll, List.map_cons, ReplayWindow.run, verdicts, List.cons.injEq, and_true]
      rw [verdict_to_bool verdict, ReplayWindow.step]
      split <;> simp_all

-- At the top of `u64` the window breaks: `counter + N_BITS` wraps below `next`, and `next = counter + 1`
-- wraps to zero, so the largest counter is accepted a second time.
theorem mark_did_receive_accepts_max_twice :
    (markDidReceive ReceivingKeyCounterValidator.default 0xFFFFFFFFFFFFFFFF).2 = .ok () ∧
      (markDidReceive ReceivingKeyCounterValidator.default 0xFFFFFFFFFFFFFFFF).1.next = 0 ∧
      (markDidReceive (markDidReceive ReceivingKeyCounterValidator.default 0xFFFFFFFFFFFFFFFF).1
        0xFFFFFFFFFFFFFFFF).2 = .ok () := by
  decide

end ReceivingKeyCounterValidator

end Boringtun.Noise
