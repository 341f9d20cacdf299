import Mathlib

set_option autoImplicit false

/- An abstract sliding-window replay filter over message counters. The state is
   the finite set of counters accepted so far; `top` is one past the largest of
   them. A counter is admitted when it is new and at most `width` below `top`.
   Nothing here depends on how a filter stores the window. -/
namespace ReplayWindow

def top (accepted : Finset ℕ) : ℕ := accepted.sup (· + 1)

def Admits (width : ℕ) (accepted : Finset ℕ) (counter : ℕ) : Prop :=
  counter ∉ accepted ∧ top accepted ≤ counter + width

instance (width : ℕ) (accepted : Finset ℕ) (counter : ℕ) : Decidable (Admits width accepted counter) :=
  inferInstanceAs (Decidable (_ ∧ _))

def step (width : ℕ) (accepted : Finset ℕ) (counter : ℕ) : Finset ℕ × Bool :=
  if Admits width accepted counter then (insert counter accepted, true) else (accepted, false)

def run (width : ℕ) : Finset ℕ → List ℕ → Finset ℕ × List Bool
  | accepted, [] => (accepted, [])
  | accepted, counter :: rest =>
      let first := step width accepted counter
      let tail := run width first.1 rest
      (tail.1, first.2 :: tail.2)

@[simp] theorem top_empty : top ∅ = 0 := rfl

theorem lt_top_of_mem {accepted : Finset ℕ} {counter : ℕ} (member : counter ∈ accepted) :
    counter < top accepted :=
  Nat.lt_of_succ_le (Finset.le_sup (f := (· + 1)) member)

@[simp] theorem top_insert (accepted : Finset ℕ) (counter : ℕ) :
    top (insert counter accepted) = max (counter + 1) (top accepted) := by
  simp [top, Finset.sup_insert]

theorem card_le_top (accepted : Finset ℕ) : accepted.card ≤ top accepted := by
  have inside : accepted ⊆ Finset.range (top accepted) := fun c member =>
    Finset.mem_range.mpr (lt_top_of_mem member)
  simpa using Finset.card_le_card inside

end ReplayWindow
