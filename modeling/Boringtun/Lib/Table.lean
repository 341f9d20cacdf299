import Mathlib.Data.List.AList

set_option autoImplicit false

/- Two operations on finite maps that routing tables are built from: dropping the entries whose
   value fails a test (what a `retain` does), and the longest-match lookup of a table whose keys
   are ordered by length, which probes the lengths from the longest down. -/

namespace AList

variable {α : Type} {β : α → Type}

theorem nodupKeys_filter (s : AList β) (p : (a : α) → β a → Bool) :
    (s.entries.filter (fun e => p e.1 e.2)).NodupKeys :=
  s.nodupKeys.sublist List.filter_sublist

def retain (p : (a : α) → β a → Bool) (s : AList β) : AList β :=
  ⟨s.entries.filter (fun e => p e.1 e.2), nodupKeys_filter s p⟩

end AList

namespace Table

variable {β : Type}

-- The longest match over lengths `m, m - 1, .., 0`: the first length whose probe finds a value.
def longestMatch (probe : ℕ → Option β) : ℕ → Option β
  | 0 => probe 0
  | m + 1 => (probe (m + 1)).or (longestMatch probe m)

theorem longest_match_eq_some {probe : ℕ → Option β} {v : β} :
    ∀ {m : ℕ}, longestMatch probe m = some v ↔
      ∃ k ≤ m, probe k = some v ∧ ∀ j, k < j → j ≤ m → probe j = none
  | 0 => by
      constructor
      · intro found
        exact ⟨0, le_refl 0, found, fun j longer short => absurd short (by omega)⟩
      · rintro ⟨k, short, found, -⟩
        obtain rfl : k = 0 := by omega
        exact found
  | m + 1 => by
      have ih := @longest_match_eq_some probe v m
      simp only [longestMatch]
      cases top : probe (m + 1) with
      | some w =>
          simp only [Option.some_or, Option.some.injEq]
          constructor
          · rintro rfl
            exact ⟨m + 1, le_refl _, top, fun j longer short => absurd short (by omega)⟩
          · rintro ⟨k, short, found, later⟩
            by_cases atTop : k = m + 1
            · subst atTop
              simpa [top] using found
            · have := later (m + 1) (by omega) (le_refl _)
              simp [top] at this
      | none =>
          simp only [Option.none_or, ih]
          constructor
          · rintro ⟨k, short, found, later⟩
            refine ⟨k, by omega, found, fun j longer short' => ?_⟩
            by_cases atTop : j = m + 1
            · subst atTop
              exact top
            · exact later j longer (by omega)
          · rintro ⟨k, short, found, later⟩
            -- the top length finds nothing, so the match lies below it
            have below : k ≠ m + 1 := by
              rintro rfl
              simp [top] at found
            exact ⟨k, by omega, found, fun j longer short' => later j longer (by omega)⟩

end Table
