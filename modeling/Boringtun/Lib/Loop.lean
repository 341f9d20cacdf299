import Mathlib.Data.List.Basic

set_option autoImplicit false

/- Computations that may fail, in `Except`: the rule for `?` (a bind that succeeded), and loops
   (`for` loops with `?` or an `unwrap` in their body) as `List.foldlM`, with the invariant rule. -/
namespace Loop

variable {α β ε : Type}

theorem bind_eq_ok {x : Except ε α} {f : α → Except ε β} {b : β} :
    (x >>= f) = .ok b ↔ ∃ a, x = .ok a ∧ f a = .ok b := by
  cases x <;> simp [bind, Except.bind]

theorem bind_eq_error {x : Except ε α} {f : α → Except ε β} {e : ε} :
    (x >>= f) = .error e ↔ x = .error e ∨ ∃ a, x = .ok a ∧ f a = .error e := by
  cases x <;> simp [bind, Except.bind]

theorem map_eq_ok {x : Except ε α} {f : α → β} {b : β} : (f <$> x) = .ok b ↔ ∃ a, x = .ok a ∧ f a = b := by
  cases x <;> simp [Functor.map, Except.map]

theorem eq_fst_of_pure_eq_ok {γ : Type} {x : α × γ} {a : α} {c : γ} (returned : (pure x : Except ε (α × γ)) = .ok (a, c)) :
    a = x.1 := by
  cases returned
  rfl

theorem foldlM_invariant (inv : β → Prop) (f : β → α → Except ε β) (xs : List α)
    (step : ∀ acc x, x ∈ xs → inv acc → ∃ next, f acc x = .ok next ∧ inv next) (start : β) (init : inv start) :
    ∃ last, xs.foldlM f start = .ok last ∧ inv last := by
  induction xs generalizing start with
  | nil => exact ⟨start, rfl, init⟩
  | cons x rest ih =>
      obtain ⟨next, first, invNext⟩ := step start x (by simp) init
      obtain ⟨last, loop, invLast⟩ := ih (fun acc y member => step acc y (by simp [member])) next invNext
      exact ⟨last, by simp only [List.foldlM_cons, first, bind, Except.bind, loop], invLast⟩

theorem foldlM_ok_invariant (inv : β → Prop) (f : β → α → Except ε β) (xs : List α)
    (step : ∀ acc x next, x ∈ xs → inv acc → f acc x = .ok next → inv next) (start : β) (init : inv start)
    {last : β} (ran : xs.foldlM f start = .ok last) : inv last := by
  induction xs generalizing start with
  | nil =>
      cases ran
      exact init
  | cons x rest ih =>
      simp only [List.foldlM_cons, bind, Except.bind] at ran
      cases first : f start x with
      | error e => simp [first] at ran
      | ok next =>
          rw [first] at ran
          exact ih (fun acc y next' member => step acc y next' (by simp [member])) next
            (step start x next (by simp) init first) ran

theorem foldlM_ok_forall (inv : β → Prop) (post : β → α → Prop) (f : β → α → Except ε β) (xs : List α)
    (step : ∀ acc x next, inv acc → f acc x = .ok next → inv next ∧ post next x)
    (keep : ∀ acc x next y, inv acc → f acc x = .ok next → post acc y → post next y)
    (start : β) (init : inv start) {last : β} (ran : xs.foldlM f start = .ok last) :
    inv last ∧ ∀ x ∈ xs, post last x := by
  induction xs generalizing start with
  | nil =>
      cases ran
      exact ⟨init, fun _ absent => absurd absent List.not_mem_nil⟩
  | cons x rest ih =>
      simp only [List.foldlM_cons, bind, Except.bind] at ran
      cases first : f start x with
      | error e => simp [first] at ran
      | ok next =>
          rw [first] at ran
          obtain ⟨invNext, postNext⟩ := step start x next init first
          obtain ⟨invLast, postRest⟩ := ih next invNext ran
          -- this iteration's element keeps `post` through the rest of the loop
          have postLast : post last x :=
            (foldlM_ok_invariant (fun acc => inv acc ∧ post acc x) f rest
              (fun acc y next' _ held stepped =>
                ⟨(step acc y next' held.1 stepped).1, keep acc y next' x held.1 stepped held.2⟩)
              next ⟨invNext, postNext⟩ ran).2
          refine ⟨invLast, fun y member => ?_⟩
          rcases List.mem_cons.mp member with rfl | later
          · exact postLast
          · exact postRest y later

/-! `while let Some(x) = step() { .. }`: a loop that stops at the first turn that gives nothing,
    run for at most `fuel` turns; `none` when the turns ran out before it stopped. -/

section Drain

variable {σ : Type}

def drain (step : σ → Except ε (σ × Option β)) : ℕ → σ → Except ε (Option (σ × List β))
  | 0, _ => .ok none
  | fuel + 1, s =>
      match step s with
      | .error e => .error e
      | .ok (s', none) => .ok (some (s', []))
      | .ok (s', some b) =>
          match drain step fuel s' with
          | .error e => .error e
          | .ok none => .ok none
          | .ok (some (s'', bs)) => .ok (some (s'', b :: bs))

variable {step : σ → Except ε (σ × Option β)}

theorem drain_stop {fuel : ℕ} {s s' : σ} (stopped : step s = .ok (s', none)) :
    drain step (fuel + 1) s = .ok (some (s', [])) := by
  simp [drain, stopped]

theorem drain_continue {fuel : ℕ} {s s' : σ} {b : β} (continued : step s = .ok (s', some b)) :
    drain step (fuel + 1) s = (drain step fuel s').map (Option.map fun r => (r.1, b :: r.2)) := by
  simp only [drain, continued]
  cases drain step fuel s' with
  | error e => rfl
  | ok result =>
      cases result with
      | none => rfl
      | some r => rfl

-- Fuel is only a bound: a measure that every turn which goes on lowers bounds the turns, so any
-- fuel above it lets the loop stop (or fail) before it runs out.
theorem drain_of_measure (μ : σ → ℕ) (lowers : ∀ s s' b, step s = .ok (s', some b) → μ s' < μ s) :
    ∀ {fuel : ℕ} {s : σ}, μ s < fuel → drain step fuel s ≠ .ok none
  | 0, _, below => absurd below (Nat.not_lt_zero _)
  | fuel + 1, s, below => by
      cases stepped : step s with
      | error e => simp [drain, stepped]
      | ok result =>
          obtain ⟨s', out⟩ := result
          cases out with
          | none => simp [drain_stop stepped]
          | some b =>
              have rest : drain step fuel s' ≠ .ok none :=
                drain_of_measure μ lowers (by have := lowers s s' b stepped; omega)
              rw [drain_continue stepped]
              cases ran : drain step fuel s' with
              | error e => simp [Except.map]
              | ok result' =>
                  cases result' with
                  | none => exact absurd ran rest
                  | some r => simp [Except.map]

theorem drain_mono : ∀ {fuel fuel' : ℕ} {s : σ}, drain step fuel s ≠ .ok none → fuel ≤ fuel' →
    drain step fuel' s = drain step fuel s
  | 0, _, _, ran, _ => absurd rfl ran
  | fuel + 1, fuel' + 1, s, ran, more => by
      cases stepped : step s with
      | error e => simp [drain, stepped]
      | ok result =>
          obtain ⟨s', out⟩ := result
          cases out with
          | none => rw [drain_stop stepped, drain_stop stepped]
          | some b =>
              rw [drain_continue stepped] at ran ⊢
              rw [drain_continue stepped]
              have rest : drain step fuel s' ≠ .ok none := by
                intro none'
                rw [none'] at ran
                exact ran rfl
              rw [drain_mono rest (by omega)]

end Drain

/-! Loops whose turns each give outputs, collected in order: a `for` loop over its inputs, and a
    `while let` loop that ends after `iter` counted turns, a turn that ends in `continue` not
    being counted, and leaves the inputs it did not read. -/

section Collect

variable {σ γ : Type}

def collect (turn : σ → α → Except ε (σ × List γ)) : σ → List α → Except ε (σ × List γ)
  | s, [] => .ok (s, [])
  | s, x :: xs => do
      let (s, out) ← turn s x
      let (s, more) ← collect turn s xs
      return (s, out ++ more)

def collectCounted (turn : σ → α → Except ε (σ × List γ × Bool)) : ℕ → σ → List α → Except ε (σ × List γ × List α)
  | _, s, [] => .ok (s, [], [])
  | iter, s, x :: xs => do
      let (s, out, counted) ← turn s x
      let iter := if counted then iter - 1 else iter
      if counted ∧ iter = 0 then return (s, out, xs)
      let (s, more, unread) ← collectCounted turn iter s xs
      return (s, out ++ more, unread)

/- The rule for both: a relation `R` from the start that every turn extends, and a property `post`
   that each output has at the state its turn started from. -/
variable (R : σ → σ → Prop) (post : σ → γ → Prop) (refl : ∀ s, R s s) (trans : ∀ {a b c}, R a b → R b c → R a c)

include refl trans in
theorem collect_outputs {turn : σ → α → Except ε (σ × List γ)} {xs : List α}
    (keeps : ∀ s x s' out, x ∈ xs → turn s x = .ok (s', out) → R s s')
    (gives : ∀ s x s' out, x ∈ xs → turn s x = .ok (s', out) → ∀ o ∈ out, post s o) :
    ∀ {start last : σ} {outs : List γ}, collect turn start xs = .ok (last, outs) →
      R start last ∧ ∀ o ∈ outs, ∃ s, R start s ∧ post s o := by
  induction xs with
  | nil =>
      intro start last outs ran
      cases ran
      exact ⟨refl _, fun _ absent => absurd absent List.not_mem_nil⟩
  | cons x rest ih =>
      intro start last outs ran
      obtain ⟨⟨s1, out⟩, first, looped⟩ := bind_eq_ok.mp ran
      obtain ⟨⟨s2, more⟩, rested, returned⟩ := bind_eq_ok.mp looped
      cases returned
      have kept := keeps start x s1 out List.mem_cons_self first
      obtain ⟨reached, later⟩ := ih (fun s y s' out mem => keeps s y s' out (List.mem_cons_of_mem _ mem))
        (fun s y s' out mem => gives s y s' out (List.mem_cons_of_mem _ mem)) rested
      refine ⟨trans kept reached, fun o mem => ?_⟩
      rcases List.mem_append.mp mem with here | there
      · exact ⟨start, refl _, gives start x s1 out List.mem_cons_self first o here⟩
      · obtain ⟨s, reachedS, holds⟩ := later o there
        exact ⟨s, trans kept reachedS, holds⟩

include refl trans in
theorem collect_counted_outputs {turn : σ → α → Except ε (σ × List γ × Bool)} {xs : List α}
    (keeps : ∀ s x s' out counted, x ∈ xs → turn s x = .ok (s', out, counted) → R s s')
    (gives : ∀ s x s' out counted, x ∈ xs → turn s x = .ok (s', out, counted) → ∀ o ∈ out, post s o) :
    ∀ {iter : ℕ} {start last : σ} {outs : List γ} {unread : List α},
      collectCounted turn iter start xs = .ok (last, outs, unread) → R start last ∧ ∀ o ∈ outs, ∃ s, R start s ∧ post s o := by
  induction xs with
  | nil =>
      intro iter start last outs unread ran
      cases ran
      exact ⟨refl _, fun _ absent => absurd absent List.not_mem_nil⟩
  | cons x rest ih =>
      intro iter start last outs unread ran
      obtain ⟨⟨s1, out, counted⟩, first, looped⟩ := bind_eq_ok.mp ran
      have kept := keeps start x s1 out counted List.mem_cons_self first
      have given := gives start x s1 out counted List.mem_cons_self first
      dsimp only at looped
      by_cases stop : counted = true ∧ (if counted = true then iter - 1 else iter) = 0
      · -- the last counted turn
        rw [if_pos stop] at looped
        cases looped
        exact ⟨kept, fun o mem => ⟨start, refl _, given o mem⟩⟩
      · rw [if_neg stop] at looped
        obtain ⟨⟨s2, more, unread'⟩, rested, returned⟩ := bind_eq_ok.mp looped
        cases returned
        obtain ⟨reached, later⟩ := ih (fun s y s' out counted mem => keeps s y s' out counted (List.mem_cons_of_mem _ mem))
          (fun s y s' out counted mem => gives s y s' out counted (List.mem_cons_of_mem _ mem)) rested
        refine ⟨trans kept reached, fun o mem => ?_⟩
        rcases List.mem_append.mp mem with here | there
        · exact ⟨start, refl _, given o here⟩
        · obtain ⟨s, reachedS, holds⟩ := later o there
          exact ⟨s, trans kept reachedS, holds⟩

-- The rule with the inputs read: `Q ys` relates the states before and after turns that read `ys`,
-- and the counted loop reads a prefix of its inputs.
theorem collect_counted_reads (Q : List α → σ → σ → Prop) (none : ∀ s, Q [] s s)
    (append : ∀ {ys zs a b c}, Q ys a b → Q zs b c → Q (ys ++ zs) a c)
    {turn : σ → α → Except ε (σ × List γ × Bool)} (one : ∀ s x s' out counted, turn s x = .ok (s', out, counted) → Q [x] s s') :
    ∀ {xs : List α} {iter : ℕ} {start last : σ} {outs : List γ} {unread : List α},
      collectCounted turn iter start xs = .ok (last, outs, unread) → ∃ ys, ys <+: xs ∧ Q ys start last
  | [], _, start, _, _, _, ran => by
      cases ran
      exact ⟨[], List.nil_prefix, none start⟩
  | x :: rest, iter, start, last, outs, unread, ran => by
      obtain ⟨⟨s1, out, counted⟩, first, looped⟩ := bind_eq_ok.mp ran
      have read := one start x s1 out counted first
      dsimp only at looped
      by_cases stop : counted = true ∧ (if counted = true then iter - 1 else iter) = 0
      · rw [if_pos stop] at looped
        cases looped
        exact ⟨[x], List.cons_prefix_cons.mpr ⟨rfl, List.nil_prefix⟩, read⟩
      · rw [if_neg stop] at looped
        obtain ⟨⟨s2, more, unread'⟩, rested, returned⟩ := bind_eq_ok.mp looped
        cases returned
        obtain ⟨ys, pre, later⟩ := collect_counted_reads Q none append one rested
        exact ⟨x :: ys, List.cons_prefix_cons.mpr ⟨rfl, pre⟩, append read later⟩

theorem collect_ok (inv : σ → Prop) {turn : σ → α → Except ε (σ × List γ)} :
    ∀ {xs : List α}, (∀ s x, x ∈ xs → inv s → ∃ s' out, turn s x = .ok (s', out) ∧ inv s') →
      ∀ {start}, inv start → ∃ last outs, collect turn start xs = .ok (last, outs)
  | [], _, start, _ => ⟨start, [], rfl⟩
  | x :: rest, total, start, init => by
      obtain ⟨s1, out, first, held⟩ := total start x List.mem_cons_self init
      obtain ⟨last, more, rested⟩ := collect_ok inv (fun s y mem => total s y (List.mem_cons_of_mem _ mem)) held
      exact ⟨last, out ++ more, by simp only [collect, first, rested, bind, Except.bind, pure, Except.pure]⟩

theorem collect_error {turn : σ → α → Except ε (σ × List γ)} {e : ε} :
    ∀ {xs : List α} {start : σ}, collect turn start xs = .error e → ∃ s x, x ∈ xs ∧ turn s x = .error e
  | [], _, failed => by cases failed
  | x :: rest, start, failed => by
      rcases bind_eq_error.mp failed with first | ⟨⟨s1, out⟩, -, failed⟩
      · exact ⟨start, x, List.mem_cons_self, first⟩
      · rcases bind_eq_error.mp failed with rested | ⟨⟨s2, more⟩, -, returned⟩
        · obtain ⟨s, y, mem, turned⟩ := collect_error rested
          exact ⟨s, y, List.mem_cons_of_mem _ mem, turned⟩
        · cases returned

end Collect

end Loop
