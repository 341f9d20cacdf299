import Mathlib

set_option autoImplicit false

/- The base 64 encoding of RFC 4648, section 4: three bytes are four symbols of the standard
   alphabet, and a last group of one or two bytes is padded with `=` to four symbols. The decoder
   reads what the encoder writes back to its bytes, refuses stray bits in the last symbol, and
   refuses anything outside the alphabet. -/
namespace Rfc4648

def symbol (v : ℕ) : UInt8 :=
  if v < 26 then UInt8.ofNat (0x41 + v)
  else if v < 52 then UInt8.ofNat (0x61 + v - 26)
  else if v < 62 then UInt8.ofNat (0x30 + v - 52)
  else if v = 62 then 0x2B
  else 0x2F

def pad : UInt8 := 0x3D

def isSymbol (c : UInt8) : Bool :=
  (0x41 ≤ c && c ≤ 0x5A) || (0x61 ≤ c && c ≤ 0x7A) || (0x30 ≤ c && c ≤ 0x39) || c == 0x2B || c == 0x2F

def value (c : UInt8) : Option ℕ :=
  if 0x41 ≤ c ∧ c ≤ 0x5A then some (c.toNat - 0x41)
  else if 0x61 ≤ c ∧ c ≤ 0x7A then some (c.toNat - 0x61 + 26)
  else if 0x30 ≤ c ∧ c ≤ 0x39 then some (c.toNat - 0x30 + 52)
  else if c = 0x2B then some 62
  else if c = 0x2F then some 63
  else none

def encode : List UInt8 → List UInt8
  | [] => []
  | [a] =>
      let n := a.toNat * 2 ^ 16
      [symbol (n / 2 ^ 18), symbol (n / 2 ^ 12 % 64), pad, pad]
  | [a, b] =>
      let n := a.toNat * 2 ^ 16 + b.toNat * 2 ^ 8
      [symbol (n / 2 ^ 18), symbol (n / 2 ^ 12 % 64), symbol (n / 2 ^ 6 % 64), pad]
  | a :: b :: c :: rest =>
      let n := a.toNat * 2 ^ 16 + b.toNat * 2 ^ 8 + c.toNat
      [symbol (n / 2 ^ 18), symbol (n / 2 ^ 12 % 64), symbol (n / 2 ^ 6 % 64), symbol (n % 64)] ++ encode rest

-- The last group of four, which may end in one or two padding symbols.
def decodeLastQuad (a b c d : UInt8) : Option (List UInt8) := do
  let va ← value a
  let vb ← value b
  if c = pad ∧ d = pad then
    if vb % 16 = 0 then some [UInt8.ofNat (va * 4 + vb / 16)] else none
  else
    let vc ← value c
    if d = pad then
      let n := va * 2 ^ 12 + vb * 2 ^ 6 + vc
      if vc % 4 = 0 then some [UInt8.ofNat (n / 2 ^ 10), UInt8.ofNat (n / 4)] else none
    else
      let vd ← value d
      let n := va * 2 ^ 18 + vb * 2 ^ 12 + vc * 2 ^ 6 + vd
      some [UInt8.ofNat (n / 2 ^ 16), UInt8.ofNat (n / 2 ^ 8), UInt8.ofNat n]

def decode : List UInt8 → Option (List UInt8)
  | [] => some []
  | [a, b, c, d] => decodeLastQuad a b c d
  | a :: b :: c :: d :: rest => do
      let va ← value a
      let vb ← value b
      let vc ← value c
      let vd ← value d
      let n := va * 2 ^ 18 + vb * 2 ^ 12 + vc * 2 ^ 6 + vd
      let tail ← decode rest
      return [UInt8.ofNat (n / 2 ^ 16), UInt8.ofNat (n / 2 ^ 8), UInt8.ofNat n] ++ tail
  | _ => none

/-! The alphabet, once: every symbol reads back as its value and is in the alphabet, and the
    padding is not. -/

theorem value_symbol : ∀ v < 64, value (symbol v) = some v := by
  intro v small
  interval_cases v <;> rfl

theorem symbol_ne_pad : ∀ v < 64, symbol v ≠ pad := by
  intro v small
  interval_cases v <;> decide

theorem is_symbol_symbol : ∀ v < 64, isSymbol (symbol v) = true := by
  intro v small
  interval_cases v <;> rfl

theorem is_symbol_pad : isSymbol pad = false := rfl

theorem ascii_of_is_symbol {c : UInt8} (symbolic : isSymbol c = true) : c < 0x80 := by
  simp only [isSymbol, Bool.or_eq_true, Bool.and_eq_true, decide_eq_true_eq, beq_iff_eq] at symbolic
  rw [UInt8.lt_iff_toNat_lt]
  rcases symbolic with (((⟨-, high⟩ | ⟨-, high⟩) | ⟨-, high⟩) | rfl) | rfl
  all_goals first | decide | (rw [UInt8.le_iff_toNat_le] at high; simp only [UInt8.toNat_ofNat] at high ⊢; omega)

/-! One group of three bytes, and the two shorter last groups: the values the decoder reads
    rebuild the bytes. -/

theorem decode_group (a b c : UInt8) (n : ℕ) (grouped : n = a.toNat * 2 ^ 16 + b.toNat * 2 ^ 8 + c.toNat) :
    let m := n / 2 ^ 18 * 2 ^ 18 + n / 2 ^ 12 % 64 * 2 ^ 12 + n / 2 ^ 6 % 64 * 2 ^ 6 + n % 64
    UInt8.ofNat (m / 2 ^ 16) = a ∧ UInt8.ofNat (m / 2 ^ 8) = b ∧ UInt8.ofNat m = c := by
  intro m
  have rebuilt : m = n := by omega
  have ha := a.toNat_lt
  have hb := b.toNat_lt
  have hc := c.toNat_lt
  rw [rebuilt]
  refine ⟨?_, ?_, ?_⟩ <;> apply UInt8.toNat_inj.mp <;> simp only [UInt8.toNat_ofNat'] <;> omega

theorem decode_last_quad_one (a : UInt8) :
    let n := a.toNat * 2 ^ 16
    decodeLastQuad (symbol (n / 2 ^ 18)) (symbol (n / 2 ^ 12 % 64)) pad pad = some [a] := by
  intro n
  have ha := a.toNat_lt
  have va := value_symbol (n / 2 ^ 18) (by omega)
  have vb := value_symbol (n / 2 ^ 12 % 64) (by omega)
  have stray : n / 2 ^ 12 % 64 % 16 = 0 := by omega
  simp only [decodeLastQuad, va, vb, and_self, if_true, Option.bind_eq_bind, Option.bind_some, stray]
  congr 2
  apply UInt8.toNat_inj.mp
  simp only [UInt8.toNat_ofNat']
  omega

theorem decode_last_quad_two (a b : UInt8) :
    let n := a.toNat * 2 ^ 16 + b.toNat * 2 ^ 8
    decodeLastQuad (symbol (n / 2 ^ 18)) (symbol (n / 2 ^ 12 % 64)) (symbol (n / 2 ^ 6 % 64)) pad = some [a, b] := by
  intro n
  have ha := a.toNat_lt
  have hb := b.toNat_lt
  have va := value_symbol (n / 2 ^ 18) (by omega)
  have vb := value_symbol (n / 2 ^ 12 % 64) (by omega)
  have vc := value_symbol (n / 2 ^ 6 % 64) (by omega)
  have notPad := symbol_ne_pad (n / 2 ^ 6 % 64) (by omega)
  have stray : n / 2 ^ 6 % 64 % 4 = 0 := by omega
  simp only [decodeLastQuad, va, vb, vc, notPad, if_false, if_true, Option.bind_eq_bind,
    Option.bind_some, stray, Option.some.injEq, List.cons.injEq, and_true]
  constructor <;> apply UInt8.toNat_inj.mp <;> simp only [UInt8.toNat_ofNat'] <;> omega

theorem decode_last_quad_three (a b c : UInt8) :
    let n := a.toNat * 2 ^ 16 + b.toNat * 2 ^ 8 + c.toNat
    decodeLastQuad (symbol (n / 2 ^ 18)) (symbol (n / 2 ^ 12 % 64)) (symbol (n / 2 ^ 6 % 64))
      (symbol (n % 64)) = some [a, b, c] := by
  intro n
  have ha := a.toNat_lt
  have hb := b.toNat_lt
  have hc := c.toNat_lt
  have va := value_symbol (n / 2 ^ 18) (by omega)
  have vb := value_symbol (n / 2 ^ 12 % 64) (by omega)
  have vc := value_symbol (n / 2 ^ 6 % 64) (by omega)
  have vd := value_symbol (n % 64) (by omega)
  have notPad := symbol_ne_pad (n / 2 ^ 6 % 64) (by omega)
  have notPad' := symbol_ne_pad (n % 64) (by omega)
  obtain ⟨first, second, third⟩ := decode_group a b c n rfl
  simp only [decodeLastQuad, va, vb, vc, vd, notPad, notPad', and_false, if_false, Option.bind_eq_bind,
    Option.bind_some, first, second, third]

theorem encode_ne_nil {bs : List UInt8} (nonempty : bs ≠ []) : encode bs ≠ [] := by
  fun_cases encode bs with
  | case1 => exact absurd rfl nonempty
  | case2 | case3 | case4 => simp

theorem decode_encode (bs : List UInt8) : decode (encode bs) = some bs := by
  fun_induction encode bs with
  | case1 => rfl
  | case2 a => exact decode_last_quad_one a
  | case3 a b => exact decode_last_quad_two a b
  | case4 a b c rest n ih =>
      cases rest with
      | nil => exact decode_last_quad_three a b c
      | cons x xs =>
          obtain ⟨e, es, encoded⟩ := List.exists_cons_of_ne_nil (encode_ne_nil (List.cons_ne_nil x xs))
          rw [encoded] at ih
          have ha := a.toNat_lt
          have hb := b.toNat_lt
          have hc := c.toNat_lt
          obtain ⟨first, second, third⟩ := decode_group a b c n rfl
          have va := value_symbol (n / 2 ^ 18) (by omega)
          have vb := value_symbol (n / 2 ^ 12 % 64) (by omega)
          have vc := value_symbol (n / 2 ^ 6 % 64) (by omega)
          have vd := value_symbol (n % 64) (by omega)
          simp only [encoded, List.cons_append, List.nil_append, decode, va, vb, vc, vd, ih,
            Option.bind_eq_bind, Option.bind_some, first, second, third]
          rfl

theorem length_encode (bs : List UInt8) : (encode bs).length = 4 * ((bs.length + 2) / 3) := by
  fun_induction encode bs with
  | case1 | case2 | case3 => simp
  | case4 a b c rest n ih =>
      simp only [List.cons_append, List.nil_append, List.length_cons, ih]
      omega

theorem encode_padded (bs : List UInt8) :
    ∃ body, encode bs = body ++ List.replicate ((3 - bs.length % 3) % 3) pad ∧ ∀ c ∈ body, isSymbol c = true := by
  fun_induction encode bs with
  | case1 => exact ⟨[], rfl, by simp⟩
  | case2 a n =>
      have ha := a.toNat_lt
      refine ⟨[symbol (n / 2 ^ 18), symbol (n / 2 ^ 12 % 64)], rfl, ?_⟩
      simp only [List.mem_cons, List.not_mem_nil, or_false]
      rintro c (rfl | rfl) <;> exact is_symbol_symbol _ (by omega)
  | case3 a b n =>
      have ha := a.toNat_lt
      have hb := b.toNat_lt
      refine ⟨[symbol (n / 2 ^ 18), symbol (n / 2 ^ 12 % 64), symbol (n / 2 ^ 6 % 64)], rfl, ?_⟩
      simp only [List.mem_cons, List.not_mem_nil, or_false]
      rintro c (rfl | rfl | rfl) <;> exact is_symbol_symbol _ (by omega)
  | case4 a b c rest n ih =>
      have ha := a.toNat_lt
      have hb := b.toNat_lt
      have hc := c.toNat_lt
      obtain ⟨body, encoded, symbols⟩ := ih
      -- the three bytes of the group leave the padding of the rest as it is
      have sameLast : (3 - (rest.length + 3) % 3) % 3 = (3 - rest.length % 3) % 3 := by
        rw [Nat.add_mod_right]
      have written : [symbol (n / 2 ^ 18), symbol (n / 2 ^ 12 % 64), symbol (n / 2 ^ 6 % 64), symbol (n % 64)] ++
          encode rest = ([symbol (n / 2 ^ 18), symbol (n / 2 ^ 12 % 64), symbol (n / 2 ^ 6 % 64), symbol (n % 64)] ++
            body) ++ List.replicate ((3 - (a :: b :: c :: rest).length % 3) % 3) pad := by
        rw [encoded, List.append_assoc, List.length_cons, List.length_cons, List.length_cons, sameLast]
      refine ⟨_, written, ?_⟩
      simp only [List.cons_append, List.nil_append, List.mem_cons]
      rintro d (rfl | rfl | rfl | rfl | written)
      all_goals first | exact symbols d written | exact is_symbol_symbol _ (by omega)

end Rfc4648
