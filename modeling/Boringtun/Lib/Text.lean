import Mathlib

set_option autoImplicit false

/- Texts as the bytes a Rust `&str` is: a `String`'s UTF-8 bytes, read back through
   `ByteArray.toList`, and texts of ASCII characters, whose bytes are their characters. Fixed-width
   encodings (every input symbol written as `w` output symbols) are read back by position. -/
namespace Text

theorem to_list_loop (bs : ByteArray) : ∀ (d i : ℕ) (r : List UInt8), bs.size ≤ i + d →
    ByteArray.toList.loop bs i r = r.reverse ++ bs.data.toList.drop i
  | 0, i, r, ended => by
    rw [ByteArray.toList.loop.eq_1, if_neg (by omega), List.drop_of_length_le (by simpa using ended),
      List.append_nil]
  | d + 1, i, r, ended => by
    rw [ByteArray.toList.loop.eq_1]
    by_cases inside : i < bs.size
    · rw [if_pos inside, to_list_loop bs d (i + 1) _ (by omega)]
      conv_rhs => rw [List.drop_eq_getElem_cons (by simpa using inside)]
      have read : bs.get! i = bs.data[i] := getElem!_pos bs.data i (by simpa using inside)
      simp [read]
    · rw [if_neg inside, List.drop_of_length_le (by simp; omega), List.append_nil]

theorem to_list_eq (bs : ByteArray) : bs.toList = bs.data.toList := by
  rw [ByteArray.toList, to_list_loop bs bs.size 0 [] (by omega)]
  rfl

theorem utf8_encode_char_ascii {b : UInt8} (ascii : b < 0x80) : String.utf8EncodeChar (Char.ofUInt8 b) = [b] := by
  have small : b.toNat < 128 := ascii
  rw [String.utf8EncodeChar_eq_singleton (Char.utf8Size_eq_one_iff.mpr ?_)]
  · simp [Char.ofUInt8]
  · simp only [Char.ofUInt8, UInt32.le_iff_toNat_le, UInt8.toNat_toUInt32]
    simp
    omega

theorem of_uint8_injective : Function.Injective Char.ofUInt8 := by
  intro a b same
  have code := congrArg Char.toNat same
  simp only [Char.ofUInt8, Char.toNat, UInt8.toNat_toUInt32] at code
  exact UInt8.toNat_inj.mp code

theorem not_mem_map_of_uint8 {l : List UInt8} {b : UInt8} (absent : b ∉ l) : Char.ofUInt8 b ∉ l.map Char.ofUInt8 := by
  rw [List.mem_map]
  rintro ⟨b', mem, same⟩
  exact absent (of_uint8_injective same ▸ mem)

theorem ascii_bytes (bs : List UInt8) (ascii : ∀ b ∈ bs, b < 0x80) :
    (String.ofList (bs.map Char.ofUInt8)).toByteArray.toList = bs := by
  rw [String.toByteArray_ofList, to_list_eq, List.utf8Encode, List.toList_data_toByteArray]
  induction bs with
  | nil => rfl
  | cons b bs ih =>
      simp [utf8_encode_char_ascii (ascii b List.mem_cons_self),
        ih fun b' mem => ascii b' (List.mem_cons_of_mem _ mem)]

section FixedWidth

variable {α β : Type} (f : α → List β) (w : ℕ) (width : ∀ x, (f x).length = w)

include width in
theorem drop_flat_map : ∀ (l : List α) (i : ℕ), (l.flatMap f).drop (w * i) = (l.drop i).flatMap f
  | [], i => by simp
  | _ :: _, 0 => by simp
  | x :: l, i + 1 => by
      rw [List.flatMap_cons, Nat.mul_succ, Nat.add_comm, ← List.drop_drop, List.drop_left' (width x),
        drop_flat_map l i, List.drop_succ_cons]

include width in
theorem take_drop_flat_map (l : List α) (i : ℕ) (inside : i < l.length) :
    ((l.flatMap f).drop (w * i)).take w = f l[i] := by
  rw [drop_flat_map f w width, List.drop_eq_getElem_cons inside, List.flatMap_cons,
    List.take_left' (width _)]

include width in
theorem length_flat_map (l : List α) : (l.flatMap f).length = w * l.length := by
  induction l with
  | nil => rfl
  | cons x l ih => rw [List.flatMap_cons, List.length_append, ih, width, List.length_cons, Nat.mul_succ,
      Nat.add_comm]

end FixedWidth

section Fill

variable {α : Type} {n : ℕ} (k : Vector α n)

theorem get_fill (j : Fin n) : ∀ (positions : List (Fin n)) (v : Vector α n),
    (positions.foldl (fun v i => v.set i k[i] i.isLt) v)[j] = if j ∈ positions then k[j] else v[j]
  | [], _ => by simp
  | i :: rest, v => by
      rw [List.foldl_cons, get_fill j rest]
      by_cases later : j ∈ rest
      · simp [later]
      · by_cases here : i = j
        · subst here
          simp [later]
        · have apart : (i : ℕ) ≠ j := fun same => here (Fin.ext same)
          rw [if_neg later, if_neg (by simp [later, Ne.symm here])]
          simp only [Fin.getElem_fin]
          exact Vector.getElem_set_ne _ _ apart

theorem fill_all (v : Vector α n) : (List.finRange n).foldl (fun v i => v.set i k[i] i.isLt) v = k := by
  refine Vector.ext fun j inside => ?_
  have filled := get_fill k ⟨j, inside⟩ (List.finRange n) v
  rw [if_pos (List.mem_finRange _)] at filled
  exact filled

end Fill

end Text
