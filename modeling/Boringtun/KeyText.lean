import Boringtun.Serialization
import Boringtun.Lib.Text

set_option autoImplicit false

/- `serialization.rs` the other way: `to_lower_hex` and `to_base64` print a key, and `from_str`
   reads either text back to the same key. Both texts are ASCII, so their bytes are their
   characters and no slice of the hexadecimal branch falls inside a character. -/
namespace Boringtun

open Noise

theorem is_char_boundary_ascii {s : Bytes} (ascii : ∀ c ∈ s, c < 0x80) {index : ℕ} (within : index ≤ s.length) :
    isCharBoundary s index = true := by
  unfold isCharBoundary
  rcases Nat.lt_or_eq_of_le within with inside | atEnd
  · simp [List.getElem?_eq_getElem inside, ascii _ (List.getElem_mem inside)]
  · simp [atEnd]

namespace KeyBytes

-- The `to_char` closure of `to_lower_hex`, before its `as char`.
def nibbleDigit (nibble : UInt8) : UInt8 := if nibble ≤ 9 then 0x30 + nibble else nibble + 0x61 - 10

def toLowerHex (k : Bytes32) : String :=
  String.ofList (k.toList.flatMap fun (byte : UInt8) =>
    [Char.ofUInt8 (nibbleDigit (byte >>> 4)), Char.ofUInt8 (nibbleDigit (byte &&& 0xf))])

def toBase64 (engine : Base64) (k : Bytes32) : String := String.ofList ((engine.encode k.toList).map Char.ofUInt8)

/-! The hexadecimal text: two ASCII digits a byte, which `u8::from_str_radix` reads back. -/

def hexPair (byte : UInt8) : Bytes := [nibbleDigit (byte >>> 4), nibbleDigit (byte &&& 0xf)]

theorem nibble_digit : ∀ v < 16, toDigit (nibbleDigit (UInt8.ofNat v)) 16 = some v ∧
    (nibbleDigit (UInt8.ofNat v)).toNat < 0x80 ∧ (nibbleDigit (UInt8.ofNat v)).toNat ≠ 0x3D ∧
    (nibbleDigit (UInt8.ofNat v)).toNat ≠ 0x0A ∧ nibbleDigit (UInt8.ofNat v) ≠ 0x2B := by
  intro v small
  interval_cases v <;> exact ⟨rfl, by decide, by decide, by decide, by decide⟩

theorem high_nibble (byte : UInt8) : (byte >>> 4).toNat = byte.toNat / 16 := by
  rw [UInt8.toNat_shiftRight]
  simp [Nat.shiftRight_eq_div_pow]

theorem low_nibble (byte : UInt8) : (byte &&& 0xf).toNat = byte.toNat % 16 := by
  rw [UInt8.toNat_and]
  exact Nat.and_two_pow_sub_one_eq_mod byte.toNat 4

theorem nibbles_lt (byte : UInt8) : (byte >>> 4).toNat < 16 ∧ (byte &&& 0xf).toNat < 16 := by
  have hb := byte.toNat_lt
  rw [high_nibble, low_nibble]
  omega

theorem hex_pair_digits (byte : UInt8) : ∀ c ∈ hexPair byte, ∃ v < 16, c = nibbleDigit (UInt8.ofNat v) := by
  intro c written
  simp only [hexPair, List.mem_cons, List.not_mem_nil, or_false] at written
  rcases written with rfl | rfl
  · exact ⟨(byte >>> 4).toNat, (nibbles_lt byte).1, by rw [UInt8.ofNat_toNat]⟩
  · exact ⟨(byte &&& 0xf).toNat, (nibbles_lt byte).2, by rw [UInt8.ofNat_toNat]⟩

theorem hex_pair_parses (byte : UInt8) : u8FromStrRadix (hexPair byte) 16 = some byte := by
  have hb := byte.toNat_lt
  obtain ⟨hiDigit, -, -, -, hiSign⟩ := nibble_digit (byte >>> 4).toNat (nibbles_lt byte).1
  obtain ⟨loDigit, -⟩ := nibble_digit (byte &&& 0xf).toNat (nibbles_lt byte).2
  rw [UInt8.ofNat_toNat] at hiDigit hiSign loDigit
  have value : (byte >>> 4).toNat * 16 + (byte &&& 0xf).toNat = byte.toNat := by
    rw [high_nibble, low_nibble]
    omega
  rw [hexPair]
  -- the two nibbles as they are, so that `simp` reads the digits and not the shift and the mask
  generalize byte >>> 4 = hi at hiDigit hiSign value ⊢
  generalize byte &&& 0xf = lo at loDigit value ⊢
  simp [u8FromStrRadix, fromStrRadix, hiSign, hiDigit, loDigit, value, hb]

theorem hex_pair_ascii (byte : UInt8) : ∀ c ∈ hexPair byte, c < 0x80 := by
  intro c written
  obtain ⟨v, small, rfl⟩ := hex_pair_digits byte c written
  exact UInt8.lt_iff_toNat_lt.mpr (nibble_digit v small).2.1

theorem to_lower_hex_to_list (k : Bytes32) :
    (toLowerHex k).toList = (k.toList.flatMap hexPair).map Char.ofUInt8 := by
  simp [toLowerHex, List.map_flatMap, hexPair]

theorem lower_hex_bytes (k : Bytes32) : (toLowerHex k).toByteArray.toList = k.toList.flatMap hexPair := by
  have ascii : ∀ c ∈ k.toList.flatMap hexPair, c < 0x80 := by
    simp only [List.mem_flatMap]
    rintro c ⟨byte, -, written⟩
    exact hex_pair_ascii byte c written
  rw [← String.ofList_toList (s := toLowerHex k), to_lower_hex_to_list, Text.ascii_bytes _ ascii]

theorem hex_pair_plain (byte : UInt8) : ∀ c ∈ hexPair byte, c ≠ 0x3D ∧ c ≠ 0x0A := by
  intro c written
  obtain ⟨v, small, rfl⟩ := hex_pair_digits byte c written
  obtain ⟨-, -, notSign, notNewline, -⟩ := nibble_digit v small
  exact ⟨fun same => notSign (by rw [same]; rfl), fun same => notNewline (by rw [same]; rfl)⟩

theorem to_lower_hex_plain (k : Bytes32) : '=' ∉ (toLowerHex k).toList ∧ '\n' ∉ (toLowerHex k).toList := by
  rw [to_lower_hex_to_list]
  have digits : ∀ c ∈ k.toList.flatMap hexPair, c ≠ 0x3D ∧ c ≠ 0x0A := by
    simp only [List.mem_flatMap]
    rintro c ⟨byte, -, inPair⟩
    exact hex_pair_plain byte c inPair
  exact ⟨Text.not_mem_map_of_uint8 (b := 0x3D) fun mem => (digits _ mem).1 rfl,
    Text.not_mem_map_of_uint8 (b := 0x0A) fun mem => (digits _ mem).2 rfl⟩

theorem slice_hex_pair (k : Bytes32) (i : Fin keySize) :
    sliceInclusive (k.toList.flatMap hexPair) (i * 2) (i * 2 + 1) = .ok (hexPair k[i]) := by
  have length : (k.toList.flatMap hexPair).length = 64 := by
    rw [Text.length_flat_map hexPair 2 (fun _ => rfl), Vector.length_toList]
  have ascii : ∀ c ∈ k.toList.flatMap hexPair, c < 0x80 := by
    simp only [List.mem_flatMap]
    rintro c ⟨byte, -, written⟩
    exact hex_pair_ascii byte c written
  have inside : (i : ℕ) < k.toList.length := by simpa [keySize] using i.isLt
  have pair : ((k.toList.flatMap hexPair).drop (i * 2)).take (i * 2 + 1 + 1 - i * 2) = hexPair k[i] := by
    rw [show (i : ℕ) * 2 + 1 + 1 - i * 2 = 2 by omega, Nat.mul_comm,
      Text.take_drop_flat_map hexPair 2 (fun _ => rfl) k.toList i inside]
    simp
  have fits : ¬ (k.toList.flatMap hexPair).length ≤ i * 2 + 1 := by
    have := i.isLt
    simp only [keySize] at this
    omega
  rw [sliceInclusive, if_neg fits, is_char_boundary_ascii ascii (by omega), is_char_boundary_ascii ascii (by omega)]
  rw [pair]
  rfl

theorem parse_hex_fills (k : Bytes32) :
    ∀ (positions : List (Fin keySize)) (internal : Bytes32),
      parseHex (k.toList.flatMap hexPair) internal positions =
        .ok (.ok (positions.foldl (fun (v : Bytes32) (i : Fin keySize) => v.set i k[i] i.isLt) internal))
  | [], _ => rfl
  | i :: rest, internal => by
      simp only [parseHex, slice_hex_pair k i, hex_pair_parses, bind, Except.bind]
      exact parse_hex_fills k rest _

/-! The round trips. -/

theorem read_lower_hex (engine : Base64) (k : Bytes32) : fromStr engine (toLowerHex k) = .ok (.ok k) := by
  have length : (k.toList.flatMap hexPair).length = 64 := by
    rw [Text.length_flat_map hexPair 2 (fun _ => rfl), Vector.length_toList]
  have filled := parse_hex_fills k (List.finRange keySize) (Vector.replicate keySize 0)
  have all : (List.finRange keySize).foldl (fun (v : Bytes32) (i : Fin keySize) => v.set i k[i] i.isLt)
      (Vector.replicate keySize 0) = k := Text.fill_all k _
  simp only [fromStr, lower_hex_bytes, length]
  exact filled.trans (congrArg (fun v => Except.ok (Except.ok v)) all)

theorem from_str_to_lower_hex (engine : Base64) (k : Bytes32) : fromStr engine (toLowerHex k) = .ok (.ok k) :=
  read_lower_hex engine k

/-! The base64 text, for an engine that writes the padded standard alphabet. -/

section Padded

variable {engine : Base64} (padded : engine.Padded)

include padded

theorem to_base64_encode (k : Bytes32) :
    ∃ body, engine.encode k.toList = body ++ [Rfc4648.pad] ∧ body.length = 43 ∧ ∀ c ∈ body, Rfc4648.isSymbol c = true := by
  obtain ⟨length, body, encoded, symbols⟩ := padded k.toList
  have padding : (3 - k.toList.length % 3) % 3 = 1 := by simp
  rw [padding] at encoded
  have forty : (engine.encode k.toList).length = 44 := by rw [length, Vector.length_toList]
  refine ⟨body, encoded, ?_, symbols⟩
  rw [encoded, List.length_append, List.length_replicate] at forty
  omega

theorem to_base64_ascii (k : Bytes32) : ∀ c ∈ engine.encode k.toList, c < 0x80 := by
  obtain ⟨body, encoded, -, symbols⟩ := to_base64_encode padded k
  intro c written
  rw [encoded, List.mem_append, List.mem_singleton] at written
  rcases written with inBody | rfl
  · exact Rfc4648.ascii_of_is_symbol (symbols c inBody)
  · decide

theorem to_base64_bytes (k : Bytes32) : (toBase64 engine k).toByteArray.toList = engine.encode k.toList :=
  Text.ascii_bytes _ (to_base64_ascii padded k)

theorem to_base64_to_list (k : Bytes32) : ∃ body, (toBase64 engine k).toList = body ++ ['='] ∧ '=' ∉ body := by
  obtain ⟨body, encoded, -, symbols⟩ := to_base64_encode padded k
  have unpadded : Rfc4648.pad ∉ body := fun inBody =>
    Bool.false_ne_true (Rfc4648.is_symbol_pad.symm.trans (symbols _ inBody))
  exact ⟨body.map Char.ofUInt8, by simp [toBase64, encoded]; rfl, Text.not_mem_map_of_uint8 unpadded⟩

end Padded

theorem read_base64 {engine : Base64} (decodeEncode : engine.DecodeEncode) (padded : engine.Padded)
    (k : Bytes32) : fromStr engine (toBase64 engine k) = .ok (.ok k) := by
  have length : (engine.encode k.toList).length = 44 := by
    rw [(padded k.toList).1, Vector.length_toList]
  have fits : k.toList.length = keySize := Vector.length_toList
  simp only [fromStr, to_base64_bytes padded, length, decodeEncode k.toList]
  rw [dif_pos fits]
  rfl

end KeyBytes

end Boringtun
