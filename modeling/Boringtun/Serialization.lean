import Boringtun.Noise.Crypto
import Boringtun.Lib.Base64

set_option autoImplicit false

/- `serialization.rs`: keys as text. `from_str` reads 64 hexadecimal digits, or 43 or 44
   characters of base64. A Rust `&str` is its UTF-8 bytes, as a Lean `String` is; slicing it
   anywhere but at a character boundary panics. -/
namespace Boringtun

open Noise

def keySize : ℕ := 32

inductive KeyBytesError where
  | illegalCharacter
  | illegalSize
deriving DecidableEq, Repr

-- `str::is_char_boundary`: the start or the end of the string, or a byte that does not continue
-- a multi-byte character (`(b as i8) >= -0x40`).
def isCharBoundary (s : Bytes) (index : ℕ) : Bool :=
  index == 0 ||
    match s[index]? with
    | some b => b < 0x80 || 0xC0 ≤ b
    | none => index == s.length

def sliceInclusive (s : Bytes) (start last : ℕ) : Except String Bytes :=
  if s.length ≤ last then .error "byte index out of range"
  else if isCharBoundary s start && isCharBoundary s (last + 1) then .ok ((s.drop start).take (last + 1 - start))
  else .error "byte index is not a char boundary"

-- `(c as char).to_digit(radix)` for a byte of the string: digits, then letters of either case.
def toDigit (c : UInt8) (radix : ℕ) : Option ℕ :=
  let digit :=
    if 0x30 ≤ c ∧ c ≤ 0x39 then some (c.toNat - 0x30)
    else if 0x61 ≤ c ∧ c ≤ 0x7A then some (c.toNat - 0x61 + 10)
    else if 0x41 ≤ c ∧ c ≤ 0x5A then some (c.toNat - 0x41 + 10)
    else none
  digit.filter (· < radix)

-- `from_str_radix` of an unsigned integer type of `bits` bits: an optional `+`, then at least
-- one digit; `None` for every `ParseIntError`, overflow included.
def fromStrRadix (bits : ℕ) (src : Bytes) (radix : ℕ) : Option ℕ := do
  let digits ← match src with
    | [] => none
    | [c] => if c = 0x2B ∨ c = 0x2D then none else some [c]
    | c :: rest => if c = 0x2B then some rest else some src
  let value ← digits.foldlM (fun acc c => (toDigit c radix).map (acc * radix + ·)) 0
  if value < 2 ^ bits then some value else none

def u8FromStrRadix (src : Bytes) (radix : ℕ) : Option UInt8 := (fromStrRadix 8 src radix).map Nat.toUInt8

def u16FromStrRadix (src : Bytes) (radix : ℕ) : Option UInt16 := (fromStrRadix 16 src radix).map Nat.toUInt16

def u32FromStrRadix (src : Bytes) (radix : ℕ) : Option UInt32 := (fromStrRadix 32 src radix).map Nat.toUInt32

-- The hexadecimal loop: byte `i` is the two characters at `2 * i`; the first bad pair returns.
def parseHex (s : Bytes) (internal : Bytes32) : List (Fin keySize) → Except String (Except KeyBytesError Bytes32)
  | [] => .ok (.ok internal)
  | i :: rest => do
      let pair ← sliceInclusive s (i * 2) (i * 2 + 1)
      match u8FromStrRadix pair 16 with
      | none => return .error .illegalCharacter
      | some b => parseHex s (internal.set i b i.isLt) rest

/-! The `base64` crate is not modelled: its engine `BASE64_STANDARD` is a parameter, and what
    the crate documents of it is a hypothesis where a result needs it. -/

structure Base64 where
  encode : Bytes → Bytes
  decode : Bytes → Option Bytes

namespace Base64

variable (engine : Base64)

def DecodeEncode : Prop := ∀ bytes, engine.decode (engine.encode bytes) = some bytes

-- `decode` takes canonical encodings only: a text it accepts is the encoding of what it returns.
def Canonical : Prop := ∀ text bytes, engine.decode text = some bytes → engine.encode bytes = text

-- The standard alphabet, padded: `n` bytes are `4 * ⌈n / 3⌉` symbols, the last `(3 - n % 3) % 3`
-- of them `=` and the others from the alphabet.
def Padded : Prop := ∀ bytes, (engine.encode bytes).length = 4 * ((bytes.length + 2) / 3) ∧
  ∃ body, engine.encode bytes = body ++ List.replicate ((3 - bytes.length % 3) % 3) Rfc4648.pad ∧
    ∀ c ∈ body, Rfc4648.isSymbol c = true

-- Every law above holds here: the encoding of RFC 4648, and a decoder that takes exactly its texts.
def standard : Base64 where
  encode := Rfc4648.encode
  decode text := (Rfc4648.decode text).filter fun bytes => Rfc4648.encode bytes == text

theorem standard_decode_encode : standard.DecodeEncode := by
  intro bytes
  simp [standard, Rfc4648.decode_encode]

theorem standard_canonical : standard.Canonical := by
  intro text bytes decoded
  simp only [standard, Option.filter_eq_some_iff, beq_iff_eq] at decoded
  exact decoded.2

theorem standard_padded : standard.Padded :=
  fun bytes => ⟨Rfc4648.length_encode bytes, Rfc4648.encode_padded bytes⟩

variable {engine}

theorem decode_foreign (canonical : engine.Canonical) (padded : engine.Padded) {text : Bytes}
    (foreign : ∃ c ∈ text, c ≠ Rfc4648.pad ∧ Rfc4648.isSymbol c = false) : engine.decode text = none := by
  obtain ⟨c, written, notPad, notSymbol⟩ := foreign
  cases decoded : engine.decode text with
  | none => rfl
  | some bytes =>
      obtain ⟨-, body, encoded, symbols⟩ := padded bytes
      rw [← canonical text bytes decoded, encoded, List.mem_append] at written
      rcases written with inBody | inPadding
      · rw [symbols c inBody] at notSymbol
        cases notSymbol
      · exact absurd (List.eq_of_mem_replicate inPadding) notPad

end Base64

namespace KeyBytes

-- `from_str`: a base64 text that fails to decode is not an error; the key is then all zero.
def fromStr (engine : Base64) (s : String) : Except String (Except KeyBytesError Bytes32) :=
  let bytes := s.toByteArray.toList
  let internal : Bytes32 := Vector.replicate keySize 0
  match bytes.length with
  | 64 => parseHex bytes internal (List.finRange keySize)
  | 43 | 44 =>
      match engine.decode bytes with
      | some decodedKey =>
          if fits : decodedKey.length = keySize then .ok (.ok ⟨decodedKey.toArray, by simpa [keySize] using fits⟩)
          else .ok (.error .illegalCharacter)
      | none => .ok (.ok internal)
  | _ => .ok (.error .illegalSize)

def fromString (engine : Base64) (s : String) : Except String (Except KeyBytesError Bytes32) := fromStr engine s

-- A text of 43 or 44 bytes with a byte outside the base64 alphabet is refused by every canonical
-- engine, and still not refused: the decode error is dropped by the `if let`, and the key stays
-- all zero.
theorem undecodable_base64_accepted {engine : Base64} (canonical : engine.Canonical) (padded : engine.Padded)
    (s : String) (sized : s.toByteArray.toList.length = 43 ∨ s.toByteArray.toList.length = 44)
    (foreign : ∃ c ∈ s.toByteArray.toList, c ≠ Rfc4648.pad ∧ Rfc4648.isSymbol c = false) :
    fromStr engine s = .ok (.ok (Vector.replicate keySize 0)) := by
  have undecodable := Base64.decode_foreign canonical padded foreign
  unfold fromStr
  rcases sized with sized | sized <;> simp only [sized, undecodable]

theorem plain_undecodable_base64_accepted :
    Base64.standard.Canonical ∧ Base64.standard.Padded ∧
    ("Forty-four bytes, and still not a key at all".toByteArray.toList.length = 43 ∨
      "Forty-four bytes, and still not a key at all".toByteArray.toList.length = 44) ∧
    (∃ c ∈ "Forty-four bytes, and still not a key at all".toByteArray.toList,
      c ≠ Rfc4648.pad ∧ Rfc4648.isSymbol c = false) ∧
    fromStr Base64.standard "Forty-four bytes, and still not a key at all" =
      .ok (.ok (Vector.replicate keySize 0)) :=
  have sized : "Forty-four bytes, and still not a key at all".toByteArray.toList.length = 43 ∨
      "Forty-four bytes, and still not a key at all".toByteArray.toList.length = 44 := by decide +kernel
  -- the space after "Forty-four"
  have foreign : ∃ c ∈ "Forty-four bytes, and still not a key at all".toByteArray.toList,
      c ≠ Rfc4648.pad ∧ Rfc4648.isSymbol c = false := ⟨0x20, by decide +kernel, by decide, rfl⟩
  ⟨Base64.standard_canonical, Base64.standard_padded, sized, foreign,
    undecodable_base64_accepted Base64.standard_canonical Base64.standard_padded _ sized foreign⟩

-- The hexadecimal branch slices `s[0..=1]` first: when the third byte continues a multi-byte
-- character, the slice ends inside it and panics.
theorem split_character_panics (engine : Base64) (s : String) (sized : s.toByteArray.toList.length = 64)
    (inside : ∃ b, s.toByteArray.toList[2]? = some b ∧ 0x80 ≤ b ∧ b < 0xC0) :
    fromStr engine s = .error "byte index is not a char boundary" := by
  obtain ⟨b, third, low, high⟩ := inside
  have start : isCharBoundary s.toByteArray.toList 0 = true := by simp [isCharBoundary]
  have boundary : isCharBoundary s.toByteArray.toList 2 = false := by
    have notAscii : ¬ b < 0x80 := by
      rw [UInt8.le_iff_toNat_le] at low
      rw [UInt8.lt_iff_toNat_lt]
      omega
    have notLead : ¬ 0xC0 ≤ b := by
      rw [UInt8.lt_iff_toNat_lt] at high
      rw [UInt8.le_iff_toNat_le]
      omega
    simp [isCharBoundary, third, notAscii, notLead]
  have first : sliceInclusive s.toByteArray.toList 0 1 = .error "byte index is not a char boundary" := by
    simp [sliceInclusive, sized, start, boundary]
  unfold fromStr
  simp only [sized, keySize, List.finRange_succ, parseHex]
  simp [first, bind, Except.bind]

theorem plain_split_character_panics :
    "€aaaaaaaaaaaaaaaaaaaaaaaaaaaaaaaaaaaaaaaaaaaaaaaaaaaaaaaaaaaaa".toByteArray.toList.length = 64 ∧
    (∃ b, "€aaaaaaaaaaaaaaaaaaaaaaaaaaaaaaaaaaaaaaaaaaaaaaaaaaaaaaaaaaaaa".toByteArray.toList[2]? = some b ∧
      0x80 ≤ b ∧ b < 0xC0) ∧
    fromStr Base64.standard "€aaaaaaaaaaaaaaaaaaaaaaaaaaaaaaaaaaaaaaaaaaaaaaaaaaaaaaaaaaaaa" =
      .error "byte index is not a char boundary" :=
  have sized : "€aaaaaaaaaaaaaaaaaaaaaaaaaaaaaaaaaaaaaaaaaaaaaaaaaaaaaaaaaaaaa".toByteArray.toList.length = 64 := by
    decide +kernel
  have inside : ∃ b, "€aaaaaaaaaaaaaaaaaaaaaaaaaaaaaaaaaaaaaaaaaaaaaaaaaaaaaaaaaaaaa".toByteArray.toList[2]? = some b ∧
      0x80 ≤ b ∧ b < 0xC0 := ⟨0xAC, by decide +kernel, by decide, by decide⟩
  ⟨sized, inside, split_character_panics _ _ sized inside⟩

end KeyBytes

end Boringtun
