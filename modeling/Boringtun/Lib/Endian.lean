import Mathlib.Algebra.Order.Group.Nat
import Mathlib.Data.List.Basic

set_option autoImplicit false

/- Fixed-width little- and big-endian encodings of naturals as byte strings, the
   `to_le_bytes` / `from_le_bytes` / `to_be_bytes` / `from_be_bytes` of Rust's integer
   types, with their round trips. -/
namespace Endian

def leBytes : ℕ → ℕ → List UInt8
  | _, 0 => []
  | n, width + 1 => UInt8.ofNat (n % 256) :: leBytes (n / 256) width

def fromLe : List UInt8 → ℕ
  | [] => 0
  | b :: rest => b.toNat + 256 * fromLe rest

@[simp] theorem length_le_bytes (n width : ℕ) : (leBytes n width).length = width := by
  induction width generalizing n with
  | zero => rfl
  | succ width ih => simp [leBytes, ih]

theorem from_le_lt (bytes : List UInt8) : fromLe bytes < 256 ^ bytes.length := by
  induction bytes with
  | nil => simp [fromLe]
  | cons b rest ih =>
      have small : b.toNat < 256 := b.toNat_lt
      rw [fromLe, List.length_cons, pow_succ']
      have : 256 * fromLe rest + 256 ≤ 256 * 256 ^ rest.length := by
        have := Nat.mul_le_mul_left 256 (Nat.succ_le_of_lt ih)
        omega
      omega

theorem from_le_le_bytes (n width : ℕ) : fromLe (leBytes n width) = n % 256 ^ width := by
  induction width generalizing n with
  | zero => simp [leBytes, fromLe, Nat.mod_one]
  | succ width ih =>
      have byte : (UInt8.ofNat (n % 256)).toNat = n % 256 :=
        UInt8.toNat_ofNat_of_lt' (Nat.mod_lt n (by decide))
      rw [leBytes, fromLe, ih, byte, pow_succ', Nat.mod_mul]

theorem le_bytes_from_le (bytes : List UInt8) : leBytes (fromLe bytes) bytes.length = bytes := by
  induction bytes with
  | nil => rfl
  | cons b rest ih =>
      have small : b.toNat < 256 := b.toNat_lt
      simp only [fromLe, List.length_cons, leBytes]
      have low : (b.toNat + 256 * fromLe rest) % 256 = b.toNat := by omega
      have high : (b.toNat + 256 * fromLe rest) / 256 = fromLe rest := by omega
      rw [low, high, ih, UInt8.ofNat_toNat]

def u16FromBeBytes (bytes : List UInt8) : UInt16 := UInt16.ofNat (fromLe bytes.reverse)

def u32ToLeBytes (x : UInt32) : List UInt8 := leBytes x.toNat 4
def u32FromLeBytes (bytes : List UInt8) : UInt32 := UInt32.ofNat (fromLe bytes)
def u32ToBeBytes (x : UInt32) : List UInt8 := (leBytes x.toNat 4).reverse
def u32FromBeBytes (bytes : List UInt8) : UInt32 := UInt32.ofNat (fromLe bytes.reverse)

def u64ToLeBytes (x : UInt64) : List UInt8 := leBytes x.toNat 8
def u64FromLeBytes (bytes : List UInt8) : UInt64 := UInt64.ofNat (fromLe bytes)
def u64ToBeBytes (x : UInt64) : List UInt8 := (leBytes x.toNat 8).reverse
def u64FromBeBytes (bytes : List UInt8) : UInt64 := UInt64.ofNat (fromLe bytes.reverse)

@[simp] theorem length_u32_to_le_bytes (x : UInt32) : (u32ToLeBytes x).length = 4 := length_le_bytes _ _
@[simp] theorem length_u64_to_le_bytes (x : UInt64) : (u64ToLeBytes x).length = 8 := length_le_bytes _ _
@[simp] theorem length_u32_to_be_bytes (x : UInt32) : (u32ToBeBytes x).length = 4 := by simp [u32ToBeBytes]
@[simp] theorem length_u64_to_be_bytes (x : UInt64) : (u64ToBeBytes x).length = 8 := by simp [u64ToBeBytes]

@[simp] theorem u32_from_le_to_le (x : UInt32) : u32FromLeBytes (u32ToLeBytes x) = x := by
  rw [u32FromLeBytes, u32ToLeBytes, from_le_le_bytes, Nat.mod_eq_of_lt (x.toNat_lt.trans_eq (by decide)),
    UInt32.ofNat_toNat]

@[simp] theorem u64_from_le_to_le (x : UInt64) : u64FromLeBytes (u64ToLeBytes x) = x := by
  rw [u64FromLeBytes, u64ToLeBytes, from_le_le_bytes, Nat.mod_eq_of_lt (x.toNat_lt.trans_eq (by decide)),
    UInt64.ofNat_toNat]

@[simp] theorem u64_from_be_to_be (x : UInt64) : u64FromBeBytes (u64ToBeBytes x) = x := by
  rw [u64FromBeBytes, u64ToBeBytes, List.reverse_reverse]
  exact u64_from_le_to_le x

@[simp] theorem u32_from_be_to_be (x : UInt32) : u32FromBeBytes (u32ToBeBytes x) = x := by
  rw [u32FromBeBytes, u32ToBeBytes, List.reverse_reverse]
  exact u32_from_le_to_le x

theorem u32_to_le_from_le (bytes : List UInt8) (four : bytes.length = 4) :
    u32ToLeBytes (u32FromLeBytes bytes) = bytes := by
  have fits : fromLe bytes < 2 ^ 32 := (from_le_lt bytes).trans_eq (by rw [four]; decide)
  rw [u32ToLeBytes, u32FromLeBytes, UInt32.toNat_ofNat', Nat.mod_eq_of_lt fits, ← four, le_bytes_from_le]

theorem u32_from_le_eq_iff (bytes : List UInt8) (x : UInt32) (four : bytes.length = 4) :
    u32FromLeBytes bytes = x ↔ bytes = u32ToLeBytes x := by
  constructor
  · rintro rfl
    exact (u32_to_le_from_le bytes four).symm
  · rintro rfl
    exact u32_from_le_to_le x

end Endian
