import Boringtun.Lib.Endian
import Boringtun.Noise.Errors

set_option autoImplicit false

namespace Boringtun.Noise

abbrev Bytes := List UInt8
abbrev Bytes32 := Vector UInt8 32
abbrev Bytes24 := Vector UInt8 24
abbrev Bytes16 := Vector UInt8 16
abbrev Bytes12 := Vector UInt8 12

/- The primitives the noise code takes from its dependencies, as parameters: BLAKE2s and
   HMAC-BLAKE2s (`blake2`, `hmac`), keyed BLAKE2s (`Blake2sMac`), x25519 (`x25519-dalek`),
   ChaCha20-Poly1305 (`ring`) and XChaCha20-Poly1305 (`chacha20poly1305`). Streaming
   `update` calls are modelled by hashing the concatenation of what was fed in. The AEADs
   work in place on a `&mut [u8]`, so their types say how long what they return is. -/
structure Primitives where
  blake2s : Bytes → Bytes32
  hmacBlake2s : Bytes → Bytes → Bytes32
  blake2sMac16 : Bytes → Bytes → Bytes16
  blake2sMac24 : Bytes → Bytes → Bytes24
  publicKey : Bytes32 → Bytes32
  diffieHellman : Bytes32 → Bytes32 → Bytes32
  -- `seal_in_place_separate_tag(nonce, aad, in_out)`: `in_out` encrypted, and the tag.
  sealInPlace : Bytes32 → Bytes → Bytes → (inOut : Bytes) → { c : Bytes // c.length = inOut.length } × Bytes16
  -- `open_in_place(nonce, aad, in_out)`: on success the plaintext, `in_out` less its tag.
  openInPlace : Bytes32 → Bytes → Bytes → (inOut : Bytes) → Option { p : Bytes // p.length + 16 = inOut.length }
  -- `encrypt_in_place_detached(nonce, aad, buffer)` of XChaCha20-Poly1305.
  xSeal : Bytes32 → Bytes24 → Bytes → (buffer : Bytes) → { c : Bytes // c.length = buffer.length } × Bytes16
  -- `decrypt_in_place_detached(nonce, aad, buffer, tag)`.
  xOpen : Bytes32 → Bytes24 → Bytes → (buffer : Bytes) → Bytes16 → Option { p : Bytes // p.length = buffer.length }

namespace Primitives

variable (P : Primitives)

-- x25519 agreement: both sides of a key pair reach the same shared secret.
def DhCommutes : Prop := ∀ a b, P.diffieHellman a (P.publicKey b) = P.diffieHellman b (P.publicKey a)

def OpenSeal : Prop := ∀ key nonce aad plaintext,
  (P.openInPlace key nonce aad ((P.sealInPlace key nonce aad plaintext).1.1 ++
    (P.sealInPlace key nonce aad plaintext).2.toList)).map Subtype.val = some plaintext

def XOpenSeal : Prop := ∀ key nonce aad plaintext,
  (P.xOpen key nonce aad (P.xSeal key nonce aad plaintext).1.1 (P.xSeal key nonce aad plaintext).2).map
    Subtype.val = some plaintext

-- Every law above holds here: constant hashes and shared secrets, and AEADs that leave the
-- plaintext in place behind a zero tag.
def plain : Primitives where
  blake2s _ := Vector.replicate 32 0
  hmacBlake2s _ _ := Vector.replicate 32 0
  blake2sMac16 _ _ := Vector.replicate 16 0
  blake2sMac24 _ _ := Vector.replicate 24 0
  publicKey key := key
  diffieHellman _ _ := Vector.replicate 32 0
  sealInPlace _ _ _ inOut := (⟨inOut, rfl⟩, Vector.replicate 16 0)
  openInPlace _ _ _ inOut :=
    if tagged : 16 ≤ inOut.length then some ⟨inOut.take (inOut.length - 16), by simp; omega⟩ else none
  xSeal _ _ _ buffer := (⟨buffer, rfl⟩, Vector.replicate 16 0)
  xOpen _ _ _ buffer _ := some ⟨buffer, rfl⟩

theorem plain_dh_commutes : plain.DhCommutes := fun _ _ => rfl

theorem plain_open_seal : plain.OpenSeal := by
  intro key nonce aad plaintext
  simp [plain]

theorem plain_x_open_seal : plain.XOpenSeal := by
  intro key nonce aad plaintext
  simp [plain]

-- `plain` with a 16-byte MAC that depends on its key, the least a cookie needs to matter.
def keyed : Primitives := { plain with blake2sMac16 key _ := Vector.replicate 16 (key.headD 0) }

theorem keyed_x_open_seal : keyed.XOpenSeal := plain_x_open_seal

end Primitives

-- `GenericArray::from_slice`, or `try_into().unwrap()` into an array: panics unless the slice
-- has exactly `n` bytes.
def fromSlice (n : ℕ) (slice : Bytes) : Except String (Vector UInt8 n) :=
  if fits : slice.length = n then .ok ⟨slice.toArray, by simp [fits]⟩
  else .error "slice length does not match array length"

theorem from_slice_eq (n : ℕ) (slice : Bytes) (fits : slice.length = n) :
    fromSlice n slice = .ok ⟨slice.toArray, by simp [fits]⟩ := by
  rw [fromSlice, dif_pos fits]

theorem from_slice_to_list {n : ℕ} (v : Vector UInt8 n) : fromSlice n v.toList = .ok v := by
  rw [from_slice_eq n v.toList (by simp)]
  congr

theorem to_list_of_from_slice {n : ℕ} {slice : Bytes} {v : Vector UInt8 n} (copied : fromSlice n slice = .ok v) :
    v.toList = slice := by
  unfold fromSlice at copied
  split at copied
  · cases copied
    simp
  · cases copied

section Wrappers

variable (P : Primitives)

def b2sHash (data1 data2 : Bytes) : Bytes32 := P.blake2s (data1 ++ data2)

-- RFC 2401 HMAC+Blake2s, not to be confused with keyed Blake2s.
def b2sHmac (key data1 : Bytes) : Bytes32 := P.hmacBlake2s key data1

def b2sHmac2 (key data1 data2 : Bytes) : Bytes32 := P.hmacBlake2s key (data1 ++ data2)

def b2sKdf1 (key input : Bytes) : Bytes32 := b2sHmac P (b2sHmac P key input).toList [0x01]

def b2sKdf2 (key input : Bytes) : Bytes32 × Bytes32 :=
  let temp := b2sHmac P key input
  let out1 := b2sHmac P temp.toList [0x01]
  let out2 := b2sHmac2 P temp.toList out1.toList [0x02]
  (out1, out2)

def b2sKdf3 (key input : Bytes) : Bytes32 × Bytes32 × Bytes32 :=
  let temp := b2sHmac P key input
  let out1 := b2sHmac P temp.toList [0x01]
  let out2 := b2sHmac2 P temp.toList out1.toList [0x02]
  let out3 := b2sHmac2 P temp.toList out2.toList [0x03]
  (out1, out2, out3)

def b2sKeyedMac16 (key data1 : Bytes) : Bytes16 := P.blake2sMac16 key data1

def b2sKeyedMac16_2 (key data1 data2 : Bytes) : Bytes16 := P.blake2sMac16 key (data1 ++ data2)

def b2sMac24 (key data1 : Bytes) : Bytes24 := P.blake2sMac24 key data1

-- `nonce[4..12].copy_from_slice(&counter.to_le_bytes())` on a zeroed `[u8; 12]`.
def counterNonce (counter : UInt64) : Bytes := [0, 0, 0, 0] ++ Endian.u64ToLeBytes counter

-- `aead_chacha20_seal`: the ciphertext followed by the tag. Every caller hands it a buffer of
-- exactly `data.len() + 16` bytes, so its copies cannot fail.
def aeadChacha20Seal (key : Bytes32) (counter : UInt64) (data aad : Bytes) : Bytes :=
  let sealed := P.sealInPlace key (counterNonce counter) aad data
  sealed.1.1 ++ sealed.2.toList

-- `aead_chacha20_open` into a buffer of `bufferLen` bytes: the opened plaintext, an
-- `InvalidAeadTag` error, or a panic from the 48-byte scratch slice or the final copy.
def aeadChacha20Open (bufferLen : ℕ) (key : Bytes32) (counter : UInt64) (data aad : Bytes) :
    Except String (Except WireGuardError Bytes) :=
  if 48 < data.length then .error "range end index out of range for slice of length 48"
  else
    match P.openInPlace key (counterNonce counter) aad data with
    | none => .ok (.error .invalidAeadTag)
    | some plaintext =>
        if plaintext.1.length = bufferLen then .ok (.ok plaintext.1)
        else .error "source slice length does not match destination slice length"

end Wrappers

@[simp] theorem length_aead_chacha20_seal (P : Primitives) (key : Bytes32) (counter : UInt64) (data aad : Bytes) :
    (aeadChacha20Seal P key counter data aad).length = data.length + 16 := by
  simp [aeadChacha20Seal, (P.sealInPlace key (counterNonce counter) aad data).1.2]

theorem aead_open_seal (P : Primitives) (opens : P.OpenSeal) (key : Bytes32) (counter : UInt64)
    (data aad : Bytes) (fits : data.length + 16 ≤ 48) :
    aeadChacha20Open P data.length key counter (aeadChacha20Seal P key counter data aad) aad = .ok (.ok data) := by
  have roundTrip := opens key (counterNonce counter) aad data
  unfold aeadChacha20Open
  rw [if_neg (by simp; omega)]
  revert roundTrip
  simp only [aeadChacha20Seal]
  cases P.openInPlace key (counterNonce counter) aad _ with
  | none => simp
  | some plaintext =>
      simp only [Option.map_some, Option.some.injEq]
      intro opened
      simp [opened]

theorem aead_open_no_panic (P : Primitives) (bufferLen : ℕ) (key : Bytes32) (counter : UInt64) (data aad : Bytes)
    (fits : data.length ≤ 48) (tagged : data.length = bufferLen + 16) (msg : String) :
    aeadChacha20Open P bufferLen key counter data aad ≠ .error msg := by
  unfold aeadChacha20Open
  rw [if_neg (by omega)]
  cases P.openInPlace key (counterNonce counter) aad data with
  | none => simp
  | some plaintext =>
      have filled : plaintext.1.length = bufferLen := by
        have := plaintext.2
        omega
      simp [filled]

end Boringtun.Noise
