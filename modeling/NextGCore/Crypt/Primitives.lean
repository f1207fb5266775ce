import Mathlib.Data.UInt
import NextGCore.Library.Keystream

/-!
# The cryptographic primitives under NAS security

The block ciphers, keystream generators and MACs of `nextgcore-crypt` are
parameters: `Primitives` carries one function for each.  What the modes of
operation do around them (IV layout, bit lengths, output buffers, counters)
is modelled as the crate computes it.
-/

namespace NextGCore.Crypt

open Library

abbrev Bytes := List UInt8

variable (message : Bytes)

abbrev Key := Vector UInt8 16

structure Primitives where
  /-- Word `i` that `Snow3gState` generates from a key and four IV words. -/
  snow3gKeystream : Key → Vector UInt32 4 → Nat → UInt32
  /-- `snow_3g_f9(key, count, fresh, dir, data, length)`. -/
  snow3gF9 : Key → UInt32 → UInt32 → UInt32 → Bytes → UInt64 → Vector UInt8 4
  aesEncryptBlock : Key → Vector UInt8 16 → Vector UInt8 16
  /-- `aes_cmac_calculate(key, msg)`. -/
  aesCmacCalculate : Key → Bytes → Vector UInt8 16
  /-- Word `i` that `ZucState` generates from a key and an IV. -/
  zucKeystream : Key → Vector UInt8 16 → Nat → UInt32
  /-- `zuc_eia3(ik, count, bearer, dir, len, m)`. -/
  zucEia3 : Key → UInt32 → UInt32 → UInt32 → UInt32 → Bytes → UInt32

def octets4 (b0 b1 b2 b3 : UInt8) : Vector UInt8 4 := #v[b0, b1, b2, b3]

def zeros4 : Vector UInt8 4 := octets4 0 0 0 0

def firstFour (block : Vector UInt8 16) : Vector UInt8 4 :=
  octets4 (block.get 0) (block.get 1) (block.get 2) (block.get 3)

def toBeBytes (word : UInt32) : Vector UInt8 4 :=
  octets4 (word >>> 24).toUInt8 (word >>> 16).toUInt8 (word >>> 8).toUInt8 word.toUInt8

def countIv (count : UInt32) (iv4 : UInt8) : Vector UInt8 16 :=
  let count := toBeBytes count
  #v[count.get 0, count.get 1, count.get 2, count.get 3, iv4, 0, 0, 0, 0, 0, 0, 0, 0, 0, 0, 0]

def wordStreamOctet (words : Nat → UInt32) (index : Nat) : UInt8 :=
  (toBeBytes (words (index / 4))).get ⟨index % 4, Nat.mod_lt index (by decide)⟩

def checksum (count : UInt32) (data : Bytes) : UInt32 :=
  data.foldl (fun sum octet => sum + octet.toUInt32) count

/-- Toy primitives that evaluate quickly: constant keystreams, and checksums for
MACs. -/
def Primitives.sample : Primitives where
  snow3gKeystream _ _ _ := 0x5A5A5A5A
  snow3gF9 _ count _ _ data _ := toBeBytes (checksum count data)
  aesEncryptBlock _ block := block
  aesCmacCalculate _ msg := Vector.replicate 16 (checksum 0 msg).toUInt8
  zucKeystream _ _ _ := 0xA5A5A5A5
  zucEia3 _ count _ _ _ m := checksum count m

def lastbits (length : UInt32) : UInt32 := (8 - length % 8) % 8

section Modes

variable (crypt : Primitives) (key : Key)

def snow3gF8 (count bearer dir : UInt32) (data : Bytes) (length : UInt32) : Bytes :=
  if length = 0 then
    data
  else
    let n := (length.toNat + 31) / 32
    let high := (bearer <<< 27) ||| ((dir &&& 0x1) <<< 26)
    let ks := crypt.snow3gKeystream key #v[high, count, high, count]
    let data := mask (· ^^^ ·) (wordStreamOctet ks) (4 * n) data
    if 0 < lastbits length then
      data.modify (length / 8).toNat (· &&& (0xFF <<< (lastbits length).toUInt8))
    else
      data

/-- The IV of `zuc_eea3`: two copies of COUNT and the bearer octet. -/
def zucEea3Iv (count bearer dir : UInt32) : Vector UInt8 16 :=
  let count := toBeBytes count
  let iv4 := ((bearer <<< 3) ||| ((dir &&& 1) <<< 2)).toUInt8 &&& 0xFC
  #v[count.get 0, count.get 1, count.get 2, count.get 3, iv4, 0, 0, 0,
    count.get 0, count.get 1, count.get 2, count.get 3, iv4, 0, 0, 0]

/-- `zuc_eea3`: ciphers `m` into the buffer `c`.  Octets of `c` that `len`
does not reach keep what the buffer held. -/
def zucEea3 (ck : Key) (count bearer dir len : UInt32) (m c : Bytes) : Bytes :=
  let l8 := (len.toNat + 7) / 8
  let z := crypt.zucKeystream ck (zucEea3Iv count bearer dir)
  let c := (mask (· ^^^ ·) (wordStreamOctet z) l8 (m.take l8)) ++ c.drop l8
  if 0 < lastbits len ∧ 0 < l8 then
    c.modify (l8 - 1) (· &&& ((0x100 : UInt32) - (1 <<< lastbits len)).toUInt8)
  else
    c

inductive AesError where
  | invalidKeySize
  | outputBufferTooSmall
  | invalidInputLength

def AesError.debug : AesError → String
  | .invalidKeySize => "InvalidKeySize"
  | .outputBufferTooSmall => "OutputBufferTooSmall"
  | .invalidInputLength => "InvalidInputLength"

/-- `ctr128_inc`: octet `i` moves when the carry passes every later octet. -/
def ctr128Inc (counter : Vector UInt8 16) : Vector UInt8 16 :=
  Vector.ofFn fun i =>
    if ∀ j : Fin 16, i < j → counter[j] = 0xFF then counter[i] + 1 else counter[i]

/-- Octet `index` of the keystream that AES in counter mode makes of `ivec`. -/
def aesCtrOctet (ivec : Vector UInt8 16) (index : Nat) : UInt8 :=
  (crypt.aesEncryptBlock key (ctr128Inc^[index / 16] ivec)).get
    ⟨index % 16, Nat.mod_lt index (by decide)⟩

/-- `aes_ctr128_encrypt`: ciphers `input` into the buffer `output`. -/
def aesCtr128Encrypt (ivec : Vector UInt8 16) (input output : Bytes) : Except AesError Bytes :=
  if input.isEmpty then
    .ok output
  else if output.length < input.length then
    .error .outputBufferTooSmall
  else
    .ok (mask (· ^^^ ·) (aesCtrOctet crypt key ivec) input.length input ++ output.drop input.length)

end Modes

/-- `(message.len() * 8) as u32`, the bit length the ciphers are called with. -/
def bitLength : UInt32 := UInt32.ofNat (message.length * 8)

lemma xor_cancel (octet key : UInt8) : octet ^^^ key ^^^ key = octet := by
  rw [UInt8.xor_assoc, UInt8.xor_self, UInt8.xor_zero]

lemma lastbits_bitLength : lastbits (bitLength message) = 0 := by
  have octets : bitLength message % 8 = 0 := by
    apply UInt32.toNat_inj.mp
    simp only [bitLength, UInt32.toNat_mod, UInt32.toNat_ofNat']
    change message.length * 8 % 2 ^ 32 % 8 = 0
    omega
  rw [lastbits, octets]
  rfl

variable (crypt : Primitives)

@[simp]
lemma length_snow3gF8 (key : Key) (count bearer dir : UInt32) (data : Bytes) (length : UInt32) :
  (snow3gF8 crypt key count bearer dir data length).length = data.length := by
  simp only [snow3gF8]
  split
  · rfl
  · split <;> simp

lemma snow3gF8_involutive (key : Key) (count bearer dir : UInt32) (data : Bytes) :
  let cipher := fun text => snow3gF8 crypt key count bearer dir text (bitLength data)
  cipher (cipher data) = data := by
  simp only [snow3gF8, lastbits_bitLength, UInt32.lt_irrefl, if_false]
  split
  · rfl
  · exact mask_mask _ _ _ xor_cancel data

lemma aesCtr128Encrypt_ok (key : Key) (ivec : Vector UInt8 16)
  {input output : Bytes} (fits : output.length = input.length) :
  aesCtr128Encrypt crypt key ivec input output =
    .ok (mask (· ^^^ ·) (aesCtrOctet crypt key ivec) input.length input) := by
  unfold aesCtr128Encrypt
  cases input with
  | nil =>
    rw [List.length_nil, List.length_eq_zero_iff] at fits
    simp [fits]
  | cons octet rest =>
    rw [if_neg (by simp), if_neg (by omega), ← fits, List.drop_length, List.append_nil]

lemma octets_bitLength : ((bitLength message).toNat + 7) / 8 = message.length % 2 ^ 29 := by
  simp only [bitLength, UInt32.toNat_ofNat']
  omega

lemma zucEea3_eq (ck : Key) (count bearer dir : UInt32) (m c : Bytes) :
  zucEea3 crypt ck count bearer dir (bitLength m) m c =
    mask (· ^^^ ·) (wordStreamOctet (crypt.zucKeystream ck (zucEea3Iv count bearer dir)))
        (m.length % 2 ^ 29) (m.take (m.length % 2 ^ 29)) ++
      c.drop (m.length % 2 ^ 29) := by
  simp only [zucEea3, octets_bitLength, lastbits_bitLength, UInt32.lt_irrefl, false_and, if_false]

end NextGCore.Crypt
