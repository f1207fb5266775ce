import NextGCore.Crypt.Primitives

/-!
# MILENAGE

`milenage.rs` over AES-128: the functions f1 to f5*, and what the network and
the USIM do with them.  Authentication tokens are laid out as
AUTN = (SQN ^ AK) || AMF || MAC-A and AUTS = (SQN_MS ^ AK*) || MAC-S.
-/

namespace NextGCore.Crypt

inductive MilenageError where
  | aesError
  | macMismatch
  | syncFailure
  | invalidLength

abbrev Block := Vector UInt8 16

def xorOctets {length : ℕ} (left right : Vector UInt8 length) : Vector UInt8 length :=
  .zipWith (· ^^^ ·) left right

def part {total : ℕ} (array : Vector UInt8 total) (start length : ℕ)
  (within : start + length ≤ total) : Vector UInt8 length :=
  .ofFn fun index => array[start + index.val]

section Functions

variable (crypt : Primitives) (opc : Block)

def aes128EncryptBlock (key input : Block) : Except MilenageError Block :=
  .ok (crypt.aesEncryptBlock key input)

/-- `temp ^ opc` rotated left by `r` bits; the rotations in use are by whole
octets. -/
def shiftBits (r : UInt8) (temp opc : Block) : Block :=
  let deltlen := 16 - r.toNat / 8
  let leftout := r.toNat % 8
  let rotated := Fin.foldl 16
    (fun output index =>
      output.set ((index.val + deltlen) % 16) (temp.get index ^^^ opc.get index)
        (Nat.mod_lt _ (by decide)))
    (Vector.replicate 16 0)
  if leftout = 0 then
    rotated
  else
    let moveBits := UInt8.ofNat (8 - leftout)
    let leftout := UInt8.ofNat leftout
    .ofFn fun index =>
      if inner : index.val < 15 then
        (rotated[index] <<< moveBits) ||| (rotated[index.val + 1] >>> leftout)
      else rotated[0] >>> leftout

def milenageIn1 (sqn : Vector UInt8 6) (amf : Vector UInt8 2) : Block :=
  sqn ++ amf ++ sqn ++ amf

def xorLast (block : Block) (constant : UInt8) : Block :=
  block.set 15 (block[15] ^^^ constant)

def milenageF1 (k rand : Block) (sqn : Vector UInt8 6) (amf : Vector UInt8 2) :
  Except MilenageError (Vector UInt8 8 × Vector UInt8 8) := do
  let temp ← aes128EncryptBlock crypt k (xorOctets rand opc)
  let input := xorOctets (shiftBits 64 (milenageIn1 sqn amf) opc) temp
  let encrypted ← aes128EncryptBlock crypt k input
  let out1 := xorOctets encrypted opc
  return (part out1 0 8 (by decide), part out1 8 8 (by decide))

def milenageF2345 (k rand : Block) : Except MilenageError
    (Vector UInt8 8 × Block × Block × Vector UInt8 6 × Vector UInt8 6) := do
  let temp ← aes128EncryptBlock crypt k (xorOctets rand opc)
  let encrypted2 ← aes128EncryptBlock crypt k (xorLast (shiftBits 0 temp opc) 1)
  let out2 := xorOctets encrypted2 opc
  let encrypted3 ← aes128EncryptBlock crypt k (xorLast (shiftBits 32 temp opc) 2)
  let ck := xorOctets encrypted3 opc
  let encrypted4 ← aes128EncryptBlock crypt k (xorLast (shiftBits 64 temp opc) 4)
  let ik := xorOctets encrypted4 opc
  let encrypted5 ← aes128EncryptBlock crypt k (xorLast (shiftBits 96 temp opc) 8)
  let out5 := xorOctets encrypted5 opc
  return (part out2 8 8 (by decide), ck, ik, part out2 0 6 (by decide), part out5 0 6 (by decide))

def milenageGenerate (amf : Vector UInt8 2) (k : Block) (sqn : Vector UInt8 6) (rand : Block) :
  Except MilenageError (Block × Block × Block × Vector UInt8 6 × Vector UInt8 8) := do
  let (macA, _) ← milenageF1 crypt opc k rand sqn amf
  let (res, ck, ik, ak, _) ← milenageF2345 crypt opc k rand
  let autn : Block := xorOctets sqn ak ++ amf ++ macA
  return (autn, ik, ck, ak, res)

def autsAmf : Vector UInt8 2 := .replicate 2 0

def milenageAuts (k rand : Block) (auts : Vector UInt8 14) :
  Except MilenageError (Vector UInt8 6) := do
  let (_, _, _, _, akStar) ← milenageF2345 crypt opc k rand
  let sqn := xorOctets (part auts 0 6 (by decide)) akStar
  let (_, macS) ← milenageF1 crypt opc k rand sqn autsAmf
  if macS ≠ part auts 6 8 (by decide) then .error .macMismatch
  else return sqn

/-- The USIM's check of an AUTN against its own SQN: IK, CK, RES, and an AUTS
when the SQN received is not above its own. -/
def milenageCheck (k : Block) (sqn : Vector UInt8 6) (rand autn : Block) :
  Except MilenageError (Block × Block × Vector UInt8 8 × Option (Vector UInt8 14)) := do
  let (res, ck, ik, ak, _) ← milenageF2345 crypt opc k rand
  let rxSqn := xorOctets (part autn 0 6 (by decide)) ak
  -- Slices compare from their first octet.
  if ¬ sqn.toList < rxSqn.toList then do
    let (_, _, _, _, akStar) ← milenageF2345 crypt opc k rand
    let (_, macS) ← milenageF1 crypt opc k rand sqn autsAmf
    let auts : Vector UInt8 14 := xorOctets sqn akStar ++ macS
    return (ik, ck, res, some auts)
  else do
    let amf := part autn 6 2 (by decide)
    let (macA, _) ← milenageF1 crypt opc k rand rxSqn amf
    if macA ≠ part autn 8 8 (by decide) then .error .macMismatch
    else return (ik, ck, res, none)

end Functions

end NextGCore.Crypt
