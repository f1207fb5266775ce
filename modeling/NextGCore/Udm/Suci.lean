import Mathlib.Data.List.AList
import NextGCore.Crypt.Ecies
import NextGCore.Sbi.Text

/-!
# De-concealing a SUCI

`UdmContext::deconceal_suci` with the keys that `hnet_key_add` provisions.  Hex
text is sliced two bytes at a time, so a multi-byte character in it can panic;
the outer `none` stands for that panic.
-/

namespace NextGCore.Udm

open Sbi List
open Crypt (Bytes Octets32 Octets33 Primitives EciesPrimitives)

variable (bytes : Bytes)

def protectionSchemeNull : UInt8 := 0

def protectionSchemeProfileA : UInt8 := 1

def protectionSchemeProfileB : UInt8 := 2

structure HnetKey where
  scheme : UInt8
  key : Bytes

structure ParsedSuci where
  supiType : UInt8
  mcc : String
  mnc : String
  protectionScheme : UInt8
  keyId : UInt8
  schemeOutput : String

def parseU8 (text : String) : Option UInt8 :=
  (parseU64 text).bind fun value => if value < 256 then some (UInt8.ofNat value) else none

def splitDashes (text : String) : List String :=
  (text.toList.splitOn '-').map String.ofList

def parseSuci (suci : String) : Option ParsedSuci :=
  match splitDashes suci with
  | [start, supiType, mcc, mnc, _, scheme, keyId, schemeOutput] =>
    if start ≠ "suci" then none
    else do
      let supiType ← parseU8 supiType
      let protectionScheme ← parseU8 scheme
      let keyId ← parseU8 keyId
      return ⟨supiType, mcc, mnc, protectionScheme, keyId, schemeOutput⟩
  | _ => none

/-- The pairs of `hex_str_to_bytes`, up to the first that is no number. -/
def strictHexPairs : Bytes → Option (Option Bytes)
  | first :: second :: rest =>
    if isContinuation first ∨ rest.head?.any isContinuation then none
    else
      match fromHexPair first second with
      | none => some none
      | some octet => (strictHexPairs rest).map fun octets => octets.map (octet :: ·)
  | _ => some (some [])

def hexStrToBytes (hex : String) : Option (Option Bytes) :=
  if (asBytes hex).length % 2 ≠ 0 then some none else strictHexPairs (asBytes hex)

def nibbleDigit (nibble : UInt8) : List Char :=
  if nibble ≤ 9 then [Char.ofNat (48 + nibble.toNat)] else []

def msinBcdToDigits (bcd : Bytes) : List Char :=
  bcd.flatMap fun octet => nibbleDigit (octet &&& 0x0F) ++ nibbleDigit ((octet >>> 4) &&& 0x0F)

def imsi (mcc mnc msin : String) : String := "imsi-" ++ mcc ++ mnc ++ msin

def supiFromSuci (suciOrSupi : String) : Option String :=
  if startsWith "suci-" suciOrSupi then do
    let parsed ← parseSuci suciOrSupi
    if parsed.supiType ≠ 0 then none
    else if parsed.protectionScheme = protectionSchemeNull then
      if parsed.schemeOutput.toList.all Char.isDigit
      then some (imsi parsed.mcc parsed.mnc parsed.schemeOutput)
      else none
    else none
  else if startsWith "imsi-" suciOrSupi then some suciOrSupi
  else none

structure SuciKeys where
  hnetKeys : AList (fun _ : UInt8 => HnetKey)
  allowNullScheme : Bool

def SuciKeys.hnetKeyAdd (keys : SuciKeys) (keyId scheme : UInt8) (key : Bytes) : SuciKeys :=
  { keys with hnetKeys := keys.hnetKeys.insert keyId ⟨scheme, key⟩ }

def routingIndicatorOk (ri : String) : Bool :=
  ri.toList.length ≤ 4 && ri.toList.all Char.isDigit

/-- The null scheme is allowed by configuration, with a valid routing indicator
or none at all. -/
def nullSchemeRejected (keys : SuciKeys) (suci : String) : Bool :=
  match parseSuci suci with
  | some parsed =>
    parsed.protectionScheme = protectionSchemeNull && (!keys.allowNullScheme ||
        match splitDashes suci with
        | [_, _, _, _, ri, _, _, _] => ri ≠ "" && ri ≠ "0000" && !routingIndicatorOk ri
        | _ => false)
  | none => false

section Deconceal

variable (crypt : Primitives) (ecies : EciesPrimitives)

def schemePlaintext (scheme : UInt8) (key schemeOutput : Bytes) : Option Bytes := do
  let privKey ← exactOctets 32 key
  if scheme = protectionSchemeProfileA then
    (Crypt.suciDeconcealProfileA crypt ecies privKey schemeOutput).toOption
  else if scheme = protectionSchemeProfileB then
    (Crypt.suciDeconcealProfileB crypt ecies privKey schemeOutput).toOption
  else none

/-- The part of `deconceal_suci` for SUCIs that are not in the null scheme. -/
def deconcealEcies (keys : SuciKeys) (parsed : ParsedSuci) : Option (Option String) :=
  if parsed.supiType ≠ 0 then some none
  else
    match keys.hnetKeys.lookup parsed.keyId with
    | none => some none
    | some hnetKey =>
      if hnetKey.scheme ≠ parsed.protectionScheme then some none
      else
        (hexStrToBytes parsed.schemeOutput).map fun schemeOutput => do
          let schemeOutput ← schemeOutput
          let plaintext ←
            schemePlaintext crypt ecies parsed.protectionScheme hnetKey.key schemeOutput
          let msin := msinBcdToDigits plaintext
          if msin.isEmpty then none
          else some (imsi parsed.mcc parsed.mnc (String.ofList msin))

def deconcealSuci (keys : SuciKeys) (suciOrSupi : String) : Option (Option String) :=
  if startsWith "imsi-" suciOrSupi then some (some suciOrSupi)
  else if startsWith "suci-" suciOrSupi && nullSchemeRejected keys suciOrSupi then some none
  else
    match supiFromSuci suciOrSupi with
    | some supi => some (some supi)
    | none =>
      if startsWith "suci-" suciOrSupi then
        match parseSuci suciOrSupi with
        | none => some none
        | some parsed => deconcealEcies crypt ecies keys parsed
      else some none

end Deconceal

lemma parseU8_toString (value : UInt8) : parseU8 (toString value.toNat) = some value := by
  have cases256 : ∀ number : Fin 256,
      parseU8 (toString number.val) = some (UInt8.ofNat number.val) := by
    decide +kernel
  rw [cases256 ⟨value.toNat, value.toNat_lt⟩, UInt8.ofNat_toNat]

lemma dash_notMem_bytesToHex : '-' ∉ (bytesToHex bytes).toList := by
  have cases16 : ∀ digit : Fin 16, Nat.digitChar digit ≠ '-' := by decide
  unfold bytesToHex
  rw [String.toList_ofList]
  intro dash
  obtain ⟨octet, -, here⟩ := mem_flatMap.mp dash
  have bound := octet.toNat_lt
  rcases mem_pair.mp here with first | second
  · exact cases16 ⟨octet.toNat / 16, by omega⟩ first.symm
  · exact cases16 ⟨octet.toNat % 16, by omega⟩ second.symm

lemma head_hexText :
  (((bytes.flatMap hexOfOctet).flatMap String.utf8EncodeChar).head?.any isContinuation) =
    false := by
  cases bytes with
  | nil => rfl
  | cons octet rest =>
    obtain ⟨first, second, text, -, start⟩ := hexOfOctet_pair octet
    simp only [flatMap_cons, flatMap_append, text, cons_append, List.head?_cons, Option.any_some,
      start]

lemma strictHexPairs_text :
  strictHexPairs ((bytes.flatMap hexOfOctet).flatMap String.utf8EncodeChar) =
    some (some bytes) := by
  induction bytes with
  | nil => rfl
  | cons octet rest ih =>
    obtain ⟨first, second, text, together, start⟩ := hexOfOctet_pair octet
    simp only [flatMap_cons, flatMap_append, text, cons_append, nil_append, strictHexPairs, start,
      head_hexText, ih, together]
    rfl

lemma length_hexText : (asBytes (bytesToHex bytes)).length = 2 * bytes.length := by
  unfold asBytes bytesToHex
  rw [String.toList_ofList]
  induction bytes with
  | nil => rfl
  | cons octet rest ih =>
    obtain ⟨first, second, text, -⟩ := hexOfOctet_pair octet
    simp only [flatMap_cons, flatMap_append, text, length_append, length_cons, length_nil, ih]
    omega

lemma hexStrToBytes_bytesToHex : hexStrToBytes (bytesToHex bytes) = some (some bytes) := by
  unfold hexStrToBytes
  rw [if_neg (by rw [length_hexText]; omega), asBytes, bytesToHex, String.toList_ofList]
  exact strictHexPairs_text bytes

lemma splitDashes_eq {parts : List String} (nonempty : parts ≠ [])
  (undashed : ∀ piece ∈ parts, '-' ∉ piece.toList) :
  splitDashes (String.ofList (['-'].intercalate (parts.map String.toList))) = parts := by
  unfold splitDashes
  rw [String.toList_ofList, splitOn_intercalate]
  · rw [List.map_map]
    exact (map_congr_left fun piece _ => String.ofList_toList).trans (List.map_id _)
  · intro piece isPart
    obtain ⟨text, member, rfl⟩ := mem_map.mp isPart
    exact undashed text member
  · simpa using nonempty

section Outcomes

variable {crypt : Primitives} {ecies : EciesPrimitives} {keys : SuciKeys} {suci : String}
  {parsed : ParsedSuci}

lemma nullSchemeRejected_eq_false (read : parseSuci suci = some parsed)
  (protected' : parsed.protectionScheme ≠ protectionSchemeNull) :
  nullSchemeRejected keys suci = false := by
  unfold nullSchemeRejected
  rw [read]
  simp [protected']

lemma supiFromSuci_eq_none (concealed : startsWith "suci-" suci = true)
  (read : parseSuci suci = some parsed)
  (protected' : parsed.protectionScheme ≠ protectionSchemeNull) :
  supiFromSuci suci = none := by
  unfold supiFromSuci
  rw [if_pos concealed, read]
  simp [protected']

lemma deconcealSuci_eq (notImsi : startsWith "imsi-" suci = false)
  (concealed : startsWith "suci-" suci = true) (read : parseSuci suci = some parsed)
  (protected' : parsed.protectionScheme ≠ protectionSchemeNull) :
  deconcealSuci crypt ecies keys suci = deconcealEcies crypt ecies keys parsed := by
  unfold deconcealSuci
  rw [notImsi, nullSchemeRejected_eq_false read protected', concealed,
    supiFromSuci_eq_none concealed read protected', read]
  rfl

end Outcomes

end NextGCore.Udm
