import NextGCore.Nas.UePolicy.Ursp

/-!
# UE policy delivery messages

The section management list, its result, the UPSI list, the classmark and the
messages of `ue_policy.rs` that carry them.
-/

namespace NextGCore.Nas.UePolicy

open Library Reader Reading
open Crypt (Bytes)

def updpMsgManageUePolicyCommand : UInt8 := 0x01
def updpMsgManageUePolicyCommandReject : UInt8 := 0x03
def updpMsgUeStateIndication : UInt8 := 0x04

def pcfPtiMin : UInt8 := 0x80
def pcfPtiMax : UInt8 := 0xFE
def uePtiMax : UInt8 := 0x77

def maxListLveContents : ℕ := 65531
def maxResultLveContents : ℕ := 65531
def maxUpsiLveContents : ℕ := 65529

def isBcd (digit : UInt8) : Bool := digit ≤ 9

def encodePlmnBcd (plmn : PlmnId) : Except NasError Bytes :=
  if plmn.mncLen ≠ 2 ∧ plmn.mncLen ≠ 3 then
    .error (.encodingError s!"PLMN MNC length must be 2 or 3 digits, got {plmn.mncLen}")
  else if !(plmn.mcc.toList.all isBcd && (plmn.mnc.toList.take plmn.mncLen.toNat).all isBcd) then
    .error (.encodingError "PLMN MCC/MNC digits must be BCD (0..=9)")
  else
    let mnc3 : UInt8 := if plmn.mncLen = 2 then 0x0F else plmn.mnc.get 2
    .ok [plmn.mcc.get 1 <<< 4 ||| plmn.mcc.get 0, mnc3 <<< 4 ||| plmn.mcc.get 2,
      plmn.mnc.get 1 <<< 4 ||| plmn.mnc.get 0]

def plmnWire (plmn : PlmnId) : Vector UInt8 3 :=
  let mnc3 : UInt8 := if plmn.mncLen = 2 then 0x0F else plmn.mnc.get 2
  #v[plmn.mcc.get 1 <<< 4 ||| plmn.mcc.get 0, mnc3 <<< 4 ||| plmn.mcc.get 2,
    plmn.mnc.get 1 <<< 4 ||| plmn.mnc.get 0]

def decodePlmnBcd (b : Vector UInt8 3) : Except NasError PlmnId :=
  let mcc : Vector UInt8 3 := #v[b.get 0 &&& 0x0F, b.get 0 >>> 4 &&& 0x0F, b.get 1 &&& 0x0F]
  let mnc3 := b.get 1 >>> 4 &&& 0x0F
  let mnc12 : Vector UInt8 2 := #v[b.get 2 &&& 0x0F, b.get 2 >>> 4 &&& 0x0F]
  if !(mcc.toList.all isBcd) || !(mnc12.toList.all isBcd) then
    .error (.decodingError "PLMN MCC/MNC contains a non-BCD digit")
  else if mnc3 = 0x0F then .ok ⟨mcc, #v[mnc12.get 0, mnc12.get 1, 0], 2⟩
  else if mnc3 ≤ 9 then .ok ⟨mcc, #v[mnc12.get 0, mnc12.get 1, mnc3], 3⟩
  else .error (.decodingError "PLMN MNC digit 3 is neither BCD nor 0b1111")

def decodePlmn : Read PlmnId := do
  let octets ← takeArray 3
  lift (decodePlmnBcd octets)

inductive UePolicyPartType where
  | ursp
  | andsp
  | v2xp
  | proSeP
  | a2xp
  | rslpp
  deriving DecidableEq

namespace UePolicyPartType

def value : UePolicyPartType → UInt8
  | .ursp => 0x01
  | .andsp => 0x02
  | .v2xp => 0x03
  | .proSeP => 0x04
  | .a2xp => 0x05
  | .rslpp => 0x06

def toText : UePolicyPartType → String
  | .ursp => "Ursp"
  | .andsp => "Andsp"
  | .v2xp => "V2xp"
  | .proSeP => "ProSeP"
  | .a2xp => "A2xp"
  | .rslpp => "Rslpp"

def fromBits (bits : UInt8) : Except NasError UePolicyPartType :=
  if bits = 0x01 then .ok .ursp
  else if bits = 0x02 then .ok .andsp
  else if bits = 0x03 then .ok .v2xp
  else if bits = 0x04 then .ok .proSeP
  else if bits = 0x05 then .ok .a2xp
  else if bits = 0x06 then .ok .rslpp
  else
    .error (.decodingError ("reserved UE policy part type 0x" ++
      String.ofList (Nat.toDigits 16 bits.toNat) ++ " (TS 24.501 Table D.6.2.1)"))

end UePolicyPartType

structure UePolicyPart where
  partType : UePolicyPartType
  contents : Bytes
  deriving DecidableEq

namespace UePolicyPart

def ursp (rules : List UrspRule) : Except NasError UePolicyPart := do
  let contents ← encodeUrspRules rules
  return ⟨.ursp, contents⟩

def decodeUrsp (part : UePolicyPart) : Except NasError (List UrspRule) :=
  if part.partType ≠ .ursp then
    .error (.decodingError s!"UE policy part type {part.partType.toText} is not URSP")
  else decodeUrspRules part.contents

def encodeInto (part : UePolicyPart) (out : Bytes) : Except NasError Bytes :=
  if part.contents.isEmpty then
    .error (.encodingError "UE policy part contents must not be empty (Figure D.6.2.7)")
  else do
    let out ← pushU16Len out (1 + part.contents.length) "UE policy part contents"
    return out ++ [part.partType.value] ++ part.contents

def takeAll : Read Bytes := fun reader => take reader.remaining reader

def decodeBody : Read UePolicyPart := do
  let typeOctet ← u8
  Reading.refuse (typeOctet &&& 0xF0 ≠ 0) (.decodingError
    "UE policy part: spare bits 8..5 of the part-type octet set (Table D.6.2.1)")
  let partType ← lift (UePolicyPartType.fromBits (typeOctet &&& 0x0F))
  let contents ← takeAll
  return ⟨partType, contents⟩

def decodeOne : Read UePolicyPart := do
  let length ← u16
  Reading.refuse (length = 0) (.decodingError ("UE policy part contents length must cover at " ++
    "least the part-type octet (Table D.6.2.1 NOTE 2)"))
  let body ← take length.toNat
  lift (whole "UE policy part" body decodeBody)

end UePolicyPart

structure Instruction where
  upsc : UInt16
  parts : List UePolicyPart
  deriving DecidableEq

namespace Instruction

def encodeInto (instruction : Instruction) (out : Bytes) : Except NasError Bytes := do
  let parts ← instruction.parts.foldlM (fun out part => part.encodeInto out) []
  let out ← pushU16Len out (2 + parts.length) "instruction contents"
  return out ++ toBeBytes instruction.upsc ++ parts

def decodeBody : Read Instruction := do
  let upsc ← u16
  let parts ← many UePolicyPart.decodeOne
  return ⟨upsc, parts⟩

def decodeOne : Read Instruction := do
  let body ← frame
  lift (whole "instruction" body decodeBody)

end Instruction

structure PlmnSublist where
  plmnId : PlmnId
  instructions : List Instruction
  deriving DecidableEq

namespace PlmnSublist

def emptyText : String :=
  "UE policy section management sublist must contain at least one instruction (Figure D.6.2.4)"

def encodeInto (sublist : PlmnSublist) (out : Bytes) : Except NasError Bytes :=
  if sublist.instructions.isEmpty then .error (.encodingError emptyText)
  else do
    let plmn ← encodePlmnBcd sublist.plmnId
    let instructions ← sublist.instructions.foldlM
      (fun out instruction => instruction.encodeInto out) []
    let out ← pushU16Len out (3 + instructions.length) "UE policy section management sublist"
    return out ++ plmn ++ instructions

def decodeBody : Read PlmnSublist := do
  let plmnId ← decodePlmn
  let instructions ← many Instruction.decodeOne
  return ⟨plmnId, instructions⟩

def decodeOne : Read PlmnSublist := do
  let body ← frame
  let sublist ← lift (whole "UE policy section management sublist" body decodeBody)
  Reading.refuse (sublist.instructions.isEmpty = true) (.decodingError emptyText)
  return sublist

end PlmnSublist

structure UePolicySectionManagementList where
  sublists : List PlmnSublist
  deriving DecidableEq

namespace UePolicySectionManagementList

def emptyText : String :=
  "UE policy section management list must contain at least one sublist (Figure D.6.2.2)"

def encodeContents (list : UePolicySectionManagementList) : Except NasError Bytes :=
  if list.sublists.isEmpty then .error (.encodingError emptyText)
  else do
    let out ← list.sublists.foldlM (fun out sublist => sublist.encodeInto out) []
    if maxListLveContents < out.length then
      .error (.encodingError (s!"UE policy section management list contents {out.length} exceed " ++
        s!"{maxListLveContents} octets (LV-E bound 11-65533 of Table D.5.1.1.1 / 65535-octet " ++
        "payload container cap of TS 24.501 §9.11.3.39.1)"))
    else return out

def encodeLvE (list : UePolicySectionManagementList) : Except NasError Bytes := do
  let contents ← list.encodeContents
  let out ← pushU16Len [] contents.length "UE policy section management list"
  return out ++ contents

def decodeContents (bytes : Bytes) : Except NasError UePolicySectionManagementList := do
  let sublists ← whole "UE policy section management list contents" bytes
    (many PlmnSublist.decodeOne)
  if sublists.isEmpty then .error (.decodingError emptyText)
  else return ⟨sublists⟩

end UePolicySectionManagementList

structure UePolicyResult where
  upsc : UInt16
  failedInstructionOrder : UInt16
  cause : UInt8

namespace UePolicyResult

def wire (result : UePolicyResult) : Bytes :=
  toBeBytes result.upsc ++ toBeBytes result.failedInstructionOrder ++ [result.cause]

def decodeOne : Read UePolicyResult := do
  let upsc ← u16
  let failedInstructionOrder ← u16
  let cause ← u8
  return ⟨upsc, failedInstructionOrder, cause⟩

end UePolicyResult

structure UePolicySectionManagementSubresult where
  plmnId : PlmnId
  results : List UePolicyResult

namespace UePolicySectionManagementSubresult

def encodeInto (subresult : UePolicySectionManagementSubresult) (out : Bytes) :
  Except NasError Bytes :=
  if subresult.results.isEmpty then
    .error (.encodingError ("UE policy section management subresult must contain at least " ++
      "one result (Table D.6.3.1)"))
  else if 2 ^ 8 ≤ subresult.results.length then
    .error (.encodingError "subresult holds more than 255 results (1-octet count, Figure D.6.3.3)")
  else do
    let plmn ← encodePlmnBcd subresult.plmnId
    return out ++ [UInt8.ofNat subresult.results.length] ++ plmn ++
      subresult.results.flatMap UePolicyResult.wire

def decodeOne : Read UePolicySectionManagementSubresult := do
  let count ← u8
  Reading.refuse (count = 0)
    (.decodingError "subresult result count must be at least 1 (Table D.6.3.1)")
  let plmnId ← decodePlmn
  let results ← times UePolicyResult.decodeOne count.toNat
  return ⟨plmnId, results⟩

end UePolicySectionManagementSubresult

structure UePolicySectionManagementResult where
  subresults : List UePolicySectionManagementSubresult

namespace UePolicySectionManagementResult

def emptyText : String :=
  "UE policy section management result must contain at least one subresult (Figure D.6.3.2)"

def encodeContents (result : UePolicySectionManagementResult) : Except NasError Bytes :=
  if result.subresults.isEmpty then .error (.encodingError emptyText)
  else do
    let out ← result.subresults.foldlM (fun out subresult => subresult.encodeInto out) []
    if maxResultLveContents < out.length then
      .error (.encodingError (s!"UE policy section management result contents {out.length} " ++
        s!"exceed {maxResultLveContents} octets (LV-E bound of Table D.5.3.1.1)"))
    else return out

def decodeContents (bytes : Bytes) : Except NasError UePolicySectionManagementResult := do
  let subresults ← whole "UE policy section management result contents" bytes
    (many UePolicySectionManagementSubresult.decodeOne)
  if subresults.isEmpty then .error (.decodingError emptyText)
  else return ⟨subresults⟩

end UePolicySectionManagementResult

structure UpsiSublist where
  plmnId : PlmnId
  upscs : List UInt16
  deriving DecidableEq

namespace UpsiSublist

def encodeInto (sublist : UpsiSublist) (out : Bytes) : Except NasError Bytes :=
  if sublist.upscs.isEmpty then
    .error (.encodingError "UPSI sublist must contain at least one UPSC (Figure D.6.4.2)")
  else do
    let out ← pushU16Len out (3 + 2 * sublist.upscs.length) "UPSI sublist"
    let plmn ← encodePlmnBcd sublist.plmnId
    return out ++ plmn ++ sublist.upscs.flatMap toBeBytes

def decodeBody : Read UpsiSublist := do
  let plmnId ← decodePlmn
  let upscs ← many u16
  return ⟨plmnId, upscs⟩

def decodeOne : Read UpsiSublist := do
  let length ← u16
  Reading.refuse (length.toNat < 5 ∨ (length.toNat - 3) % 2 ≠ 0) (.decodingError
    s!"UPSI sublist length {length} is not 3 + 2*n with n >= 1 (Figure D.6.4.2)")
  let body ← take length.toNat
  lift (whole "UPSI sublist" body decodeBody)

end UpsiSublist

structure UpsiList where
  sublists : List UpsiSublist
  deriving DecidableEq

namespace UpsiList

def encodeContents (list : UpsiList) : Except NasError Bytes := do
  let out ← list.sublists.foldlM (fun out sublist => sublist.encodeInto out) []
  if maxUpsiLveContents < out.length then
    .error (.encodingError (s!"UPSI list contents {out.length} exceed {maxUpsiLveContents} " ++
      "octets (LV-E bound 2-65531 of Table D.5.4.1.1)"))
  else return out

def decodeContents (bytes : Bytes) : Except NasError UpsiList := do
  let sublists ← whole "UPSI list contents" bytes (many UpsiSublist.decodeOne)
  return ⟨sublists⟩

end UpsiList

structure UePolicyClassmark where
  andspSupported : Bool
  epsUrspSupported : Bool
  vpsUrspSupported : Bool
  rureSupported : Bool
  deriving DecidableEq

namespace UePolicyClassmark

def flags (classmark : UePolicyClassmark) : UInt8 :=
  classmark.andspSupported.toUInt8 ||| classmark.epsUrspSupported.toUInt8 <<< 1 |||
    classmark.vpsUrspSupported.toUInt8 <<< 2 ||| classmark.rureSupported.toUInt8 <<< 3

def encodeLv (classmark : UePolicyClassmark) : Bytes := [1, classmark.flags]

def ofOctet (octet : UInt8) : UePolicyClassmark where
  andspSupported := octet &&& 0x01 != 0
  epsUrspSupported := octet &&& 0x02 != 0
  vpsUrspSupported := octet &&& 0x04 != 0
  rureSupported := octet &&& 0x08 != 0

def decodeLv : Read UePolicyClassmark := do
  let length ← u8
  Reading.refuse (¬ (1 ≤ length.toNat ∧ length.toNat ≤ 3)) (.decodingError
    s!"UE policy classmark contents length {length} outside 1..=3 (D.6.5)")
  let contents ← take length.toNat
  Reading.refuse (contents.headD 0 &&& 0xF0 ≠ 0) (.decodingError
    "UE policy classmark: spare bits 8..5 of octet 3 set (Figure D.6.5.1)")
  Reading.refuse (contents.tail.any fun octet => octet != 0) (.decodingError
    "UE policy classmark: spare octets 4..5 must be zero (Table D.6.5.1)")
  return ofOctet (contents.headD 0)

end UePolicyClassmark

def isPcfPti (pti : UInt8) : Bool := pcfPtiMin ≤ pti && pti ≤ pcfPtiMax

def checkPcfPti (pti : UInt8) (msg : String) (error : String → NasError) :
  Except NasError Unit :=
  if isPcfPti pti then .ok ()
  else
    .error (error (msg ++ ": PTI " ++ hexOctet pti ++
      " outside the PCF-initiated range 80H-FEH (TS 24.501 D.1.2)"))

def decodeLvEMessage (msgType : UInt8) (msg : String) : Read (UInt8 × Bytes) := do
  let pti ← u8
  let found ← u8
  Reading.refuse (found ≠ msgType) (.invalidMessageType found)
  lift (checkPcfPti pti msg .decodingError)
  let contents ← frame
  return (pti, contents)

structure ManageUePolicyCommand where
  pti : UInt8
  list : UePolicySectionManagementList
  deriving DecidableEq

namespace ManageUePolicyCommand

def encode (command : ManageUePolicyCommand) : Except NasError Bytes := do
  checkPcfPti command.pti "MANAGE UE POLICY COMMAND" .encodingError
  let lvE ← command.list.encodeLvE
  return [command.pti] ++ [updpMsgManageUePolicyCommand] ++ lvE

def decode (content : Bytes) : Except NasError ManageUePolicyCommand := do
  let head ← whole "MANAGE UE POLICY COMMAND" content
    (decodeLvEMessage updpMsgManageUePolicyCommand "MANAGE UE POLICY COMMAND")
  let list ← UePolicySectionManagementList.decodeContents head.2
  return ⟨head.1, list⟩

end ManageUePolicyCommand

structure ManageUePolicyCommandReject where
  pti : UInt8
  result : UePolicySectionManagementResult

namespace ManageUePolicyCommandReject

def encode (reject : ManageUePolicyCommandReject) : Except NasError Bytes := do
  checkPcfPti reject.pti "MANAGE UE POLICY COMMAND REJECT" .encodingError
  let contents ← reject.result.encodeContents
  let out ← pushU16Len ([reject.pti] ++ [updpMsgManageUePolicyCommandReject]) contents.length
    "UE policy section management result"
  return out ++ contents

def decode (content : Bytes) : Except NasError ManageUePolicyCommandReject := do
  let head ← whole "MANAGE UE POLICY COMMAND REJECT" content
    (decodeLvEMessage updpMsgManageUePolicyCommandReject "MANAGE UE POLICY COMMAND REJECT")
  let result ← UePolicySectionManagementResult.decodeContents head.2
  return ⟨head.1, result⟩

end ManageUePolicyCommandReject

def ieiUeOsId : UInt8 := 0x41

structure UeStateIndication where
  pti : UInt8
  upsiList : UpsiList
  classmark : UePolicyClassmark
  osIds : List (Vector UInt8 16)
  deriving DecidableEq

namespace UeStateIndication

def ptiText (pti : UInt8) : String :=
  "UE STATE INDICATION: PTI " ++ hexOctet pti ++
    " outside the UE-initiated range 00H/01H-77H (TS 24.501 D.1.2)"

def osIdOctets (osIds : List (Vector UInt8 16)) : Bytes :=
  if osIds.isEmpty then []
  else [ieiUeOsId] ++ [UInt8.ofNat (16 * osIds.length)] ++ osIds.flatMap Vector.toList

def encode (indication : UeStateIndication) : Except NasError Bytes :=
  if uePtiMax < indication.pti then .error (.encodingError (ptiText indication.pti))
  else if 15 < indication.osIds.length then
    .error (.encodingError "UE OS Id IE holds at most 15 OS Ids (D.6.6: max length 242)")
  else do
    let upsi ← indication.upsiList.encodeContents
    let out ← pushU16Len ([indication.pti] ++ [updpMsgUeStateIndication]) upsi.length "UPSI list"
    return out ++ upsi ++ indication.classmark.encodeLv ++ osIdOctets indication.osIds

def decodeOsIds : Read (List (Vector UInt8 16)) := fun reader =>
  if 0 < reader.remaining then
    (do
      let iei ← u8
      Reading.refuse (iei ≠ ieiUeOsId) (.invalidIeType iei)
      let length ← u8
      Reading.refuse (length = 0 ∨ length.toNat % 16 ≠ 0 ∨ 240 < length.toNat) (.decodingError
        s!"UE OS Id contents length {length} is not a multiple of 16 in 16..=240 (D.6.6)")
      times (takeArray 16) (length.toNat / 16) : Read (List (Vector UInt8 16))) reader
  else .ok ([], reader)

def decodeBody : Read UeStateIndication := do
  let pti ← u8
  let msgType ← u8
  Reading.refuse (msgType ≠ updpMsgUeStateIndication) (.invalidMessageType msgType)
  Reading.refuse (uePtiMax < pti) (.decodingError (ptiText pti))
  let upsi ← frame
  let upsiList ← lift (UpsiList.decodeContents upsi)
  let classmark ← UePolicyClassmark.decodeLv
  let osIds ← decodeOsIds
  return ⟨pti, upsiList, classmark, osIds⟩

def decode (content : Bytes) : Except NasError UeStateIndication :=
  whole "UE STATE INDICATION" content decodeBody

end UeStateIndication

end NextGCore.Nas.UePolicy
