import NextGCore.Library.Tasks
import NextGCore.Sbi.UeIndices
import NextGCore.Udm.Context

/-!
# Acknowledgements of SoR and UPU

The UDM stores the MAC that it expects from a UE when it protects a steering
list or a parameters update, and compares the acknowledgement with it.  Each
lookup, each update and each addition of a UE takes the locks for itself, so
what lies between them is open to other requests on the same subscriber.
-/

namespace NextGCore.Udm

open Library
open Sbi
open Crypt (Bytes)

inductive AckKind where
  | sor
  | upu
  deriving DecidableEq

def AckKind.text : AckKind → String
  | .sor => "SoR"
  | .upu => "UPU"

def AckKind.macField : AckKind → String
  | .sor => "sorMacIue"
  | .upu => "upuMacIue"

def AckKind.containerField : AckKind → String
  | .sor => "sorTransparentContainer"
  | .upu => "upuTransparentContainer"

def AckKind.macFailCause : AckKind → String
  | .sor => "SOR_MAC_FAILURE"
  | .upu => "UPU_MAC_FAILURE"

abbrev Xmac := Vector UInt8 16

structure SorUpuAckState where
  provisioningTime : String
  counter : Option UInt16
  ueNotReachable : Bool

structure SorUpuUe extends UdmUe where
  expectedSorXmacIue : Option Xmac
  lastSorCounter : Option UInt16
  sorAck : Option SorUpuAckState
  expectedUpuXmacIue : Option Xmac
  lastUpuCounter : Option UInt16
  upuAck : Option SorUpuAckState

namespace SorUpuUe

variable (ue : SorUpuUe)

def new (id : ℕ) (suci : String) (supi : Option String) : SorUpuUe where
  toUdmUe := UdmUe.new id suci supi
  expectedSorXmacIue := none
  lastSorCounter := none
  sorAck := none
  expectedUpuXmacIue := none
  lastUpuCounter := none
  upuAck := none

def expectedXmac : AckKind → Option Xmac
  | .sor => ue.expectedSorXmacIue
  | .upu => ue.expectedUpuXmacIue

def lastCounter : AckKind → Option UInt16
  | .sor => ue.lastSorCounter
  | .upu => ue.lastUpuCounter

/-- What `sor_store_expected_xmac` and `upu_store_expected_xmac` write. -/
def storeXmac (kind : AckKind) (xmac : Xmac) (counter : UInt16) : SorUpuUe :=
  match kind with
  | .sor => { ue with expectedSorXmacIue := some xmac, lastSorCounter := some counter }
  | .upu => { ue with expectedUpuXmacIue := some xmac, lastUpuCounter := some counter }

def recordAck (kind : AckKind) (ack : SorUpuAckState) : SorUpuUe :=
  match kind with
  | .sor => { ue with sorAck := some ack, expectedSorXmacIue := none, lastSorCounter := none }
  | .upu => { ue with upuAck := some ack, expectedUpuXmacIue := none, lastUpuCounter := none }

end SorUpuUe

instance sorUpuUeRecord : UeRecord SorUpuUe where
  id ue := ue.id
  suci ue := ue.suci
  supi ue := ue.supi
  withSupi ue supi := { ue with supi := some supi }
  id_withSupi _ _ := rfl

abbrev SorUpuContext := UeContext SorUpuUe

def SorUpuContext.ueAdd (context : SorUpuContext) (deconcealSuci : String → Option String)
  (suci : String) : Option (SorUpuContext × SorUpuUe) :=
  UeContext.ueAdd context (fun id => SorUpuUe.new id suci (deconcealSuci suci)) (fun _ => rfl)

def SorUpuContext.expectedXmac (context : SorUpuContext) (kind : AckKind) (supi : String) :
  Option (Xmac × UInt16) :=
  (context.ueFindBySupi supi).bind fun ue =>
    (ue.expectedXmac kind).map fun xmac => (xmac, (ue.lastCounter kind).getD 0)

def ctCompare (a b : Bytes) : Bool :=
  a.length == b.length &&
    (a.zip b).foldl (fun diff octets => diff ||| (octets.1 ^^^ octets.2)) 0 == 0

/-- The MAC field, or octets 5 to 20 of the container.  Slicing the field into
digits is safe: they are ASCII, and their number is even. -/
def extractReceivedIueMac (ack : Json) (kind : AckKind) : Option Bytes :=
  match ack.getStr kind.macField with
  | some hex =>
    let digits := asBytes hex
    if digits.length = 32 ∧ digits.all fun octet => (hexDigit octet).isSome then
      match hexToBytes hex with
      | some bytes => if bytes.length = 16 then some bytes else none
      | none => none
    else none
  | none =>
    match ack.getStr kind.containerField with
    | none => none
    | some text =>
      match base64Decode text with
      | none => none
      | some raw => if 20 ≤ raw.length then some ((raw.take 20).drop 4) else none

structure AckInfo where
  provisioningTime : String
  ueNotReachable : Bool
  received : Option Bytes

def ackInfo (request : SbiRequest) (kind : AckKind) : Except SbiResponse AckInfo := do
  let ack ← request.body
  match ack.getStr "provisioningTime" with
  | none =>
    .error (sendBadRequest "provisioningTime is mandatory" (some "MANDATORY_IE_MISSING"))
  | some provisioningTime =>
    let ueNotReachable :=
      match ack.get "ueNotReachable" with
      | some (.bool value) => value
      | _ => false
    return ⟨provisioningTime, ueNotReachable, extractReceivedIueMac ack kind⟩

inductive SorUpuRequest where
  | store (kind : AckKind) (xmac : Xmac) (counter : UInt16)
  | acknowledge (kind : AckKind) (request : SbiRequest)

inductive SorUpuTask where
  /-- `store_expected_xmac`: the lookup. -/
  | find (kind : AckKind) (xmac : Xmac) (counter : UInt16)
  | add (kind : AckKind) (xmac : Xmac) (counter : UInt16)
  | store (kind : AckKind) (xmac : Xmac) (ue : SorUpuUe)
  /-- `handle_ack_info`: the lookup of the expected XMAC. -/
  | peek (kind : AckKind) (ack : AckInfo)
  /-- `record_ack`: the lookup. -/
  | reread (kind : AckKind) (ack : AckInfo) (expected : Option (Xmac × UInt16))
  | record (kind : AckKind) (ack : AckInfo) (expected : Option (Xmac × UInt16)) (ue : SorUpuUe)

inductive SorUpuOutput where
  | stored (done : Bool)
  | refused (kind : AckKind) (response : SbiResponse)
  | answered (kind : AckKind) (ack : AckInfo) (response : SbiResponse)

def judge (kind : AckKind) (ack : AckInfo) (expected : Option (Xmac × UInt16)) :
  Except SbiResponse Unit :=
  if ack.ueNotReachable then .ok ()
  else
    match expected, ack.received with
    | some (xmac, _), some mac =>
      if ctCompare mac xmac.toList then .ok ()
      else
        .error (sendProblem 400 kind.macFailCause (kind.text ++ "-MAC-I_UE verification failed"))
    | some _, none =>
      .error (sendBadRequest
        (kind.macField ++ " is required to acknowledge a protected " ++ kind.text ++ " update")
        (some "MANDATORY_IE_MISSING"))
    | none, some _ =>
      .error (sendProblem 400 "UNEXPECTED_MESSAGE"
        ("no outstanding " ++ kind.text ++ " update to acknowledge"))
    | none, none => .error (.withStatus 204)

def sorUpuSystem (deconcealSuci : String → Option String) (supi : String) :
  TaskSystem SorUpuContext SorUpuRequest SorUpuTask SorUpuOutput where
  start
    | .store kind xmac counter => .waiting (.find kind xmac counter)
    | .acknowledge kind request =>
      match ackInfo request kind with
      | .error response => .finished (.refused kind response)
      | .ok ack => .waiting (.peek kind ack)
  advance context
    | .find kind xmac counter =>
      match context.ueFindBySupi supi with
      | some ue => (context, .waiting (.store kind xmac (ue.storeXmac kind xmac counter)))
      | none => (context, .waiting (.add kind xmac counter))
    | .add kind xmac counter =>
      match context.ueAdd deconcealSuci supi with
      | some (context, ue) =>
        (context, .waiting (.store kind xmac (ue.storeXmac kind xmac counter)))
      | none => (context, .finished (.stored false))
    | .store _ _ ue =>
      (context.ueUpdate ue, .finished (.stored (context.ueFindById ue.id).isSome))
    | .peek kind ack =>
      let expected := context.expectedXmac kind supi
      match judge kind ack expected with
      | .ok () => (context, .waiting (.reread kind ack expected))
      | .error response => (context, .finished (.answered kind ack response))
    | .reread kind ack expected =>
      match context.ueFindBySupi supi with
      | some ue =>
        let state : SorUpuAckState :=
          ⟨ack.provisioningTime, expected.map Prod.snd, ack.ueNotReachable⟩
        (context, .waiting (.record kind ack expected (ue.recordAck kind state)))
      | none => (context, .finished (.answered kind ack (.withStatus 204)))
    | .record kind ack _ ue =>
      (context.ueUpdate ue, .finished (.answered kind ack (.withStatus 204)))

end NextGCore.Udm
