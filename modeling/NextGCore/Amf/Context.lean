import NextGCore.Amf.NasSecurity
import NextGCore.Library.NamedTable

/-!
# The context of the AMF

The UEs and the gNBs of `context.rs` with the hash maps that find them.  The
setters maintain the hash maps; a whole-record update does not look at them.
-/

namespace NextGCore.Amf

open Library

structure PlmnId where
  mcc1 : UInt8 := 0
  mcc2 : UInt8 := 0
  mcc3 : UInt8 := 0
  mnc1 : UInt8 := 0
  mnc2 : UInt8 := 0
  mnc3 : UInt8 := 0
  deriving DecidableEq

structure Guti5gs where
  plmnId : PlmnId := {}
  amfRegionId : UInt8 := 0
  amfSetId : UInt16 := 0
  amfPointer : UInt8 := 0
  tmsi : UInt32 := 0
  deriving DecidableEq

structure AmfUeContext extends AmfUe where
  id : ℕ
  suci : Option String
  supi : Option String
  currentGuti : Guti5gs
  ranUeId : ℕ

/-- `AmfUe::new`, with the setting of NAS security that `amf_ue_add` puts in. -/
def AmfUeContext.new (id ranUeId : ℕ) (nasSecurityCanary : Bool) : AmfUeContext where
  useNextgcoreNasSecurity := nasSecurityCanary
  securityContextAvailable := false
  macFailed := false
  selectedEncAlgorithm := 0
  selectedIntAlgorithm := 0
  knasEnc := Vector.replicate 16 0
  knasInt := Vector.replicate 16 0
  accessType := 1
  dlCount := 0
  ulCount := 0
  ulCountEstablished := false
  id := id
  suci := none
  supi := none
  currentGuti := {}
  ranUeId := ranUeId

structure AmfGnb where
  id : ℕ
  addr : String
  gnbIdPresence : Bool
  gnbId : UInt32

namespace AmfGnb

def new (id : ℕ) (addr : String) : AmfGnb := ⟨id, addr, false, 0⟩

def presentGnbId (gnb : AmfGnb) : Option UInt32 :=
  if gnb.gnbIdPresence then some gnb.gnbId else none

end AmfGnb

structure AmfContext where
  amfUeList : NumberedTable AmfUeContext AmfUeContext.id
  suciHash : AList (fun _ : String => ℕ)
  supiHash : AList (fun _ : String => ℕ)
  gutiUeHash : AList (fun _ : Guti5gs => ℕ)
  gnbList : NumberedTable AmfGnb AmfGnb.id
  gnbAddrHash : AList (fun _ : String => ℕ)
  gnbIdHash : AList (fun _ : UInt32 => ℕ)
  maxNumOfUe : ℕ
  maxNumOfGnb : ℕ

namespace AmfContext

def init (maxGnb maxUe : ℕ) : AmfContext where
  amfUeList := .empty 1
  suciHash := ∅
  supiHash := ∅
  gutiUeHash := ∅
  gnbList := .empty 1
  gnbAddrHash := ∅
  gnbIdHash := ∅
  maxNumOfUe := maxUe
  maxNumOfGnb := maxGnb

variable (context : AmfContext)

def amfUeFindById (id : ℕ) : Option AmfUeContext := context.amfUeList.lookup id

def amfUeFindBySuci (suci : String) : Option AmfUeContext :=
  (context.suciHash.lookup suci).bind context.amfUeFindById

def amfUeFindBySupi (supi : String) : Option AmfUeContext :=
  (context.supiHash.lookup supi).bind context.amfUeFindById

def amfUeFindByGuti (guti : Guti5gs) : Option AmfUeContext :=
  (context.gutiUeHash.lookup guti).bind context.amfUeFindById

def amfUeAdd (ranUeId : ℕ) (nasSecurityCanary : Bool) : Option (AmfContext × AmfUeContext) :=
  if context.maxNumOfUe ≤ context.amfUeList.size then none
  else
    some
      ({ context with
          amfUeList := context.amfUeList.allocate
            (fun id => AmfUeContext.new id ranUeId nasSecurityCanary) fun _ => rfl },
        AmfUeContext.new context.amfUeList.next ranUeId nasSecurityCanary)

def amfUeRemove (id : ℕ) : AmfContext × Option AmfUeContext :=
  match context.amfUeFindById id with
  | none => (context, none)
  | some amfUe =>
    ({ context with
        amfUeList := context.amfUeList.erase id
        suciHash := unname context.suciHash amfUe.suci
        supiHash := unname context.supiHash amfUe.supi
        gutiUeHash := context.gutiUeHash.erase amfUe.currentGuti },
      some amfUe)

def amfUeSetSuci (id : ℕ) (suci : String) : AmfContext × Bool :=
  match context.amfUeFindById id with
  | none => (context, false)
  | some amfUe =>
    ({ context with
        amfUeList := context.amfUeList.update { amfUe with suci := some suci }
        suciHash := rename context.suciHash amfUe.suci id suci },
      true)

def amfUeSetSupi (id : ℕ) (supi : String) : AmfContext × Bool :=
  match context.amfUeFindById id with
  | none => (context, false)
  | some amfUe =>
    ({ context with
        amfUeList := context.amfUeList.update { amfUe with supi := some supi }
        supiHash := rename context.supiHash amfUe.supi id supi },
      true)

def amfUeUpdateGuti (id : ℕ) (guti : Guti5gs) : AmfContext × Bool :=
  match context.amfUeFindById id with
  | none => (context, false)
  | some amfUe =>
    ({ context with
        amfUeList := context.amfUeList.update { amfUe with currentGuti := guti }
        gutiUeHash := rename context.gutiUeHash (some amfUe.currentGuti) id guti },
      true)

def amfUeUpdate (amfUe : AmfUeContext) : AmfContext × Bool :=
  ({ context with amfUeList := context.amfUeList.update amfUe },
    (context.amfUeFindById amfUe.id).isSome)

def gnbFindById (id : ℕ) : Option AmfGnb := context.gnbList.lookup id

def gnbFindByAddr (addr : String) : Option AmfGnb :=
  (context.gnbAddrHash.lookup addr).bind context.gnbFindById

def gnbFindByGnbId (gnbId : UInt32) : Option AmfGnb :=
  (context.gnbIdHash.lookup gnbId).bind context.gnbFindById

def gnbAdd (addr : String) : Option (AmfContext × AmfGnb) :=
  if context.maxNumOfGnb ≤ context.gnbList.size then none
  else
    some
      ({ context with
          gnbList := context.gnbList.allocate (fun id => AmfGnb.new id addr) fun _ => rfl
          gnbAddrHash := context.gnbAddrHash.insert addr context.gnbList.next },
        AmfGnb.new context.gnbList.next addr)

def gnbRemove (id : ℕ) : AmfContext × Option AmfGnb :=
  match context.gnbFindById id with
  | none => (context, none)
  | some gnb =>
    ({ context with
        gnbList := context.gnbList.erase id
        gnbAddrHash := context.gnbAddrHash.erase gnb.addr
        gnbIdHash := unname context.gnbIdHash gnb.presentGnbId },
      some gnb)

def gnbSetGnbId (id : ℕ) (gnbId : UInt32) : AmfContext × Bool :=
  match context.gnbFindById id with
  | none => (context, false)
  | some gnb =>
    ({ context with
        gnbList := context.gnbList.update { gnb with gnbId := gnbId, gnbIdPresence := true }
        gnbIdHash := rename context.gnbIdHash gnb.presentGnbId id gnbId },
      true)

def gnbUpdate (gnb : AmfGnb) : AmfContext × Bool :=
  ({ context with gnbList := context.gnbList.update gnb }, (context.gnbFindById gnb.id).isSome)

end AmfContext

inductive AmfOperation where
  | amfUeAdd (ranUeId : ℕ) (nasSecurityCanary : Bool)
  | amfUeRemove (id : ℕ)
  | amfUeSetSuci (id : ℕ) (suci : String)
  | amfUeSetSupi (id : ℕ) (supi : String)
  | amfUeUpdateGuti (id : ℕ) (guti : Guti5gs)
  | amfUeUpdate (amfUe : AmfUeContext)
  | gnbAdd (addr : String)
  | gnbRemove (id : ℕ)
  | gnbSetGnbId (id : ℕ) (gnbId : UInt32)
  | gnbUpdate (gnb : AmfGnb)

namespace AmfContext

def operate (context : AmfContext) : AmfOperation → AmfContext
  | .amfUeAdd ranUeId nasSecurityCanary =>
    ((context.amfUeAdd ranUeId nasSecurityCanary).map Prod.fst).getD context
  | .amfUeRemove id => (context.amfUeRemove id).1
  | .amfUeSetSuci id suci => (context.amfUeSetSuci id suci).1
  | .amfUeSetSupi id supi => (context.amfUeSetSupi id supi).1
  | .amfUeUpdateGuti id guti => (context.amfUeUpdateGuti id guti).1
  | .amfUeUpdate amfUe => (context.amfUeUpdate amfUe).1
  | .gnbAdd addr => ((context.gnbAdd addr).map Prod.fst).getD context
  | .gnbRemove id => (context.gnbRemove id).1
  | .gnbSetGnbId id gnbId => (context.gnbSetGnbId id gnbId).1
  | .gnbUpdate gnb => (context.gnbUpdate gnb).1

end AmfContext

end NextGCore.Amf
