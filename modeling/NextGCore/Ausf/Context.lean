import NextGCore.Ausf.EapAkaPrime
import NextGCore.Sbi.UeContext

/-!
# The context of the AUSF

The authentication contexts, one for each SUCI or SUPI that was presented, and
the store of SoR/UPU anchors, one for each SUPI, which outlives them.
-/

namespace NextGCore.Ausf

open Sbi

inductive AuthType where
  | fiveGAka
  | eapAkaPrime
  | eapTls
  deriving DecidableEq

inductive AuthResult where
  | authenticationSuccess
  | authenticationFailure
  | authenticationOngoing

structure AusfUe where
  id : ℕ
  ctxId : String
  suci : String
  supi : Option String
  servingNetworkName : Option String
  authType : AuthType
  authResult : AuthResult
  rand : Vector UInt8 16
  xresStar : Vector UInt8 16
  hxresStar : Vector UInt8 16
  kausf : Vector UInt8 32
  kseaf : Vector UInt8 32
  autn : Vector UInt8 16
  eapSession : Option EapAkaSession

namespace AusfUe

variable (primitives : AusfPrimitives)

def new (id : ℕ) (suci : String) : AusfUe where
  id := id
  ctxId := toString id
  suci := suci
  supi := none
  servingNetworkName := none
  authType := .fiveGAka
  authResult := .authenticationOngoing
  rand := .replicate 16 0
  xresStar := .replicate 16 0
  hxresStar := .replicate 16 0
  kausf := .replicate 32 0
  kseaf := .replicate 32 0
  autn := .replicate 16 0
  eapSession := none

def calculateHxresStar (ue : AusfUe) : AusfUe :=
  { ue with hxresStar := primitives.kdfHxresStar ue.rand ue.xresStar }

def calculateKseaf (ue : AusfUe) : AusfUe :=
  match ue.servingNetworkName with
  | some name => { ue with kseaf := primitives.kdfKseaf name ue.kausf }
  | none => ue

@[simp]
lemma calculateKseaf_kausf (ue : AusfUe) : (ue.calculateKseaf primitives).kausf = ue.kausf := by
  unfold calculateKseaf
  split
  · rfl
  · rfl

end AusfUe

instance : UeRecord AusfUe where
  id := AusfUe.id
  suci := AusfUe.suci
  supi := AusfUe.supi
  withSupi ue supi := { ue with supi := some supi }
  id_withSupi _ _ := rfl

inductive AnchorCounterError where
  | noAnchor
  | counterWrap

inductive CounterKind where
  | sor
  | upu
  deriving DecidableEq

abbrev AnchorCounter := { counter : UInt16 // counter ≠ 0 }

structure SorUpuAnchor where
  kausf : Vector UInt8 32
  counterSor : AnchorCounter
  counterUpu : AnchorCounter

lemma succ_ne_zero_of_ne_max {counter : UInt16} (notMax : counter ≠ 0xFFFF) :
  counter + 1 ≠ 0 := by
  intro wrapped
  apply notMax
  rw [← UInt16.toNat_inj] at wrapped ⊢
  have bound := counter.toNat_lt
  simp only [UInt16.toNat_add, UInt16.reduceToNat] at wrapped ⊢
  omega

namespace SorUpuAnchor

variable (anchor : SorUpuAnchor)

def new (kausf : Vector UInt8 32) : SorUpuAnchor :=
  ⟨kausf, ⟨1, by decide⟩, ⟨1, by decide⟩⟩

def refresh (kausf : Vector UInt8 32) : SorUpuAnchor :=
  if anchor.kausf = kausf then anchor
  else { kausf := kausf, counterSor := ⟨1, by decide⟩, counterUpu := ⟨1, by decide⟩ }

def counter : CounterKind → AnchorCounter
  | .sor => anchor.counterSor
  | .upu => anchor.counterUpu

def withCounter (value : AnchorCounter) : CounterKind → SorUpuAnchor
  | .sor => { anchor with counterSor := value }
  | .upu => { anchor with counterUpu := value }

def nextCounter (counter : AnchorCounter) :
  Except AnchorCounterError (UInt16 × AnchorCounter) :=
  if full : counter.val = 0xFFFF then .error .counterWrap
  else .ok (counter.val, ⟨counter.val + 1, succ_ne_zero_of_ne_max full⟩)

def next (kind : CounterKind) (anchor : SorUpuAnchor) :
  Except AnchorCounterError UInt16 × SorUpuAnchor :=
  match nextCounter (anchor.counter kind) with
  | .error problem => (.error problem, anchor)
  | .ok (value, advanced) => (.ok value, anchor.withCounter advanced kind)

def nextSorCounter := anchor.next .sor

def nextUpuCounter := anchor.next .upu

end SorUpuAnchor

abbrev AnchorStore := AList (fun _ : String => SorUpuAnchor)

namespace AnchorStore

def refresh (store : AnchorStore) (supi : String) (kausf : Vector UInt8 32) : AnchorStore :=
  match store.lookup supi with
  | some anchor => store.insert supi (anchor.refresh kausf)
  | none => store.insert supi (.new kausf)

def next (kind : CounterKind) (store : AnchorStore) (supi : String) :
  Except AnchorCounterError UInt16 × AnchorStore :=
  match store.lookup supi with
  | none => (.error .noAnchor, store)
  | some anchor => ((anchor.next kind).1, store.insert supi (anchor.next kind).2)

end AnchorStore

structure AusfContext where
  ues : UeContext AusfUe
  anchors : AnchorStore

namespace AusfContext

variable (context : AusfContext)

def init (maxUe : ℕ) : AusfContext :=
  ⟨UeContext.init maxUe, ∅⟩

def ueAdd (context : AusfContext) (suci : String) : Option (AusfContext × AusfUe) :=
  (context.ues.ueAdd (fun id => AusfUe.new id suci) (fun _ => rfl)).map fun (ues, ue) =>
    ({ context with ues := ues }, ue)

def ueUpdate (context : AusfContext) (ue : AusfUe) : AusfContext :=
  { context with ues := context.ues.ueUpdate ue }

def ueSetSupi (context : AusfContext) (id : ℕ) (supi : String) : AusfContext :=
  { context with ues := context.ues.ueSetSupi id supi }

def ueRemove (context : AusfContext) (id : ℕ) : AusfContext :=
  { context with ues := context.ues.ueRemove id }

def anchorRefresh (supi : String) (kausf : Vector UInt8 32) : AusfContext :=
  { context with anchors := context.anchors.refresh supi kausf }

def anchorNext (kind : CounterKind) (context : AusfContext) (supi : String) :
  Except AnchorCounterError UInt16 × AusfContext :=
  let (result, anchors) := AnchorStore.next kind context.anchors supi
  (result, { context with anchors := anchors })

def anchorNextSorCounter (supi : String) :=
  context.anchorNext .sor supi

def anchorNextUpuCounter (supi : String) :=
  context.anchorNext .upu supi

@[simp]
lemma anchorNext_ues (kind : CounterKind) (context : AusfContext) (supi : String) :
  (context.anchorNext kind supi).2.ues = context.ues := rfl

end AusfContext

open Crypt (Bytes)

variable {Value : Type} (supi : Option String)

structure ResynchronizationInfo where
  rand : String
  auts : String

inductive UdmAuthData where
  | fiveGAka (supi : Option String) (rand xresStar autn : Vector UInt8 16)
      (kausf : Vector UInt8 32)
  | eapAkaPrime (supi : Option String) (rand : Vector UInt8 16) (xres : Bytes)
      (autn ckPrime ikPrime : Vector UInt8 16)

abbrev UdmResult := ExceptT String (Except Ending)

def validateAvType (authType : String) (avType : Option String) : Except String Unit :=
  match avType with
  | none => .ok ()
  | some avType =>
    if authType = "5G_AKA" ∧ avType = "5G_HE_AKA" ∨
        authType = "EAP_AKA_PRIME" ∧ avType = "EAP_AKA_PRIME"
    then .ok ()
    else .error ("UDM avType '" ++ avType ++ "' inconsistent with authType '" ++ authType ++ "'")

def getHex (vector : Json) (field : String) : UdmResult Bytes :=
  match vector.getStr field with
  | none => throw ("No " ++ field ++ " in authentication vector")
  | some hex => ExceptT.lift (orPanic (hexToBytes hex))

def fiveGAkaData (vector : Json) : UdmResult UdmAuthData := do
  let rand ← getHex vector "rand"
  let xresStar ← getHex vector "xresStar"
  let autn ← getHex vector "autn"
  let kausf ← getHex vector "kausf"
  match exactOctets 16 rand, exactOctets 16 xresStar, exactOctets 16 autn, exactOctets 32 kausf with
  | some rand, some xresStar, some autn, some kausf =>
    return .fiveGAka supi rand xresStar autn kausf
  | _, _, _, _ => throw "Invalid authentication vector field lengths"

def eapAkaPrimeData (vector : Json) : UdmResult UdmAuthData := do
  let rand ← getHex vector "rand"
  let xres ← getHex vector "xres"
  let autn ← getHex vector "autn"
  let ckPrime ← getHex vector "ckPrime"
  let ikPrime ← getHex vector "ikPrime"
  match exactOctets 16 rand, exactOctets 16 autn, exactOctets 16 ckPrime,
      exactOctets 16 ikPrime with
  | some rand, some autn, some ckPrime, some ikPrime =>
    if xres = [] then throw "Invalid EAP-AKA' authentication vector field lengths"
    else return .eapAkaPrime supi rand xres autn ckPrime ikPrime
  | _, _, _, _ => throw "Invalid EAP-AKA' authentication vector field lengths"

def authenticationInfoResult (result : Json) : UdmResult UdmAuthData :=
  let supi := result.getStr "supi"
  let authType := (result.getStr "authType").getD "5G_AKA"
  match result.get "authenticationVector" with
  | none => throw "No authenticationVector in UDM response"
  | some vector =>
    match validateAvType authType (vector.getStr "avType") with
    | .error problem => throw problem
    | .ok () =>
      if authType = "5G_AKA" then fiveGAkaData supi vector
      else if authType = "EAP_AKA_PRIME" then eapAkaPrimeData supi vector
      else throw ("Unsupported auth type from UDM: " ++ authType)

def udmAuthData (answer : Answer) : UdmResult UdmAuthData :=
  match answer with
  | .error error => throw ("UDM request failed: " ++ error)
  | .ok response =>
    if response.status ≠ 200 ∧ response.status ≠ 201 then
      throw ("UDM returned status " ++ toString response.status)
    else
      match response.content with
      | .missing => throw "Empty UDM response body"
      | .malformed error => throw ("Invalid UDM response JSON: " ++ error)
      | .json result => authenticationInfoResult result

def OnlyPanics {Value : Type} (result : UdmResult Value) : Prop :=
  ∀ ending, result = .error ending → ending = .panic

lemma onlyPanics_throw (error : String) : OnlyPanics (throw error : UdmResult Value) := by
  intro ending failed
  cases failed

lemma onlyPanics_pure (value : Value) : OnlyPanics (pure value : UdmResult Value) := by
  intro ending failed
  cases failed

lemma onlyPanics_bind {Result : Type} {first : UdmResult Value}
  {next : Value → UdmResult Result} (now : OnlyPanics first)
  (later : ∀ value, OnlyPanics (next value)) : OnlyPanics (first >>= next) := by
  intro ending failed
  have run : (first >>= next) = ExceptT.bind first next := rfl
  rw [run, ExceptT.bind] at failed
  match first with
  | .error own =>
    obtain rfl : own = ending := Except.error.inj failed
    exact now own rfl
  | .ok (.error problem) => cases failed
  | .ok (.ok value) => exact later value ending failed

lemma onlyPanics_getHex (vector : Json) (field : String) :
  OnlyPanics (getHex vector field) := by
  unfold getHex
  split
  · exact onlyPanics_throw _
  · next hex present =>
      intro ending failed
      cases decoded : hexToBytes hex with
      | none =>
        rw [decoded] at failed
        exact (Except.error.inj failed).symm
      | some bytes =>
        rw [decoded] at failed
        cases failed

lemma onlyPanics_fiveGAkaData (vector : Json) : OnlyPanics (fiveGAkaData supi vector) := by
  unfold fiveGAkaData
  apply onlyPanics_bind (onlyPanics_getHex _ _); intro rand
  apply onlyPanics_bind (onlyPanics_getHex _ _); intro xresStar
  apply onlyPanics_bind (onlyPanics_getHex _ _); intro autn
  apply onlyPanics_bind (onlyPanics_getHex _ _); intro kausf
  split
  · exact onlyPanics_pure _
  · exact onlyPanics_throw _

lemma onlyPanics_eapAkaPrimeData (vector : Json) : OnlyPanics (eapAkaPrimeData supi vector) := by
  unfold eapAkaPrimeData
  apply onlyPanics_bind (onlyPanics_getHex _ _); intro rand
  apply onlyPanics_bind (onlyPanics_getHex _ _); intro xres
  apply onlyPanics_bind (onlyPanics_getHex _ _); intro autn
  apply onlyPanics_bind (onlyPanics_getHex _ _); intro ckPrime
  apply onlyPanics_bind (onlyPanics_getHex _ _); intro ikPrime
  split
  · split
    · exact onlyPanics_throw _
    · exact onlyPanics_pure _
  · exact onlyPanics_throw _

lemma udmAuthData_error {answer : Answer} {ending : Ending}
  (failed : udmAuthData answer = .error ending) : ending = .panic := by
  have panics : OnlyPanics (udmAuthData answer) := by
    unfold udmAuthData
    split
    · exact onlyPanics_throw _
    · split
      · exact onlyPanics_throw _
      · split
        · exact onlyPanics_throw _
        · exact onlyPanics_throw _
        · simp only [authenticationInfoResult]
          split
          · exact onlyPanics_throw _
          · split
            · exact onlyPanics_throw _
            · split
              · exact onlyPanics_fiveGAkaData _ _
              · split
                · exact onlyPanics_eapAkaPrimeData _ _
                · exact onlyPanics_throw _
  exact panics ending failed

end NextGCore.Ausf
