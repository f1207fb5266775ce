import NextGCore.Ausf.Context
import NextGCore.Sbi.UeIndices
import NextGCore.Udm.Context

/-!
# The UE indices of the AUSF and of the UDM

Both contexts under any sequence of additions, updates, changes of SUPI and
removals.  A name that is deleted while it leads to another UE makes that UE
unfindable; where this never happens the indices stay coherent.
-/

namespace NextGCore

open Library Sbi UeContext

instance Ausf.lawfulAusfUe : LawfulUeRecord Ausf.AusfUe where
  supi_withSupi _ _ := rfl
  suci_withSupi _ _ := rfl

instance Udm.lawfulUdmUe : LawfulUeRecord Udm.UdmUe where
  supi_withSupi _ _ := rfl
  suci_withSupi _ _ := rfl

namespace Ausf.AusfContext

def operate (context : AusfContext) : UeOperation AusfUe → AusfContext
  | .add suci =>
    match context.ueAdd suci with
    | none => context
    | some (next, _) => next
  | .setSupi id supi => context.ueSetSupi id supi
  | .update ue => context.ueUpdate ue
  | .remove id => context.ueRemove id

lemma operate_ues (context : AusfContext) (operation : UeOperation AusfUe) :
  (context.operate operation).ues =
    context.ues.operate AusfUe.new (fun _ _ => rfl) operation := by
  cases operation with
  | add suci =>
    unfold operate UeContext.operate ueAdd
    cases added : context.ues.ueAdd (fun id => AusfUe.new id suci) (fun _ => rfl) <;>
      simp only [added, Option.map_none, Option.map_some]
  | setSupi id supi | update ue | remove id => rfl

def ueMachine : Machine (AusfContext × UeOwners) (UeOperation AusfUe) Unit :=
  withOwners AusfContext.ues operate AusfUe.new (fun _ _ => rfl)

end Ausf.AusfContext

namespace Udm.UdmContext

variable (deconcealSuci : String → Option String)

def operate (context : UdmContext) : UeOperation UdmUe → UdmContext
  | .add suci =>
    match context.ueAdd deconcealSuci suci with
    | none => context
    | some (next, _) => next
  | .setSupi id supi => context.ueSetSupi id supi
  | .update ue => context.ueUpdate ue
  | .remove id => context.ueRemove id

lemma operate_eq (context : UdmContext) (operation : UeOperation UdmUe) :
  operate deconcealSuci context operation =
    UeContext.operate (fun id suci => UdmUe.new id suci (deconcealSuci suci))
      (fun _ _ => rfl) context operation := by
  cases operation with
  | add suci =>
    unfold operate UeContext.operate UdmContext.ueAdd
    cases added : UeContext.ueAdd context
        (fun id => UdmUe.new id suci (deconcealSuci suci)) (fun _ => rfl) <;>
      simp only [added]
  | setSupi id supi | update ue | remove id => rfl

def ueMachine : Machine (UdmContext × UeOwners) (UeOperation UdmUe) Unit :=
  withOwners (fun context => context) (operate deconcealSuci)
    (fun id suci => UdmUe.new id suci (deconcealSuci suci)) (fun _ _ => rfl)

end Udm.UdmContext

open Ausf Udm

/-- In every run of either context whose operations delete only names that lead
to the UE they take them from, each live UE is found by the names it was the
last to be given, what is found is live, and no operation on one UE makes
another unfindable. -/
theorem ue_indices_coherent (maxUe : ℕ) (deconcealSuci : String → Option String) : (∀ operations,
    AusfContext.ueMachine.Along (fun joint operation => joint.1.ues.TakesOwn operation)
      (AusfContext.init maxUe, .none) operations →
    ∀ context owners, AusfContext.ueMachine.run (AusfContext.init maxUe, .none) operations =
        (context, owners) →
      context.ues.Coherent owners ∧ ∀ operation, context.ues.TakesOwn operation →
          context.ues.SparesOthers (context.operate operation).ues operation) ∧
  (∀ operations, (UdmContext.ueMachine deconcealSuci).Along
      (fun joint operation => joint.1.TakesOwn operation)
      (UeContext.init maxUe, .none) operations →
    ∀ context owners,
      (UdmContext.ueMachine deconcealSuci).run (UeContext.init maxUe, .none) operations =
        (context, owners) →
      context.Coherent owners ∧ ∀ operation, context.TakesOwn operation →
          context.SparesOthers (UdmContext.operate deconcealSuci context operation)
            operation) := by
  constructor
  · intro operations along
    exact coherent_of_takesOwn AusfContext.ues AusfContext.operate_ues
      (indexed_init maxUe) along
  · intro operations along
    exact coherent_of_takesOwn id (UdmContext.operate_eq deconcealSuci)
      (indexed_init maxUe) along

/-- Two UEs of one subscriber; the second is removed, which is the owner of
the SUPI, and then the first. -/
def ownRemovals (Ue : Type) : List (UeOperation Ue) :=
  [.add "suci-1", .setSupi 1 "imsi-1", .add "suci-2", .setSupi 2 "imsi-1", .remove 2, .remove 1]

theorem ue_indices_coherent_sample :
  (AusfContext.ueMachine.run (AusfContext.init 8, .none) (ownRemovals AusfUe)).1.ues.Coherent
      (AusfContext.ueMachine.run (AusfContext.init 8, .none) (ownRemovals AusfUe)).2 ∧
    Coherent
      ((UdmContext.ueMachine some).run (UeContext.init 8, .none) (ownRemovals UdmUe)).1
      ((UdmContext.ueMachine some).run (UeContext.init 8, .none) (ownRemovals UdmUe)).2 :=
  ⟨((ue_indices_coherent 8 some).1 (ownRemovals AusfUe) (by decide) _ _ rfl).1,
    ((ue_indices_coherent 8 some).2 (ownRemovals UdmUe) (by decide) _ _ rfl).1⟩

def sharedRemoval (Ue : Type) : List (UeOperation Ue) :=
  [.add "suci-1", .setSupi 1 "imsi-1", .add "suci-2", .setSupi 2 "imsi-1", .remove 1]

/-- The second UE is live and was given the SUPI last, and is not found by it. -/
theorem shared_supi_lost : (¬ (AusfContext.ueMachine.run (AusfContext.init 8, .none)
        (sharedRemoval AusfUe)).1.ues.Coherent
      (AusfContext.ueMachine.run (AusfContext.init 8, .none) (sharedRemoval AusfUe)).2) ∧
    ¬ Coherent
      ((UdmContext.ueMachine some).run (UeContext.init 8, .none) (sharedRemoval UdmUe)).1
      ((UdmContext.ueMachine some).run (UeContext.init 8, .none) (sharedRemoval UdmUe)).2 := by
  constructor
  · intro coherent
    have found := coherent.finds_supi 2 _ "imsi-1" rfl rfl rfl
    exact absurd (congrArg Option.isSome found) (by decide)
  · intro coherent
    have found := coherent.finds_supi 2 _ "imsi-1" rfl rfl rfl
    exact absurd (congrArg Option.isSome found) (by decide)

end NextGCore
