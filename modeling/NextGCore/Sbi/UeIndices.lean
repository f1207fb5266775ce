import NextGCore.Library.Machine
import NextGCore.Library.OwnedIndex
import NextGCore.Sbi.UeContext

/-!
# The indices of the UE contexts

Any number of UEs may share a SUPI, and `ue_remove`, `ue_update` and
`ue_set_supi` delete index entries by value, whoever they lead to.  Beside a
context stands the record of which UE each name was given to last; the indices
agree with it as long as no operation takes a name that leads to another UE.
-/

namespace NextGCore.Sbi

open Library Function Option

/-- Taking a SUPI leaves the number and the SUCI alone. -/
class LawfulUeRecord (Ue : Type) [UeRecord Ue] : Prop where
  supi_withSupi : ∀ (ue : Ue) supi, UeRecord.supi (UeRecord.withSupi ue supi) = some supi
  suci_withSupi : ∀ (ue : Ue) supi, UeRecord.suci (UeRecord.withSupi ue supi) = UeRecord.suci ue

inductive UeOperation (Ue : Type) where
  | add (suci : String)
  | setSupi (id : ℕ) (supi : String)
  | update (ue : Ue)
  | remove (id : ℕ)

def UeOperation.target {Ue : Type} [UeRecord Ue] : UeOperation Ue → Option ℕ
  | .add _ => none
  | .setSupi id _ => some id
  | .update ue => some (UeRecord.id ue)
  | .remove id => some id

structure UeOwners where
  suci : String → Option ℕ
  supi : String → Option ℕ

def UeOwners.none : UeOwners := ⟨fun _ => .none, fun _ => .none⟩

namespace UeContext

variable {Ue : Type} [UeRecord Ue] (context : UeContext Ue)

/-- One operation, with `new` for the record that `ue_add` builds. -/
def operate (new : ℕ → String → Ue) (numbered : ∀ id suci, UeRecord.id (new id suci) = id)
    (context : UeContext Ue) : UeOperation Ue → UeContext Ue
  | .add suci =>
    match context.ueAdd (fun id => new id suci) (fun id => numbered id suci) with
    | none => context
    | some (next, _) => next
  | .setSupi id supi => context.ueSetSupi id supi
  | .update ue => context.ueUpdate ue
  | .remove id => context.ueRemove id

/-- Adding a UE gives it both names, `ue_set_supi` a SUPI, and an update the
names in which the record differs from the one it replaces. -/
def ownersAfter (new : ℕ → String → Ue) (numbered : ∀ id suci, UeRecord.id (new id suci) = id)
    (owners : UeOwners) (context : UeContext Ue) : UeOperation Ue → UeOwners
  | .add suci =>
    match context.ueAdd (fun id => new id suci) (fun id => numbered id suci) with
    | none => owners
    | some (_, ue) =>
      { suci := assign owners.suci (UeRecord.id ue) (some (UeRecord.suci ue))
        supi := assign owners.supi (UeRecord.id ue) (UeRecord.supi ue) }
  | .setSupi id supi =>
    match context.ueFindById id with
    | none => owners
    | some _ => { owners with supi := assign owners.supi id (some supi) }
  | .update ue =>
    match context.ueFindById (UeRecord.id ue) with
    | none => owners
    | some existing =>
      { suci :=
          if UeRecord.suci existing = UeRecord.suci ue then owners.suci
          else assign owners.suci (UeRecord.id ue) (some (UeRecord.suci ue))
        supi :=
          if UeRecord.supi existing = UeRecord.supi ue then owners.supi
          else assign owners.supi (UeRecord.id ue) (UeRecord.supi ue) }
  | .remove _ => owners

def OwnSupi (ue : Ue) : Prop :=
  ∀ supi ∈ UeRecord.supi ue, ∀ found ∈ context.ueFindBySupi supi, UeRecord.id found = UeRecord.id ue

def OwnSuci (ue : Ue) : Prop :=
  ∀ found ∈ context.ueFindBySuci (UeRecord.suci ue), UeRecord.id found = UeRecord.id ue

/-- An operation takes from its UE only names that lead to no other UE, and
does not change a SUCI, which no operation indexes again. -/
def TakesOwn : UeOperation Ue → Prop
  | .add _ => True
  | .setSupi id supi =>
    ∀ ue ∈ context.ueFindById id, UeRecord.supi ue ≠ some supi → context.OwnSupi ue
  | .update ue =>
    ∀ existing ∈ context.ueFindById (UeRecord.id ue), UeRecord.suci existing = UeRecord.suci ue ∧
        (UeRecord.supi existing ≠ UeRecord.supi ue → context.OwnSupi existing)
  | .remove id => ∀ ue ∈ context.ueFindById id, context.OwnSupi ue ∧ context.OwnSuci ue

instance decidableOwnSupi (context : UeContext Ue) (ue : Ue) : Decidable (context.OwnSupi ue) :=
  inferInstanceAs (Decidable (∀ _ ∈ _, ∀ _ ∈ _, _ = _))

instance decidableOwnSuci (context : UeContext Ue) (ue : Ue) : Decidable (context.OwnSuci ue) :=
  inferInstanceAs (Decidable (∀ _ ∈ _, _ = _))

instance decidableTakesOwn (context : UeContext Ue) :
    (operation : UeOperation Ue) → Decidable (context.TakesOwn operation)
  | .add _ => inferInstanceAs (Decidable True)
  | .setSupi _ _ => inferInstanceAs (Decidable (∀ _ ∈ _, _ → _))
  | .update _ => inferInstanceAs (Decidable (∀ _ ∈ _, _ ∧ (_ → _)))
  | .remove _ => inferInstanceAs (Decidable (∀ _ ∈ _, _ ∧ _))

/-- Every live UE is found by the names it was the last to be given, and what
is found is live. -/
structure Coherent (context : UeContext Ue) (owners : UeOwners) : Prop where
  finds_supi : ∀ id ue supi, context.ueFindById id = some ue →
    UeRecord.supi ue = some supi → owners.supi supi = some id →
    context.ueFindBySupi supi = some ue
  finds_suci : ∀ id ue, context.ueFindById id = some ue → owners.suci (UeRecord.suci ue) = some id →
    context.ueFindBySuci (UeRecord.suci ue) = some ue
  live_supi : ∀ supi ue, context.ueFindBySupi supi = some ue →
    context.ueFindById (UeRecord.id ue) = some ue
  live_suci : ∀ suci ue, context.ueFindBySuci suci = some ue →
    context.ueFindById (UeRecord.id ue) = some ue

/-- A UE other than `target` is found by the names that found it, but for one
that now finds `target`. -/
def Spares (find find' : String → Option Ue) (target : ℕ) : Prop :=
  ∀ name ue, find name = some ue → UeRecord.id ue ≠ target →
    find' name = some ue ∨ ∃ taker, find' name = some taker ∧ UeRecord.id taker = target

def SparesOthers (next : UeContext Ue) (operation : UeOperation Ue) : Prop :=
  ∀ target ∈ operation.target, Spares context.ueFindBySupi next.ueFindBySupi target ∧
      Spares context.ueFindBySuci next.ueFindBySuci target

lemma ueAdd_eq {context next : UeContext Ue} {build : ℕ → Ue}
  {built : ∀ id, UeRecord.id (build id) = id} {ue : Ue}
  (added : context.ueAdd build built = some (next, ue)) :
  UeRecord.id ue = context.ueList.next ∧ next.ueList.next = context.ueList.next + 1 ∧
    next.ueFindById = Function.update context.ueFindById context.ueList.next (some ue) ∧
    next.suciHash.lookup =
      assign context.suciHash.lookup context.ueList.next (some (UeRecord.suci ue)) ∧
    next.supiHash.lookup =
      assign context.supiHash.lookup context.ueList.next (UeRecord.supi ue) := by
  obtain ⟨isNew, counted, stored⟩ := ueAdd_cases added
  unfold ueAdd at added
  split at added
  · cases added
  · obtain ⟨rfl, rfl⟩ := Prod.mk.injEq _ _ _ _ ▸ some.inj added
    refine ⟨built _, counted, ?_, lookup_insert_eq _ _ _, ?_⟩
    · funext id
      rw [stored, update_apply]
    · cases UeRecord.supi (build context.ueList.next) with
      | none => rfl
      | some supi => exact lookup_insert_eq _ _ _

lemma ueRemove_eq {context : UeContext Ue} {id : ℕ} {ue : Ue}
  (found : context.ueFindById id = some ue) :
  (context.ueRemove id).ueFindById = Function.update context.ueFindById id none ∧
    (context.ueRemove id).suciHash.lookup =
      forget context.suciHash.lookup (some (UeRecord.suci ue)) ∧
    (context.ueRemove id).supiHash.lookup =
      forget context.supiHash.lookup (UeRecord.supi ue) := by
  refine ⟨?_, ?_⟩
  · funext other
    rw [ueFindById_ueRemove, update_apply]
  · unfold ueRemove
    rw [found]
    refine ⟨lookup_erase_eq _ _, ?_⟩
    cases name : UeRecord.supi ue with
    | none => simp only [name]; rfl
    | some supi => simp only [name]; exact lookup_erase_eq _ _

lemma ueSetSupi_eq {context : UeContext Ue} {id : ℕ} {supi : String} {ue : Ue}
  (found : context.ueFindById id = some ue) :
  (context.ueSetSupi id supi).ueFindById =
      Function.update context.ueFindById id (some (UeRecord.withSupi ue supi)) ∧
    (context.ueSetSupi id supi).suciHash = context.suciHash ∧
    (context.ueSetSupi id supi).supiHash.lookup =
      assign (forget context.supiHash.lookup (UeRecord.supi ue)) id (some supi) := by
  refine ⟨?_, ?_⟩
  · funext other
    rw [ueFindById_ueSetSupi, update_apply]
    by_cases same : other = id
    · rw [if_pos same, if_pos same, same, found]
      rfl
    · rw [if_neg same, if_neg same]
  · unfold ueSetSupi
    rw [found]
    refine ⟨rfl, ?_⟩
    cases name : UeRecord.supi ue with
    | none => simp only [name]; exact lookup_insert_eq _ _ _
    | some old =>
      simp only [name]
      rw [lookup_insert_eq, lookup_erase_eq]

lemma ueUpdate_eq {context : UeContext Ue} {ue existing : Ue}
  (found : context.ueFindById (UeRecord.id ue) = some existing) :
  (context.ueUpdate ue).ueFindById =
      Function.update context.ueFindById (UeRecord.id ue) (some ue) ∧
    (context.ueUpdate ue).suciHash = context.suciHash ∧
    (context.ueUpdate ue).supiHash.lookup =
      if UeRecord.supi existing = UeRecord.supi ue then context.supiHash.lookup
      else
        assign (forget context.supiHash.lookup (UeRecord.supi existing))
          (UeRecord.id ue) (UeRecord.supi ue) := by
  refine ⟨?_, ?_⟩
  · funext other
    rw [ueFindById_ueUpdate, update_apply]
    by_cases same : other = UeRecord.id ue
    · rw [if_pos same, if_pos same, same, found]
      rfl
    · rw [if_neg same, if_neg same]
  · unfold ueUpdate
    rw [found]
    refine ⟨rfl, ?_⟩
    by_cases same : UeRecord.supi existing = UeRecord.supi ue
    · simp only [if_pos same]
    · simp only [if_neg same]
      cases UeRecord.supi existing <;> cases UeRecord.supi ue <;>
        simp only [lookup_insert_eq, lookup_erase_eq] <;> rfl

/-- Both indices agree with the owners, and no name was given to a UE to come. -/
structure Indexed (context : UeContext Ue) (owners : UeOwners) : Prop where
  supi : OwnedIndex context.ueFindById UeRecord.supi context.supiHash.lookup owners.supi
  suci : OwnedIndex context.ueFindById (fun ue => some (UeRecord.suci ue))
    context.suciHash.lookup owners.suci
  supiIssued : ∀ supi id, owners.supi supi = some id → id < context.ueList.next
  suciIssued : ∀ suci id, owners.suci suci = some id → id < context.ueList.next

lemma indexed_init (maxUe : ℕ) : Indexed (init maxUe : UeContext Ue) .none := by
  have nobody : (init maxUe : UeContext Ue).ueFindById = fun _ => none :=
    funext fun id => ueFindById_init maxUe id
  constructor
  case supi | suci =>
    rw [nobody]
    exact .empty
  all_goals
    intro _ _ given
    cases given

lemma lt_next_of_found {context : UeContext Ue} {id : ℕ} {ue : Ue}
  (found : context.ueFindById id = some ue) : id < context.ueList.next := by
  by_contra beyond
  rw [ueFindById_fresh (Nat.le_of_not_lt beyond)] at found
  cases found

lemma find_eq_some_iff {context : UeContext Ue} {hash : AList (fun _ : String => ℕ)}
  {name : String} {ue : Ue} :
  (hash.lookup name).bind context.ueFindById = some ue ↔
    hash.lookup name = some (UeRecord.id ue) ∧ context.ueFindById (UeRecord.id ue) = some ue := by
  constructor
  · intro found
    obtain ⟨id, entry, stored⟩ := bind_eq_some_iff.mp found
    obtain rfl := id_of_ueFindById stored
    exact ⟨entry, stored⟩
  · rintro ⟨entry, stored⟩
    rw [entry]
    exact stored

lemma ownKey_of_find {context : UeContext Ue} {hash : AList (fun _ : String => ℕ)}
  {id : ℕ} {key : Option String}
  (own : ∀ name ∈ key, ∀ found ∈ (hash.lookup name).bind context.ueFindById,
    UeRecord.id found = id) :
  OwnedIndex.OwnKey context.ueFindById hash.lookup id key := by
  intro name other isKey entry
  cases stored : context.ueFindById other with
  | none => exact .inr rfl
  | some found =>
    obtain rfl := id_of_ueFindById stored
    exact .inl (own name isKey found (find_eq_some_iff.mpr ⟨entry, stored⟩))

namespace Indexed

variable {context : UeContext Ue} {owners : UeOwners}

lemma add {next : UeContext Ue} {build : ℕ → Ue}
  {built : ∀ id, UeRecord.id (build id) = id} {ue : Ue} (indexed : Indexed context owners)
  (added : context.ueAdd build built = some (next, ue)) :
  Indexed next
    { suci := assign owners.suci (UeRecord.id ue) (some (UeRecord.suci ue))
      supi := assign owners.supi (UeRecord.id ue) (UeRecord.supi ue) } := by
  obtain ⟨numbered, counted, table, suciHash, supiHash⟩ := ueAdd_eq added
  rw [numbered]
  constructor
  · rw [table, supiHash]
    apply indexed.supi.give
    intro supi entry
    exact absurd (indexed.supiIssued supi _ (indexed.supi.owned entry)) (Nat.lt_irrefl _)
  · rw [table, suciHash]
    apply indexed.suci.give
    intro suci entry
    exact absurd (indexed.suciIssued suci _ (indexed.suci.owned entry)) (Nat.lt_irrefl _)
  · rw [counted]
    exact assign_lt indexed.supiIssued (Nat.le_succ _) (Nat.lt_succ_self _) _
  · rw [counted]
    exact assign_lt indexed.suciIssued (Nat.le_succ _) (Nat.lt_succ_self _)
      (some (UeRecord.suci ue))

lemma remove (indexed : Indexed context owners) {id : ℕ}
  (takesOwn : context.TakesOwn (.remove id)) : Indexed (context.ueRemove id) owners := by
  cases found : context.ueFindById id with
  | none =>
    have unchanged : context.ueRemove id = context := by
      unfold ueRemove
      rw [found]
    rwa [unchanged]
  | some ue =>
    obtain ⟨table, suciHash, supiHash⟩ := ueRemove_eq found
    obtain ⟨ownSupi, ownSuci⟩ := takesOwn ue found
    have isId : UeRecord.id ue = id := id_of_ueFindById found
    constructor
    · rw [table, supiHash]
      exact indexed.supi.remove (ownKey_of_find (isId ▸ ownSupi))
    · rw [table, suciHash]
      apply indexed.suci.remove
      apply ownKey_of_find
      intro suci isSuci
      obtain rfl := some.inj isSuci
      exact isId ▸ ownSuci
    · simpa using indexed.supiIssued
    · simpa using indexed.suciIssued

lemma update (indexed : Indexed context owners) {ue existing : Ue}
  (found : context.ueFindById (UeRecord.id ue) = some existing)
  (takesOwn : context.TakesOwn (.update ue)) :
  Indexed (context.ueUpdate ue)
    { suci := owners.suci
      supi :=
        if UeRecord.supi existing = UeRecord.supi ue then owners.supi
        else assign owners.supi (UeRecord.id ue) (UeRecord.supi ue) } := by
  obtain ⟨table, suciHash, supiHash⟩ := ueUpdate_eq found
  obtain ⟨sameSuci, ownSupi⟩ := takesOwn existing found
  have isId : UeRecord.id existing = UeRecord.id ue := id_of_ueFindById found
  constructor
  · rw [table, supiHash]
    by_cases sameSupi : UeRecord.supi existing = UeRecord.supi ue
    · simp only [if_pos sameSupi]
      exact indexed.supi.restore found sameSupi.symm
    · simp only [if_neg sameSupi]
      apply indexed.supi.rekey found
      intro different
      exact ownKey_of_find (isId ▸ ownSupi different)
  · rw [table, suciHash]
    apply indexed.suci.restore found
    rw [sameSuci]
  · rw [ueUpdate_next]
    by_cases sameSupi : UeRecord.supi existing = UeRecord.supi ue
    · simp only [if_pos sameSupi]
      exact indexed.supiIssued
    · simp only [if_neg sameSupi]
      exact assign_lt indexed.supiIssued (Nat.le_refl _) (lt_next_of_found found) _
  · simpa using indexed.suciIssued

lemma setSupi [LawfulUeRecord Ue] (indexed : Indexed context owners) {id : ℕ}
  {supi : String} {ue : Ue}
  (found : context.ueFindById id = some ue)
  (takesOwn : context.TakesOwn (.setSupi id supi)) :
  Indexed (context.ueSetSupi id supi)
    { owners with supi := assign owners.supi id (some supi) } := by
  obtain ⟨table, suciHash, supiHash⟩ := @ueSetSupi_eq _ _ _ _ supi _ found
  have isId : UeRecord.id ue = id := id_of_ueFindById found
  have newSupi := LawfulUeRecord.supi_withSupi ue supi
  constructor
  · rw [table, supiHash, ← newSupi]
    apply indexed.supi.rekey found
    intro different
    rw [newSupi] at different
    exact ownKey_of_find (isId ▸ takesOwn ue found different)
  · rw [table, suciHash]
    apply indexed.suci.restore found
    rw [LawfulUeRecord.suci_withSupi]
  · rw [ueSetSupi_next]
    exact assign_lt indexed.supiIssued (Nat.le_refl _) (lt_next_of_found found) (some supi)
  · simpa using indexed.suciIssued

lemma operate [LawfulUeRecord Ue] {new : ℕ → String → Ue}
  {numbered : ∀ id suci, UeRecord.id (new id suci) = id} (indexed : Indexed context owners)
  {operation : UeOperation Ue} (takesOwn : context.TakesOwn operation) :
  Indexed (context.operate new numbered operation)
    (ownersAfter new numbered owners context operation) := by
  cases operation with
  | add suci =>
    unfold UeContext.operate ownersAfter
    cases added : context.ueAdd (fun id => new id suci) (fun id => numbered id suci) with
    | none => simpa only [added] using indexed
    | some result => simpa only [added] using indexed.add added
  | setSupi id supi =>
    unfold UeContext.operate ownersAfter
    cases found : context.ueFindById id with
    | none =>
      have unchanged : context.ueSetSupi id supi = context := by
        unfold ueSetSupi
        rw [found]
      simpa only [found, unchanged] using indexed
    | some ue => simpa only [found] using indexed.setSupi found takesOwn
  | update ue =>
    unfold UeContext.operate ownersAfter
    cases found : context.ueFindById (UeRecord.id ue) with
    | none =>
      have unchanged : context.ueUpdate ue = context := by
        unfold ueUpdate
        rw [found]
      simpa only [found, unchanged] using indexed
    | some existing =>
      have kept := indexed.update found takesOwn
      simpa only [found, if_pos (takesOwn existing found).1] using kept
  | remove id => exact indexed.remove takesOwn

lemma coherent (indexed : Indexed context owners) : Coherent context owners where
  finds_supi id ue supi found bears owns := by
    obtain rfl := id_of_ueFindById found
    exact find_eq_some_iff.mpr ⟨indexed.supi.finds found bears owns, found⟩
  finds_suci id ue found owns := by
    obtain rfl := id_of_ueFindById found
    exact find_eq_some_iff.mpr ⟨indexed.suci.finds found rfl owns, found⟩
  live_supi _ _ found := (find_eq_some_iff.mp found).2
  live_suci _ _ found := (find_eq_some_iff.mp found).2

end Indexed

lemma spares_of_owned {context next : UeContext Ue} {keyOf : Ue → Option String}
  {hash hash' : AList (fun _ : String => ℕ)} {owner owner' : String → Option ℕ} {target : ℕ}
  (before : OwnedIndex context.ueFindById keyOf hash.lookup owner)
  (after : OwnedIndex next.ueFindById keyOf hash'.lookup owner')
  (frame : ∀ other, other ≠ target → next.ueFindById other = context.ueFindById other)
  (given : ∀ name, owner' name = owner name ∨
    ∃ taker, next.ueFindById target = some taker ∧ keyOf taker = some name ∧
      owner' name = some target) :
  Spares (fun name => (hash.lookup name).bind context.ueFindById)
    (fun name => (hash'.lookup name).bind next.ueFindById) target := by
  intro name ue found different
  obtain ⟨entry, stored⟩ := find_eq_some_iff.mp found
  have unchanged : next.ueFindById (UeRecord.id ue) = some ue := by
    rw [frame _ different]
    exact stored
  rcases given name with kept | ⟨taker, live, bears, owns⟩
  · left
    exact find_eq_some_iff.mpr ⟨before.stillFound after entry stored unchanged kept, unchanged⟩
  · right
    have isTarget : UeRecord.id taker = target := id_of_ueFindById live
    refine ⟨taker, find_eq_some_iff.mpr ⟨?_, isTarget ▸ live⟩, isTarget⟩
    rw [isTarget]
    exact after.finds live bears owns

section

variable {new : ℕ → String → Ue} {numbered : ∀ id suci, UeRecord.id (new id suci) = id}
  {context : UeContext Ue} {owners : UeOwners} {operation : UeOperation Ue} {target : ℕ}

lemma operate_frame {other : ℕ} (isTarget : operation.target = some target)
  (different : other ≠ target) :
  (context.operate new numbered operation).ueFindById other = context.ueFindById other := by
  cases operation with
  | add suci => cases isTarget
  | setSupi id supi =>
    obtain rfl := some.inj isTarget
    exact (context.ueFindById_ueSetSupi id other supi).trans (if_neg different)
  | update ue =>
    obtain rfl := some.inj isTarget
    exact (context.ueFindById_ueUpdate ue other).trans (if_neg different)
  | remove id =>
    obtain rfl := some.inj isTarget
    exact (context.ueFindById_ueRemove id other).trans (if_neg different)

lemma ownersAfter_supi [LawfulUeRecord Ue] (isTarget : operation.target = some target)
  (name : String) :
  (ownersAfter new numbered owners context operation).supi name = owners.supi name ∨
    ∃ taker, (context.operate new numbered operation).ueFindById target = some taker ∧
      UeRecord.supi taker = some name ∧
      (ownersAfter new numbered owners context operation).supi name = some target := by
  cases operation with
  | add suci => cases isTarget
  | setSupi id supi =>
    obtain rfl := some.inj isTarget
    unfold UeContext.operate ownersAfter
    cases found : context.ueFindById id with
    | none => exact .inl (by simp only [found])
    | some ue =>
      simp only [found]
      by_cases same : supi = name
      · subst same
        right
        refine ⟨UeRecord.withSupi ue supi, ?_, LawfulUeRecord.supi_withSupi ue supi,
          assign_self _ _ _⟩
        rw [(ueSetSupi_eq found).1, update_self]
      · left
        apply assign_of_ne
        intro equal
        exact same (some.inj equal)
  | update ue =>
    obtain rfl := some.inj isTarget
    unfold UeContext.operate ownersAfter
    cases found : context.ueFindById (UeRecord.id ue) with
    | none => exact .inl (by simp only [found])
    | some existing =>
      simp only [found]
      by_cases sameSupi : UeRecord.supi existing = UeRecord.supi ue
      · left
        rw [if_pos sameSupi]
      · rw [if_neg sameSupi]
        by_cases same : UeRecord.supi ue = some name
        · right
          refine ⟨ue, ?_, same, ?_⟩
          · rw [(ueUpdate_eq found).1, update_self]
          · rw [same, assign_self]
        · left
          exact assign_of_ne same
  | remove id => exact .inl rfl

lemma ownersAfter_suci (takesOwn : context.TakesOwn operation)
  (isTarget : operation.target = some target) :
  (ownersAfter new numbered owners context operation).suci = owners.suci := by
  cases operation with
  | add suci => cases isTarget
  | setSupi id supi =>
    unfold ownersAfter
    cases found : context.ueFindById id <;> simp only [found]
  | update ue =>
    unfold ownersAfter
    cases found : context.ueFindById (UeRecord.id ue) with
    | none => simp only [found]
    | some existing => simp only [found, if_pos (takesOwn existing found).1]
  | remove id => rfl

lemma Indexed.sparesOthers [LawfulUeRecord Ue] (indexed : Indexed context owners)
  (takesOwn : context.TakesOwn operation) :
  SparesOthers context (context.operate new numbered operation) operation := by
  intro target isTarget
  have after : Indexed (context.operate new numbered operation) _ := indexed.operate takesOwn
  have frame : ∀ other, other ≠ target →
      (context.operate new numbered operation).ueFindById other = context.ueFindById other :=
    fun _ different => operate_frame isTarget different
  constructor
  · exact spares_of_owned indexed.supi after.supi frame (ownersAfter_supi isTarget)
  · apply spares_of_owned indexed.suci after.suci frame
    intro name
    exact .inl (congrFun (ownersAfter_suci takesOwn isTarget) name)

end

def withOwners {Context : Type} (ues : Context → UeContext Ue)
  (step : Context → UeOperation Ue → Context) (new : ℕ → String → Ue)
  (numbered : ∀ id suci, UeRecord.id (new id suci) = id) :
  Machine (Context × UeOwners) (UeOperation Ue) Unit :=
  Machine.observed ⟨fun context operation => (step context operation, ())⟩
    fun owners context operation _ => ownersAfter new numbered owners (ues context) operation

lemma coherent_of_takesOwn [LawfulUeRecord Ue] {Context : Type} (ues : Context → UeContext Ue)
  {step : Context → UeOperation Ue → Context} {new : ℕ → String → Ue}
  {numbered : ∀ id suci, UeRecord.id (new id suci) = id}
  (operates : ∀ context operation,
    ues (step context operation) = (ues context).operate new numbered operation)
  {start : Context} (initially : Indexed (ues start) .none) {operations : List (UeOperation Ue)}
  (along : (withOwners ues step new numbered).Along
    (fun joint operation => (ues joint.1).TakesOwn operation) (start, .none) operations) :
  ∀ context owners,
    (withOwners ues step new numbered).run (start, .none) operations = (context, owners) →
    Coherent (ues context) owners ∧ ∀ operation, (ues context).TakesOwn operation →
        SparesOthers (ues context) (ues (step context operation)) operation := by
  have kept : ∀ (joint : Context × UeOwners) operation,
      Indexed (ues joint.1) joint.2 → (ues joint.1).TakesOwn operation →
        Indexed (ues (step joint.1 operation))
          (ownersAfter new numbered joint.2 (ues joint.1) operation) := by
    intro joint operation indexed takesOwn
    rw [operates]
    exact indexed.operate takesOwn
  intro context owners reached
  have indexed : Indexed (ues context) owners := by
    have atEnd := (withOwners ues step new numbered).invariant_run kept initially along
    rwa [reached] at atEnd
  refine ⟨indexed.coherent, ?_⟩
  intro operation takesOwn
  rw [operates]
  exact indexed.sparesOthers takesOwn

end UeContext

end NextGCore.Sbi
