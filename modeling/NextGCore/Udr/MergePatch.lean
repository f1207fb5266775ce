import NextGCore.Sbi.Json

/-!
# Merge patches in the UDR

`merge_patch` of `data_store.rs` against the `MergePatch` of RFC 7396.  The code gives a new
member the value null and patches that; the RFC patches a target that is undefined.
-/

namespace NextGCore.Udr

open Library Sbi List Option Json Members

mutual

def mergePatch (target : Json) : Json → Json
  | .object members => .object (mergeMembers target.members members)
  | patch => patch

/-- The loop over the members of the patch: `remove`, or `entry(k).or_insert(Value::Null)`. -/
def mergeMembers (target : List (String × Json)) : List (String × Json) → List (String × Json)
  | [] => target
  | member :: rest =>
    mergeMembers
      (if member.2.isNull then remove target member.1
      else
        insert target member.1
          (mergePatch ((Members.get target member.1).getD .null) member.2))
      rest

end

def targetMembers : Option Json → List (String × Json)
  | some (.object members) => members
  | _ => []

mutual

/-- `MergePatch(Target, Patch)` of RFC 7396, where the target may be undefined. -/
def rfcMergePatch (target : Option Json) : Json → Json
  | .object members => .object (rfcMembers (targetMembers target) members)
  | patch => patch

def rfcMembers (target : List (String × Json)) : List (String × Json) → List (String × Json)
  | [] => target
  | member :: rest =>
    rfcMembers
      (match member.2, Members.get target member.1 with
      | .null, some _ => remove target member.1
      | .null, none => target
      | _, given => insert target member.1 (rfcMergePatch given member.2))
      rest

end

/-- The patch says something of the value at the path: a member of that name, or a value that is
no object and takes the place of all. -/
def Names : List String → Json → Prop
  | [], _ => True
  | name :: path, .object members =>
    match Members.get members name with
    | none => False
    | some value => Names path value
  | _ :: _, _ => True

def NotObject (value : Option Json) : Prop := ∀ members, value ≠ some (.object members)

variable {target patch value : Json} {members given : List (String × Json)} {name : String}
  {path inner : List String}

lemma get_object (members : List (String × Json)) (name : String) :
  (Json.object members).get name = Members.get members name := by
  change members.lookup name = _
  induction members with
  | nil => rfl
  | cons member rest ih =>
    rw [lookup_cons, Members.get, ih]
    by_cases same : member.1 = name
    · rw [if_pos same, same, beq_self_eq_true]
    · rw [if_neg same, beq_false_of_ne (Ne.symm same)]

lemma pointer_cons (members : List (String × Json)) (name : String) (path : List String) :
  (Json.object members).pointer (name :: path) =
    (Members.get members name).bind (pointer path) := by
  rw [pointer, get_object]

lemma pointer_of_notObject (noObject : NotObject (some value)) (more : path ≠ []) :
  value.pointer path = none := by
  cases path with
  | nil => exact absurd rfl more
  | cons name path =>
    cases value with
    | object members => exact absurd rfl (noObject members)
    | _ => rfl

lemma pointer_append (value : Json) (path inner : List String) :
  value.pointer (path ++ inner) = (value.pointer path).bind (pointer inner) := by
  induction path generalizing value with
  | nil => rfl
  | cons name path ih =>
    rw [cons_append, pointer, pointer, bind_assoc]
    congr 1
    funext child
    exact ih child

lemma pointer_members (target : Json) (name : String) (path : List String) :
  target.pointer (name :: path) = (Members.get target.members name).bind (pointer path) := by
  cases target with
  | object members => exact pointer_cons members name path
  | _ => rfl

lemma remove_of_absent (absent : Members.get given name = none) :
  remove given name = given := by
  refine filter_eq_self.mpr fun member listed => decide_eq_true fun same => ?_
  obtain ⟨value, held⟩ := exists_get_of_mem_keys
    (same ▸ List.mem_map_of_mem listed : name ∈ Members.keys given)
  rw [absent] at held
  cases held

lemma rfcMembers_eq (same : ∀ member ∈ members, ∀ target,
  rfcMergePatch target member.2 = mergePatch (target.getD .null) member.2)
  (given : List (String × Json)) : rfcMembers given members = mergeMembers given members := by
  induction members generalizing given with
  | nil => rfl
  | cons member rest ih =>
    obtain ⟨name, value⟩ := member
    rw [rfcMembers, mergeMembers, ih fun other listed => same other (mem_cons_of_mem _ listed)]
    have first := same (name, value) mem_cons_self (Members.get given name)
    cases value with
    | null =>
      cases held : Members.get given name with
      | none => simp only [isNull, if_true, remove_of_absent held]
      | some => rfl
    | _ => simp only [isNull, Bool.false_eq_true, if_false, first]

lemma rfcMergePatch_eq (target : Option Json) (patch : Json) :
  rfcMergePatch target patch = mergePatch (target.getD .null) patch := by
  induction patch using objectInduction generalizing target with
  | leaf patch noObject =>
    cases patch with
    | object members => exact absurd rfl (noObject members)
    | _ => rfl
  | object members ih =>
    rw [rfcMergePatch, mergePatch, rfcMembers_eq ih]
    rcases target with _ | (_ | _ | _ | _ | _ | _) <;> rfl

lemma get_mergeMembers (distinct : (Members.keys members).Nodup)
  (given : List (String × Json)) (name : String) :
  Members.get (mergeMembers given members) name = match Members.get members name with
    | none => Members.get given name
    | some value =>
      if value.isNull then none
      else some (mergePatch ((Members.get given name).getD .null) value) := by
  induction members generalizing given with
  | nil => rfl
  | cons member rest ih =>
    rw [Members.keys, map_cons, nodup_cons] at distinct
    rw [mergeMembers, ih distinct.2, Members.get]
    by_cases same : member.1 = name
    · subst same
      rw [get_of_notMem distinct.1, if_pos rfl]
      dsimp only
      split
      · rw [get_remove, if_pos rfl]
      · rw [get_insert, if_pos rfl]
    · have kept (changed : Json) :
          Members.get (if member.2.isNull then remove given member.1
            else insert given member.1 changed) name = Members.get given name := by
        split
        · rw [get_remove, if_neg same]
        · rw [get_insert, if_neg same]
      rw [if_neg same, kept]

lemma mergeMembers_eq_self (settled : ∀ member ∈ members,
  if member.2.isNull then Members.get given member.1 = none
  else ∃ value, Members.get given member.1 = some value ∧ mergePatch value member.2 = value) :
  mergeMembers given members = given := by
  induction members with
  | nil => rfl
  | cons member rest ih =>
    have first := settled member mem_cons_self
    have others := ih fun other listed => settled other (mem_cons_of_mem _ listed)
    rw [mergeMembers]
    split at first
    · next null => rw [if_pos null, remove_of_absent first, others]
    · next present =>
        obtain ⟨value, held, same⟩ := first
        rw [if_neg present, held, getD_some, same, insert_self held, others]

lemma mergePatch_of_notObject (noObject : ∀ members, patch ≠ .object members) :
  mergePatch target patch = patch := by
  cases patch with
  | object members => exact absurd rfl (noObject members)
  | _ => rfl

lemma mergePatch_again (target : Json) (distinct : DistinctNames patch) :
  mergePatch (mergePatch target patch) patch = mergePatch target patch := by
  induction distinct generalizing target with
  | leaf noObject => rw [mergePatch_of_notObject noObject, mergePatch_of_notObject noObject]
  | object distinct inside ih =>
    rw [mergePatch, mergePatch]
    refine congrArg Json.object (mergeMembers_eq_self fun member listed => ?_)
    have merged := get_mergeMembers distinct target.members member.1
    rw [(get_eq_some_iff distinct).mpr listed] at merged
    dsimp only at merged
    split
    · next null => rw [Json.members, merged, if_pos null]
    · next present =>
        rw [if_neg present] at merged
        exact ⟨_, merged, ih member listed _⟩

lemma names_of_notObject (noObject : ∀ members, patch ≠ .object members) : Names path patch := by
  cases path with
  | nil => trivial
  | cons name path =>
    cases patch with
    | object members => exact absurd rfl (noObject members)
    | _ => trivial

lemma pointer_mergePatch (distinct : DistinctNames patch) (unnamed : ¬Names path patch) :
  (mergePatch target patch).pointer path = target.pointer path := by
  induction path generalizing target patch with
  | nil => exact absurd trivial unnamed
  | cons name path ih =>
    cases distinct with
    | leaf noObject => exact absurd (names_of_notObject noObject) unnamed
    | object distinct inside =>
      rw [mergePatch, pointer_cons, get_mergeMembers distinct, pointer_members]
      rw [Names] at unnamed
      cases found : Members.get _ name with
      | none => rfl
      | some value =>
        rw [found] at unnamed
        have more : path ≠ [] := by
          rintro rfl
          exact unnamed trivial
        have present : value.isNull = false := by
          cases value with
          | null => exact absurd (names_of_notObject fun _ same => by cases same) unnamed
          | _ => rfl
        have onward := @ih ((Members.get target.members name).getD .null) _
          (inside _ (mem_of_get_eq_some found)) unnamed
        simp only [present, Bool.false_eq_true, if_false, bind_some, onward]
        cases Members.get target.members name with
        | none => exact pointer_of_notObject (fun _ => nofun) more
        | some given => rfl

lemma mergePatch_ne_null (present : patch.isNull = false) : mergePatch target patch ≠ .null := by
  cases patch with
  | null => cases present
  | _ => exact nofun

lemma pointer_of_fresh (distinct : DistinctNames patch) (fresh : NotObject (some target))
  (more : path ≠ []) : (mergePatch target patch).pointer path ≠ some .null := by
  induction path generalizing target patch with
  | nil => exact absurd rfl more
  | cons name path ih =>
    cases distinct with
    | leaf noObject =>
      rw [mergePatch_of_notObject noObject,
        pointer_of_notObject (fun members same => noObject members (Option.some.inj same)) more]
      exact (some_ne_none _).symm
    | object distinct inside =>
      have bare : target.members = [] := by
        cases target with
        | object members => exact absurd rfl (fresh members)
        | _ => rfl
      rw [mergePatch, pointer_cons, get_mergeMembers distinct, bare]
      cases found : Members.get _ name with
      | none => exact (some_ne_none _).symm
      | some value =>
        cases present : value.isNull with
        | true => simp [present]
        | false =>
          simp only [present, Bool.false_eq_true, if_false, bind_some]
          cases path with
          | nil => exact fun same => mergePatch_ne_null present (Option.some.inj same)
          | cons next path =>
            exact ih (inside _ (mem_of_get_eq_some found)) (fun _ same => by cases same)
              (cons_ne_nil _ _)

lemma pointer_append_of_fresh (distinct : DistinctNames patch)
  (fresh : NotObject (target.pointer path)) (more : inner ≠ []) :
  (mergePatch target patch).pointer (path ++ inner) ≠ some .null := by
  induction path generalizing target patch with
  | nil => exact pointer_of_fresh distinct fresh more
  | cons name path ih =>
    cases distinct with
    | leaf noObject =>
      rw [mergePatch_of_notObject noObject, cons_append,
        pointer_of_notObject (fun members same => noObject members (Option.some.inj same))
          (cons_ne_nil _ _)]
      exact (some_ne_none _).symm
    | object distinct inside =>
      rw [pointer_members] at fresh
      rw [cons_append, mergePatch, pointer_cons, get_mergeMembers distinct]
      cases found : Members.get _ name with
      | none =>
        cases held : Members.get target.members name with
        | none => simp
        | some value =>
          rw [held, bind_some] at fresh
          rw [bind_some, pointer_append]
          cases reached : value.pointer path with
          | none => exact (some_ne_none _).symm
          | some last =>
            rw [bind_some, pointer_of_notObject (reached ▸ fresh) more]
            exact (some_ne_none _).symm
      | some value =>
        cases present : value.isNull with
        | true => simp [present]
        | false =>
          simp only [present, Bool.false_eq_true, if_false, bind_some]
          refine ih (inside _ (mem_of_get_eq_some found)) ?_
          cases held : Members.get target.members name with
          | none =>
            cases path with
            | nil => exact fun _ same => by cases same
            | cons => exact fun _ same => by cases same
          | some given => rwa [held] at fresh

/-- A patch does what the RFC says.  Twice is once, what the patch does not name stays, and what
was no object has no null member afterwards. -/
theorem mergePatch_follows_rfc (target : Json) {patch : Json} (distinct : patch.DistinctNames) :
  mergePatch target patch = rfcMergePatch (some target) patch ∧
    mergePatch (mergePatch target patch) patch = mergePatch target patch ∧
    (∀ path, ¬Names path patch → (mergePatch target patch).pointer path = target.pointer path) ∧
    ∀ path inner, NotObject (target.pointer path) → inner ≠ [] →
      (mergePatch target patch).pointer (path ++ inner) ≠ some .null :=
  ⟨(rfcMergePatch_eq (some target) patch).symm, mergePatch_again target distinct,
    fun _ => pointer_mergePatch distinct, fun _ _ => pointer_append_of_fresh distinct⟩

def samplePatch : Json := .object [("a", .string "z"), ("c", .object [("f", .null)])]

theorem mergePatch_sample :
  mergePatch (.object [("a", .string "b"), ("c", .object [("d", .string "e")])]) samplePatch =
    rfcMergePatch (some (.object [("a", .string "b"), ("c", .object [("d", .string "e")])]))
      samplePatch :=
  (mergePatch_follows_rfc _
    (.object (by decide) (by
      rintro member (_ | ⟨_, _ | ⟨_, _ | _⟩⟩)
      · exact .leaf nofun
      · exact .object (by decide) (by
          rintro member (_ | ⟨_, _ | _⟩)
          exact .leaf nofun)))).1

end NextGCore.Udr
