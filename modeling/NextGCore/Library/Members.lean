import Mathlib.Data.List.Basic

/-!
# Documents as lists of members

A document keeps its members in the order of insertion, one for each name.  A
document that is built from optional members is read back member by member.
-/

open List

namespace NextGCore.Library.Members

universe u v

variable {Name : Type u} {Value : Type v} [DecidableEq Name]

variable {members : List (Name × Value)} {name : Name} {fields : List (Name × Option Value)}
  {value : Value}

def insert : List (Name × Value) → Name → Value → List (Name × Value)
  | [], name, value => [(name, value)]
  | member :: rest, name, value =>
    if member.1 = name then (name, value) :: rest else member :: insert rest name value

def get : List (Name × Value) → Name → Option Value
  | [], _ => none
  | member :: rest, name => if member.1 = name then some member.2 else get rest name

def insertGiven (members : List (Name × Value)) (field : Name × Option Value) :
  List (Name × Value) :=
  match field.2 with
  | none => members
  | some value => insert members field.1 value

def ofFields (fields : List (Name × Option Value)) : List (Name × Value) :=
  fields.foldl insertGiven []

lemma get_insert (members : List (Name × Value)) (name other : Name) (value : Value) :
  get (insert members name value) other =
    if name = other then some value else get members other := by
  induction members with
  | nil => rfl
  | cons member rest ih =>
    unfold insert
    by_cases same : member.1 = name
    · simp only [same, if_true, get]
      split <;> rfl
    · simp only [same, if_false, get, ih]
      by_cases own : member.1 = other
      · have apart : name ≠ other := fun equal => same (own.trans equal.symm)
        simp only [own, if_true, if_neg apart]
      · simp only [own, if_false]

lemma insert_insert (members : List (Name × Value)) (name : Name) (first last : Value) :
  insert (insert members name first) name last = insert members name last := by
  induction members with
  | nil => simp [insert]
  | cons member rest ih =>
    by_cases same : member.1 = name
    · simp [insert, same]
    · simp [insert, same, ih]

lemma get_of_notMem (absent : name ∉ members.map Prod.fst) : get members name = none := by
  induction members with
  | nil => rfl
  | cons member rest ih =>
    rw [map_cons, mem_cons, not_or] at absent
    rw [get, if_neg (Ne.symm absent.1), ih absent.2]

lemma get_insertGiven_of_ne (members : List (Name × Value)) {field : Name × Option Value}
  (apart : field.1 ≠ name) : get (insertGiven members field) name = get members name := by
  unfold insertGiven
  split
  · rfl
  · rw [get_insert, if_neg apart]

lemma get_foldl_of_notMem (absent : name ∉ fields.map Prod.fst) (members : List (Name × Value)) :
  get (fields.foldl insertGiven members) name = get members name := by
  induction fields generalizing members with
  | nil => rfl
  | cons field rest ih =>
    rw [map_cons, mem_cons, not_or] at absent
    rw [foldl_cons, ih absent.2, get_insertGiven_of_ne members (Ne.symm absent.1)]

lemma get_foldl (distinct : (fields.map Prod.fst).Nodup) {value : Option Value}
  (isField : (name, value) ∈ fields) (absent : get members name = none) :
  get (fields.foldl insertGiven members) name = value := by
  induction fields generalizing members with
  | nil => cases isField
  | cons field rest ih =>
    rw [map_cons, nodup_cons] at distinct
    rw [foldl_cons]
    rcases mem_cons.mp isField with rfl | later
    · rw [get_foldl_of_notMem distinct.1]
      cases value with
      | none => exact absent
      | some value => simp [insertGiven, get_insert]
    · refine ih distinct.2 later ?_
      have apart : field.1 ≠ name := fun same =>
        distinct.1 (same ▸ mem_map_of_mem later)
      rw [get_insertGiven_of_ne members apart, absent]

lemma get_ofFields (distinct : (fields.map Prod.fst).Nodup) {value : Option Value}
  (isField : (name, value) ∈ fields) : get (ofFields fields) name = value :=
  get_foldl distinct isField rfl

def keys (members : List (Name × Value)) : List Name := members.map Prod.fst

def remove (members : List (Name × Value)) (name : Name) : List (Name × Value) :=
  members.filter fun member => member.1 ≠ name

def collect (members : List (Name × Value)) : List (Name × Value) :=
  members.foldl (fun built member => insert built member.1 member.2) []

lemma mem_or_eq_of_mem_insert {member : Name × Value}
  (isMember : member ∈ insert members name value) :
  member ∈ members ∨ member = (name, value) := by
  induction members with
  | nil => exact .inr (mem_singleton.mp isMember)
  | cons first rest ih =>
    unfold insert at isMember
    split at isMember
    · rcases mem_cons.mp isMember with isNew | later
      · exact .inr isNew
      · exact .inl (mem_cons_of_mem _ later)
    · rcases mem_cons.mp isMember with rfl | later
      · exact .inl mem_cons_self
      · rcases ih later with old | isNew
        · exact .inl (mem_cons_of_mem _ old)
        · exact .inr isNew

lemma insert_of_notMem (absent : name ∉ keys members) (value : Value) :
  insert members name value = members ++ [(name, value)] := by
  induction members with
  | nil => rfl
  | cons first rest ih =>
    rw [keys, map_cons, mem_cons, not_or] at absent
    unfold insert
    rw [if_neg (Ne.symm absent.1), ih absent.2]
    rfl

lemma keys_insert (members : List (Name × Value)) (name : Name) (value : Value) :
  keys (insert members name value) =
    if name ∈ keys members then keys members else keys members ++ [name] := by
  induction members with
  | nil => rfl
  | cons first rest ih =>
    unfold insert
    by_cases same : first.1 = name
    · simp [keys, same]
    · simp only [keys] at ih
      simp only [keys, if_neg same, map_cons, ih, mem_cons, Ne.symm same, false_or]
      split <;> simp [*]

lemma nodup_keys_insert (distinct : (keys members).Nodup) (name : Name) (value : Value) :
  (keys (insert members name value)).Nodup := by
  rw [keys_insert]
  split
  · exact distinct
  · rename_i absent
    rw [nodup_append]
    refine ⟨distinct, pairwise_singleton _ name, fun key isKey other isName => ?_⟩
    rintro rfl
    exact absent (mem_singleton.mp isName ▸ isKey)

omit [DecidableEq Name] in
lemma nodup_keys_filter (distinct : (keys members).Nodup) (keep : Name × Value → Bool) :
  (keys (members.filter keep)).Nodup :=
  distinct.sublist (filter_sublist.map _)

lemma keys_remove (members : List (Name × Value)) (name : Name) :
  keys (remove members name) = (keys members).filter (· ≠ name) := by
  rw [keys, remove, keys, filter_map]
  rfl

lemma get_remove (members : List (Name × Value)) (name other : Name) :
  get (remove members name) other = if name = other then none else get members other := by
  induction members with
  | nil => simp [remove, get]
  | cons first rest ih =>
    rw [remove] at ih ⊢
    by_cases same : first.1 = name
    · rw [filter_cons_of_neg (by simpa using same), ih]
      by_cases own : name = other
      · rw [if_pos own, if_pos own]
      · rw [if_neg own, if_neg own, get, if_neg (same.trans_ne own)]
    · rw [filter_cons_of_pos (by simpa using same), get, get, ih]
      by_cases own : first.1 = other
      · have apart : name ≠ other := fun equal => same (own.trans equal.symm)
        rw [if_pos own, if_pos own, if_neg apart]
      · rw [if_neg own, if_neg own]

lemma exists_get_of_mem_keys (isKey : name ∈ keys members) :
  ∃ value, get members name = some value := by
  induction members with
  | nil => cases isKey
  | cons first rest ih =>
    unfold get
    by_cases same : first.1 = name
    · exact ⟨first.2, if_pos same⟩
    · rw [if_neg same]
      rcases mem_cons.mp isKey with isFirst | later
      · exact absurd isFirst.symm same
      · exact ih later

lemma collect_of_nodup (distinct : (keys members).Nodup) : collect members = members := by
  have onto : ∀ (built : List (Name × Value)), (keys (built ++ members)).Nodup →
      members.foldl (fun built member => insert built member.1 member.2) built =
        built ++ members := by
    clear distinct
    induction members with
    | nil => exact fun built _ => (append_nil built).symm
    | cons member rest ih =>
      intro built distinct
      have absent : member.1 ∉ keys built := by
        intro isKey
        rw [keys, map_append, nodup_append] at distinct
        exact distinct.2.2 _ isKey _ mem_cons_self rfl
      have together : built ++ member :: rest = (built ++ [member]) ++ rest := by
        rw [append_assoc, singleton_append]
      rw [foldl_cons, insert_of_notMem absent, together]
      exact ih _ (together ▸ distinct)
  exact onto [] distinct

lemma mem_of_get_eq_some (found : get members name = some value) : (name, value) ∈ members := by
  induction members with
  | nil => cases found
  | cons first rest ih =>
    unfold get at found
    split at found
    · rename_i same
      cases found
      subst same
      exact mem_cons_self
    · exact mem_cons_of_mem _ (ih found)

lemma get_eq_some_iff (distinct : (keys members).Nodup) :
  get members name = some value ↔ (name, value) ∈ members := by
  refine ⟨mem_of_get_eq_some, fun isMember => ?_⟩
  induction members with
  | nil => cases isMember
  | cons first rest ih =>
    rw [keys, map_cons, nodup_cons] at distinct
    unfold get
    rcases mem_cons.mp isMember with rfl | later
    · exact if_pos rfl
    · have apart : first.1 ≠ name := by
        rintro rfl
        exact distinct.1 (mem_map.mpr ⟨_, later, rfl⟩)
      rw [if_neg apart]
      exact ih distinct.2 later

lemma insert_self (held : get members name = some value) :
  insert members name value = members := by
  induction members with
  | nil => cases held
  | cons first rest ih =>
    unfold get at held
    unfold insert
    by_cases same : first.1 = name
    · rw [if_pos same] at held ⊢
      cases held
      subst same
      rfl
    · rw [if_neg same] at held ⊢
      rw [ih held]

end NextGCore.Library.Members

namespace NextGCore.Library

open Members (keys)

universe u v

structure Roster (Name : Type u) (Label : Type v) where
  members : List Name
  labels : List (Name × Label)

namespace Roster

variable {Name : Type u} {Label : Type v} [DecidableEq Name]

def empty : Roster Name Label := ⟨[], []⟩

def enrol (roster : Roster Name Label) (name : Name) (label : Label) : Roster Name Label where
  members := name :: roster.members
  labels := Members.insert roster.labels name label

def strike (roster : Roster Name Label) (name : Name) : Roster Name Label where
  members := roster.members.filter (· ≠ name)
  labels := Members.remove roster.labels name

def relabel (roster : Roster Name Label) (name : Name) (label : Label) : Roster Name Label where
  members := roster.members
  labels := Members.insert roster.labels name label

def countOf [DecidableEq Label] (roster : Roster Name Label) (label : Label) : ℕ :=
  (roster.labels.filter fun entry => entry.2 = label).length

structure InStep (roster : Roster Name Label) : Prop where
  members : roster.members.Nodup
  labels : (keys roster.labels).Nodup
  same : ∀ name, name ∈ keys roster.labels ↔ name ∈ roster.members

omit [DecidableEq Name] in
lemma inStep_empty : (empty : Roster Name Label).InStep :=
  ⟨nodup_nil, nodup_nil, fun _ => Iff.rfl⟩

variable {roster : Roster Name Label} {name : Name} {label : Label}

namespace InStep

variable (inStep : roster.InStep)
include inStep

omit [DecidableEq Name] in
lemma perm : (keys roster.labels).Perm roster.members :=
  (perm_ext_iff_of_nodup inStep.labels inStep.members).mpr inStep.same

omit [DecidableEq Name] in
lemma length_labels : roster.labels.length = roster.members.length := by
  have same := inStep.perm.length_eq
  rwa [Members.keys, length_map] at same

lemma enrol (absent : name ∉ roster.members) : (roster.enrol name label).InStep where
  members := nodup_cons.mpr ⟨absent, inStep.members⟩
  labels := Members.nodup_keys_insert inStep.labels name label
  same other := by
    have unlabelled : name ∉ keys roster.labels := fun there => absent ((inStep.same name).mp there)
    rw [Roster.enrol, Members.keys_insert, if_neg unlabelled, mem_append,
      mem_singleton, mem_cons, inStep.same, or_comm]

lemma relabel (isMember : name ∈ roster.members) : (roster.relabel name label).InStep where
  members := inStep.members
  labels := Members.nodup_keys_insert inStep.labels name label
  same other := by
    rw [Roster.relabel, Members.keys_insert, if_pos ((inStep.same name).mpr isMember), inStep.same]

lemma strike : (roster.strike name).InStep where
  members := inStep.members.filter _
  labels := Members.nodup_keys_filter inStep.labels _
  same other := by
    simp only [Roster.strike, Members.keys_remove, mem_filter, inStep.same]

lemma get_of_mem (isMember : name ∈ roster.members) :
  ∃ label, Members.get roster.labels name = some label :=
  Members.exists_get_of_mem_keys ((inStep.same name).mpr isMember)

end InStep

section Counts

variable [DecidableEq Label]

lemma countOf_enrol (inStep : roster.InStep) (absent : name ∉ roster.members) (other : Label) :
  (roster.enrol name label).countOf other =
    roster.countOf other + if label = other then 1 else 0 := by
  have unlabelled : name ∉ keys roster.labels := fun there => absent ((inStep.same name).mp there)
  rw [countOf, Roster.enrol, Members.insert_of_notMem unlabelled, filter_append,
    length_append, countOf]
  by_cases same : label = other <;> simp [same]

lemma countOf_strike_le (name : Name) (other : Label) :
  (roster.strike name).countOf other ≤ roster.countOf other :=
  (filter_sublist.filter _).length_le

lemma countOf_relabel {old : Label} (held : Members.get roster.labels name = some old)
  (label other : Label) :
  (roster.relabel name label).countOf other + (if old = other then 1 else 0) =
    roster.countOf other + if label = other then 1 else 0 := by
  obtain ⟨members, labels⟩ := roster
  simp only [countOf, Roster.relabel] at held ⊢
  induction labels with
  | nil => cases held
  | cons entry rest ih =>
    unfold Members.insert
    unfold Members.get at held
    by_cases same : entry.1 = name
    · rw [if_pos same] at held ⊢
      cases held
      by_cases isNew : label = other <;> by_cases isOld : entry.2 = other <;> simp [isNew, isOld]
    · rw [if_neg same] at held ⊢
      have moved := ih held
      by_cases counted : entry.2 = other
      · simp only [filter_cons, counted, decide_true, if_true, length_cons]
        omega
      · simpa only [filter_cons, counted, decide_false, Bool.false_eq_true, if_false]
          using moved

omit [DecidableEq Name] in
lemma countOf_add (inStep : roster.InStep) {first second : Label} (apart : first ≠ second)
  (all : ∀ label : Label, label = first ∨ label = second) :
  roster.countOf first + roster.countOf second = roster.members.length := by
  rw [← inStep.length_labels, countOf, countOf]
  have others : roster.labels.filter (fun entry => entry.2 = second) =
      roster.labels.filter fun entry => !decide (entry.2 = first) := by
    refine filter_congr fun entry _ => ?_
    rcases all entry.2 with isFirst | isSecond
    · simp [isFirst, apart]
    · simp [isSecond, apart.symm]
  rw [others]
  exact length_eq_length_filter_add _ |>.symm

end Counts

end Roster

end NextGCore.Library
