import NextGCore.Library.Members
import NextGCore.Sbi.Message
import NextGCore.Sbi.Text

/-!
# JSON values
-/

namespace NextGCore.Sbi

open Library List Members

variable (token : List Char)

def replaceChar (letter : Char) (replacement text : List Char) : List Char :=
  text.flatMap fun other => if other = letter then replacement else [other]

def replacePair (first second replacement : Char) : List Char → List Char
  | [] => []
  | [letter] => [letter]
  | letter :: next :: rest =>
    if letter = first ∧ next = second then
      replacement :: replacePair first second replacement rest
    else letter :: replacePair first second replacement (next :: rest)

def rfc6901Escape (token : String) : String :=
  String.ofList (replaceChar '/' ['~', '1'] (replaceChar '~' ['~', '0'] token.toList))

def rfc6901Unescape : String :=
  String.ofList (replacePair '~' '0' '~' (replacePair '~' '1' '/' token))

def pointerTokens (rest : List Char) : List String :=
  (rest.splitOn '/').map rfc6901Unescape

namespace Json

def members : Json → List (String × Json)
  | object members => members
  | _ => []

def asU64 : Json → Option ℕ
  | number literal => parseU64 literal
  | _ => none

def setAt (value : Json) : List String → Json → Json
  | [], _ => value
  | token :: path, node =>
    let child := (Members.get node.members token).getD null
    object (insert node.members token (setAt value path child))

def parseIndex (token : String) : Option ℕ :=
  match token.toList with
  | '+' :: _ => none
  | '0' :: _ :: _ => none
  | _ => parseU64 token

def replaceAt (value : Json) : List String → Json → Option Json
  | [], _ => some value
  | token :: path, object members => do
    let child ← Members.get members token
    let changed ← replaceAt value path child
    return object (insert members token changed)
  | token :: path, array items => do
    let index ← parseIndex token
    let child ← items[index]?
    let changed ← replaceAt value path child
    return array (items.set index changed)
  | _ :: _, _ => none

def replaceAtPointer (value : Json) (pointer : String) (json : Json) : Option Json :=
  match pointer.toList with
  | [] => some value
  | '/' :: rest => replaceAt value (pointerTokens rest) json
  | _ => none

end Json

lemma asU64_ofNat {value : ℕ} (small : value < 2 ^ 64) :
  (Json.ofNat value).asU64 = some value :=
  parseU64_toString small

def childPointer (pointer name : String) : String := pointer ++ "/" ++ rfc6901Escape name

def pointerOf (path : List String) : String := path.foldl childPointer ""

lemma replaceChar_cons (letter other : Char) (replacement text : List Char) :
  replaceChar letter replacement (other :: text) =
    (if other = letter then replacement else [other]) ++ replaceChar letter replacement text :=
  rfl

lemma replacePair_cons_of_ne {first second replacement letter : Char} (other : letter ≠ first)
  (rest : List Char) :
  replacePair first second replacement (letter :: rest) =
    letter :: replacePair first second replacement rest := by
  cases rest with
  | nil => rfl
  | cons next rest => simp [replacePair, other]

lemma replacePair_slash :
  replacePair '~' '1' '/' (replaceChar '/' ['~', '1'] (replaceChar '~' ['~', '0'] token)) =
    replaceChar '~' ['~', '0'] token := by
  induction token with
  | nil => rfl
  | cons letter rest ih =>
    rw [replaceChar_cons '~']
    by_cases tilde : letter = '~'
    · subst tilde
      have zero : ('0' : Char) ≠ '~' := by decide
      simp only [if_true, cons_append, nil_append, replaceChar_cons,
        if_neg (by decide : ('~' : Char) ≠ '/'), if_neg (by decide : ('0' : Char) ≠ '/')]
      rw [replacePair, if_neg (by decide), replacePair_cons_of_ne zero, ih]
    · rw [if_neg tilde, singleton_append, replaceChar_cons '/']
      by_cases slash : letter = '/'
      · subst slash
        simp only [if_true, cons_append, nil_append]
        rw [replacePair, if_pos ⟨rfl, rfl⟩, ih]
      · rw [if_neg slash, singleton_append, replacePair_cons_of_ne tilde, ih]

lemma replacePair_tilde : replacePair '~' '0' '~' (replaceChar '~' ['~', '0'] token) = token := by
  induction token with
  | nil => rfl
  | cons letter rest ih =>
    rw [replaceChar_cons]
    by_cases tilde : letter = '~'
    · subst tilde
      simp only [if_true, cons_append, nil_append]
      rw [replacePair, if_pos ⟨rfl, rfl⟩, ih]
    · rw [if_neg tilde, singleton_append, replacePair_cons_of_ne tilde, ih]

lemma rfc6901Unescape_escape (token : String) :
  rfc6901Unescape (rfc6901Escape token).toList = token := by
  simp only [rfc6901Unescape, rfc6901Escape, String.toList_ofList, replacePair_slash,
    replacePair_tilde, String.ofList_toList]

lemma slash_notMem_escape (token : String) : '/' ∉ (rfc6901Escape token).toList := by
  simp only [rfc6901Escape, String.toList_ofList, replaceChar, mem_flatMap, not_exists, not_and]
  rintro letter - found
  by_cases slash : letter = '/'
  · simp [slash] at found
  · rw [if_neg slash, mem_singleton] at found
    exact slash found.symm

lemma toList_childPointer (path : List String) (pointer : String) :
  (path.foldl childPointer pointer).toList =
    pointer.toList ++ path.flatMap fun token => '/' :: (rfc6901Escape token).toList := by
  induction path generalizing pointer with
  | nil => simp
  | cons name path ih =>
    rw [foldl_cons, ih]
    simp [childPointer]

lemma flatMap_slash (part : List Char) (parts : List (List Char)) :
  ((part :: parts).flatMap fun part => '/' :: part) =
    '/' :: ['/'].intercalate (part :: parts) := by
  induction parts generalizing part with
  | nil => simp
  | cons next parts ih =>
    rw [flatMap_cons, ih, intercalate_cons_cons]
    simp

lemma pointerTokens_pointerOf (name : String) (path : List String) :
  ∃ rest, (pointerOf (name :: path)).toList = '/' :: rest ∧
    pointerTokens rest = name :: path := by
  refine ⟨['/'].intercalate ((name :: path).map fun token => (rfc6901Escape token).toList), ?_, ?_⟩
  · rw [map_cons, ← flatMap_slash, flatMap_cons, flatMap_map]
    exact toList_childPointer (name :: path) ""
  have plain : ∀ token ∈ (name :: path).map fun token => (rfc6901Escape token).toList,
      '/' ∉ token := by
    intro token membership
    obtain ⟨original, -, rfl⟩ := mem_map.mp membership
    exact slash_notMem_escape original
  rw [pointerTokens, splitOn_intercalate '/' plain (by simp), map_map]
  calc (name :: path).map (rfc6901Unescape ∘ fun token => (rfc6901Escape token).toList)
      = (name :: path).map id :=
        map_congr_left fun token _ => rfc6901Unescape_escape token
    _ = name :: path := map_id _

lemma pointerOf_injective : Function.Injective pointerOf := by
  intro first second same
  cases first with
  | nil =>
    cases second with
    | nil => rfl
    | cons name path =>
      obtain ⟨rest, letters, -⟩ := pointerTokens_pointerOf name path
      rw [← same] at letters
      simp [pointerOf] at letters
  | cons name path =>
    obtain ⟨rest, letters, tokens⟩ := pointerTokens_pointerOf name path
    cases second with
    | nil =>
      rw [same] at letters
      simp [pointerOf] at letters
    | cons other others =>
      obtain ⟨otherRest, otherLetters, otherTokens⟩ := pointerTokens_pointerOf other others
      obtain rfl : rest = otherRest :=
        (List.cons.inj (letters.symm.trans (same ▸ otherLetters))).2
      exact tokens.symm.trans otherTokens

end NextGCore.Sbi

/-!
## The leaves of a document

A document as the values at its leaves: the descent goes through objects, and stops at a value
that is no object or at a path that it is told to stop at.  What is rebuilt when every leaf is
set at its path is the document without the members that hold no leaf.
-/

namespace NextGCore.Sbi.Json

open Library List Members

variable (root : Json) {motive : Json → Prop}

@[elab_as_elim]
lemma valueInduction
  (atom : ∀ value, (∀ items, value ≠ array items) → (∀ members, value ≠ object members) →
    motive value) (array : ∀ items, (∀ item ∈ items, motive item) → motive (array items))
  (object : ∀ members, (∀ member ∈ members, motive member.2) → motive (object members))
  (value : Json) : motive value := by
  refine @Json.rec motive (fun items => ∀ item ∈ items, motive item)
    (fun members => ∀ member ∈ members, motive member.2) (fun member => motive member.2)
    ?null ?bool ?number ?string array object ?noItems ?items ?noMembers ?members ?member value
  case null => exact atom null (by simp) (by simp)
  case bool => exact fun value => atom (bool value) (by simp) (by simp)
  case number => exact fun literal => atom (number literal) (by simp) (by simp)
  case string => exact fun text => atom (string text) (by simp) (by simp)
  case noItems => simp
  case items => exact fun item items first others => forall_mem_cons.mpr ⟨first, others⟩
  case noMembers => simp
  case members =>
    exact fun member members first others => forall_mem_cons.mpr ⟨first, others⟩
  case member => exact fun name value holds => holds

@[elab_as_elim]
lemma objectInduction (leaf : ∀ value, (∀ members, value ≠ object members) → motive value)
  (object : ∀ members, (∀ member ∈ members, motive member.2) → motive (object members))
  (value : Json) : motive value := by
  induction value using valueInduction with
  | atom value _ noObject => exact leaf value noObject
  | array items _ => exact leaf (.array items) (by simp)
  | object members ih => exact object members ih

/-- A place where the descent ends, because it was told to stop or at a value that is no
object. -/
structure Leaf where
  path : List String
  stopped : Bool
  value : Json

variable {leaf : Leaf}

def Leaf.under (name : String) (leaf : Leaf) : Leaf := { leaf with path := name :: leaf.path }

def stopUnder (stop : List String → Bool) (name : String) : List String → Bool :=
  fun path => stop (name :: path)

mutual

def leaves (stop : List String → Bool) : Json → List Leaf
  | object members =>
    if stop [] then [⟨[], true, object members⟩] else memberLeaves stop members
  | leaf => [⟨[], stop [], leaf⟩]

def memberLeaves (stop : List String → Bool) : List (String × Json) → List Leaf
  | [] => []
  | member :: rest =>
    (leaves (stopUnder stop member.1) member.2).map (Leaf.under member.1) ++ memberLeaves stop rest

end

mutual

def opened (stop : List String → Bool) : Json → List (List (String × Json))
  | object members => if stop [] then [] else members :: openedMembers stop members
  | _ => []

def openedMembers (stop : List String → Bool) : List (String × Json) → List (List (String × Json))
  | [] => []
  | member :: rest => opened (stopUnder stop member.1) member.2 ++ openedMembers stop rest

end

mutual

def pruned (stop : List String → Bool) : Json → Json
  | object members =>
    object (if stop [] then members else prunedMembers stop members)
  | leaf => leaf

def prunedMembers (stop : List String → Bool) : List (String × Json) → List (String × Json)
  | [] => []
  | member :: rest =>
    if (leaves (stopUnder stop member.1) member.2).isEmpty then prunedMembers stop rest
    else (member.1, pruned (stopUnder stop member.1) member.2) :: prunedMembers stop rest

end

inductive DistinctNames : Json → Prop
  | leaf {value : Json} (noObject : ∀ members, value ≠ object members) : DistinctNames value
  | object {members : List (String × Json)} (distinct : (Members.keys members).Nodup)
      (inside : ∀ member ∈ members, DistinctNames member.2) : DistinctNames (.object members)

variable {stop : List String → Bool} {value : Json} {members : List (String × Json)}

lemma leaves_of_notObject (noObject : ∀ members, value ≠ object members) :
  leaves stop value = [⟨[], stop [], value⟩] := by
  cases value with
  | object members => exact absurd rfl (noObject members)
  | _ => rfl

lemma leaves_of_stop (stops : stop [] = true) : leaves stop value = [⟨[], true, value⟩] := by
  cases value with
  | _ => simp [leaves, stops]

lemma leaves_object (goes : stop [] = false) :
  leaves stop (object members) = memberLeaves stop members := by
  simp [leaves, goes]

lemma pruned_of_notObject (noObject : ∀ members, value ≠ object members) :
  pruned stop value = value := by
  cases value with
  | object members => exact absurd rfl (noObject members)
  | _ => rfl

lemma pruned_of_stop (stops : stop [] = true) : pruned stop value = value := by
  cases value with
  | object members => simp [pruned, stops]
  | _ => rfl

lemma pruned_object (goes : stop [] = false) :
  pruned stop (object members) = object (prunedMembers stop members) := by
  simp [pruned, goes]

lemma mem_memberLeaves : leaf ∈ memberLeaves stop members ↔
    ∃ member ∈ members, ∃ inner ∈ leaves (stopUnder stop member.1) member.2,
      inner.under member.1 = leaf := by
  induction members with
  | nil => simp [memberLeaves]
  | cons member rest ih => simp [memberLeaves, ih]

lemma head_of_mem_memberLeaves (isLeaf : leaf ∈ memberLeaves stop members) :
  ∃ name ∈ Members.keys members, leaf.path.head? = some name := by
  obtain ⟨member, isMember, inner, -, rfl⟩ := mem_memberLeaves.mp isLeaf
  exact ⟨member.1, mem_map_of_mem isMember, rfl⟩

lemma of_mem_leaves (isLeaf : leaf ∈ leaves stop value) : leaf.stopped = stop leaf.path ∧
    (leaf.stopped = false → ∀ members, leaf.value ≠ object members) := by
  induction value using objectInduction generalizing stop leaf with
  | leaf value noObject =>
    rw [leaves_of_notObject noObject, mem_singleton] at isLeaf
    subst isLeaf
    exact ⟨rfl, fun _ => noObject⟩
  | object members ih =>
    cases stops : stop [] with
    | true =>
      rw [leaves_of_stop stops, mem_singleton] at isLeaf
      subst isLeaf
      exact ⟨stops.symm, by simp⟩
    | false =>
      rw [leaves_object stops] at isLeaf
      obtain ⟨member, isMember, inner, isInner, rfl⟩ := mem_memberLeaves.mp isLeaf
      have found := ih member isMember isInner
      exact ⟨found.1, found.2⟩

def setLeaf (leaf : Leaf) : Json := setAt leaf.value leaf.path root

def setLeaves (leaves : List Leaf) : Json := leaves.foldl setLeaf root

@[simp]
lemma setLeaves_nil : setLeaves root [] = root := rfl

@[simp]
lemma setLeaves_cons (leaf : Leaf) (leaves : List Leaf) :
  setLeaves root (leaf :: leaves) = setLeaves (setLeaf root leaf) leaves := rfl

lemma setLeaves_append (first second : List Leaf) :
  setLeaves root (first ++ second) = setLeaves (setLeaves root first) second :=
  foldl_append

lemma setLeaf_under (name : String) (leaf : Leaf) : setLeaf root (leaf.under name) =
    object (insert root.members name
      (setLeaf ((Members.get root.members name).getD null) leaf)) := rfl

lemma setLeaves_under (name : String) {leaves : List Leaf} (some : leaves ≠ []) :
  setLeaves root (leaves.map (Leaf.under name)) = object (insert root.members name
      (setLeaves ((Members.get root.members name).getD null) leaves)) := by
  induction leaves generalizing root with
  | nil => exact absurd rfl some
  | cons leaf rest ih =>
    rw [map_cons, setLeaves_cons, setLeaves_cons, setLeaf_under]
    cases rest with
    | nil => rfl
    | cons next rest =>
      rw [ih _ (by simp)]
      simp [Json.members, get_insert, insert_insert]

lemma setLeaves_memberLeaves (built : List (String × Json))
  (distinct : (Members.keys (built ++ members)).Nodup)
  (inside : ∀ member ∈ members, ∀ stop, leaves stop member.2 ≠ [] →
    setLeaves null (leaves stop member.2) = pruned stop member.2) :
  setLeaves (object built) (memberLeaves stop members) =
    object (built ++ prunedMembers stop members) := by
  induction members generalizing built with
  | nil => simp [memberLeaves, prunedMembers]
  | cons member rest ih =>
    rw [forall_mem_cons] at inside
    have absent : member.1 ∉ Members.keys built := by
      intro isKey
      rw [Members.keys, map_append, nodup_append] at distinct
      exact distinct.2.2 _ isKey _ mem_cons_self rfl
    rw [memberLeaves, prunedMembers, setLeaves_append]
    by_cases none : leaves (stopUnder stop member.1) member.2 = []
    · have fewer : (Members.keys (built ++ rest)).Nodup :=
        distinct.sublist (((sublist_cons_self member rest).append_left built).map _)
      simp only [none, map_nil, setLeaves_nil, isEmpty_nil, if_true]
      exact ih built fewer inside.2
    · have child : (Members.get (object built).members member.1).getD null = null := by
        simp [Json.members, get_of_notMem absent]
      have together : built ++ member :: rest = (built ++ [member]) ++ rest := by simp
      have notEmpty : (leaves (stopUnder stop member.1) member.2).isEmpty = false := by
        simpa using none
      rw [setLeaves_under _ _ none, child, inside.1 _ none, Json.members, insert_of_notMem absent]
      rw [ih _ (by simpa [Members.keys] using distinct) inside.2, notEmpty]
      simp

lemma setLeaves_null (some : memberLeaves stop members ≠ []) :
  setLeaves null (memberLeaves stop members) =
    setLeaves (object []) (memberLeaves stop members) := by
  obtain ⟨leaf, rest, isCons⟩ := exists_cons_of_ne_nil some
  have isLeaf : leaf ∈ memberLeaves stop members := isCons ▸ mem_cons_self
  obtain ⟨name, -, isHead⟩ := head_of_mem_memberLeaves isLeaf
  obtain ⟨path, isPath⟩ := head?_eq_some_iff.mp isHead
  rw [isCons, setLeaves_cons, setLeaves_cons, setLeaf, setLeaf, isPath]
  rfl

lemma setLeaves_leaves (distinct : DistinctNames value) (some : leaves stop value ≠ []) :
  setLeaves null (leaves stop value) = pruned stop value := by
  induction value using objectInduction generalizing stop with
  | leaf value noObject =>
    rw [leaves_of_notObject noObject, pruned_of_notObject noObject]
    rfl
  | object members ih =>
    cases stops : stop [] with
    | true =>
      rw [leaves_of_stop stops, pruned_of_stop stops]
      rfl
    | false =>
      rw [leaves_object stops] at some ⊢
      cases distinct with
      | leaf noObject => exact absurd rfl (noObject members)
      | object distinct inside =>
        rw [setLeaves_null some, pruned_object stops]
        exact setLeaves_memberLeaves [] distinct fun member isMember stop =>
          ih member isMember (inside member isMember)

lemma opened_of_notObject (noObject : ∀ members, value ≠ object members) :
  opened stop value = [] := by
  cases value with
  | object members => exact absurd rfl (noObject members)
  | _ => rfl

lemma opened_of_stop (stops : stop [] = true) : opened stop value = [] := by
  cases value with
  | object members => simp [opened, stops]
  | _ => rfl

lemma opened_object (goes : stop [] = false) :
  opened stop (object members) = members :: openedMembers stop members := by
  simp [opened, goes]

lemma mem_openedMembers {inner : List (String × Json)} : inner ∈ openedMembers stop members ↔
    ∃ member ∈ members, inner ∈ opened (stopUnder stop member.1) member.2 := by
  induction members with
  | nil => simp [openedMembers]
  | cons member rest ih => simp [openedMembers, ih]

lemma length_prunedMembers_le (stop : List String → Bool) (members : List (String × Json)) :
  (prunedMembers stop members).length ≤ members.length := by
  induction members with
  | nil => simp [prunedMembers]
  | cons member rest ih =>
    rw [prunedMembers]
    split
    · exact Nat.le_succ_of_le ih
    · simpa using ih

lemma prunedMembers_eq_self_iff : prunedMembers stop members = members ↔
    ∀ member ∈ members, leaves (stopUnder stop member.1) member.2 ≠ [] ∧
      pruned (stopUnder stop member.1) member.2 = member.2 := by
  induction members with
  | nil => simp [prunedMembers]
  | cons member rest ih =>
    rw [forall_mem_cons, ← ih, prunedMembers]
    by_cases none : leaves (stopUnder stop member.1) member.2 = []
    · have shorter : prunedMembers stop rest ≠ member :: rest := by
        intro same
        have bound := length_prunedMembers_le stop rest
        rw [same, length_cons] at bound
        exact absurd bound (by omega)
      simp [none, shorter]
    · simp [none, Prod.ext_iff]

lemma kept_of_opened (full : ∀ inner ∈ opened stop value, inner ≠ []) :
  leaves stop value ≠ [] ∧ pruned stop value = value := by
  induction value using objectInduction generalizing stop with
  | leaf value noObject =>
    rw [leaves_of_notObject noObject, pruned_of_notObject noObject]
    simp
  | object members ih =>
    cases stops : stop [] with
    | true =>
      rw [leaves_of_stop stops, pruned_of_stop stops]
      simp
    | false =>
      rw [opened_object stops, forall_mem_cons] at full
      have kept : ∀ member ∈ members, leaves (stopUnder stop member.1) member.2 ≠ [] ∧
          pruned (stopUnder stop member.1) member.2 = member.2 := fun member isMember =>
        ih member isMember fun inner isOpened =>
          full.2 inner (mem_openedMembers.mpr ⟨member, isMember, isOpened⟩)
      rw [leaves_object stops, pruned_object stops, prunedMembers_eq_self_iff.mpr kept]
      refine ⟨?_, rfl⟩
      obtain ⟨first, rest, rfl⟩ := exists_cons_of_ne_nil full.1
      have some := (kept first mem_cons_self).1
      simp [memberLeaves, some]

lemma opened_of_kept (some : leaves stop value ≠ []) (kept : pruned stop value = value) :
  ∀ inner ∈ opened stop value, inner ≠ [] := by
  induction value using objectInduction generalizing stop with
  | leaf value noObject => simp [opened_of_notObject noObject]
  | object members ih =>
    cases stops : stop [] with
    | true => simp [opened_of_stop stops]
    | false =>
      rw [leaves_object stops] at some
      rw [pruned_object stops, object.injEq, prunedMembers_eq_self_iff] at kept
      rw [opened_object stops, forall_mem_cons]
      refine ⟨?_, ?_⟩
      · rintro rfl
        exact some rfl
      · intro inner isOpened
        obtain ⟨member, isMember, isInner⟩ := mem_openedMembers.mp isOpened
        exact ih member isMember (kept member isMember).1 (kept member isMember).2 inner isInner

lemma paths_under (name : String) (leaves : List Leaf) :
  (leaves.map (Leaf.under name)).map Leaf.path = (leaves.map Leaf.path).map (name :: ·) := by
  simp [Leaf.under]

lemma nodup_paths_memberLeaves (distinct : (Members.keys members).Nodup)
  (inside : ∀ member ∈ members, ∀ stop, ((leaves stop member.2).map Leaf.path).Nodup) :
  ((memberLeaves stop members).map Leaf.path).Nodup := by
  induction members with
  | nil => simp [memberLeaves]
  | cons member rest ih =>
    rw [forall_mem_cons] at inside
    rw [Members.keys, map_cons, nodup_cons] at distinct
    rw [memberLeaves, map_append, paths_under, nodup_append]
    refine ⟨(inside.1 _).map fun first second same => (List.cons.inj same).2,
      ih distinct.2 inside.2, ?_⟩
    intro path here other there
    obtain ⟨inner, -, rfl⟩ := mem_map.mp here
    obtain ⟨leaf, isLeaf, rfl⟩ := mem_map.mp there
    obtain ⟨name, isKey, isHead⟩ := head_of_mem_memberLeaves isLeaf
    intro same
    rw [← same, head?_cons, Option.some.injEq] at isHead
    exact distinct.1 (isHead ▸ isKey)

lemma nodup_paths_leaves (distinct : DistinctNames value) :
  ((leaves stop value).map Leaf.path).Nodup := by
  induction value using objectInduction generalizing stop with
  | leaf value noObject =>
    rw [leaves_of_notObject noObject]
    simp
  | object members ih =>
    cases stops : stop [] with
    | true =>
      rw [leaves_of_stop stops]
      simp
    | false =>
      rw [leaves_object stops]
      cases distinct with
      | leaf noObject => exact absurd rfl (noObject members)
      | object distinct inside =>
        exact nodup_paths_memberLeaves distinct fun member isMember stop =>
          ih member isMember (inside member isMember)

end NextGCore.Sbi.Json
