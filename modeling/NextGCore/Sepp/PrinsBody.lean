import NextGCore.Sepp.PrinsDelivery

/-!
# Bodies of PRINS messages

The elements that a body is flattened into are its leaves in turn, down to the pointers that
are designated; each element carries its leaf, in the clear or by the cipher block.
-/

namespace NextGCore.Sepp

open Crypt (Bytes)
open Library Sbi List Json

variable {value : Json} (encryptPaths : List String)

def stopAt (pointer : String) (path : List String) : Bool :=
  decide (path.foldl childPointer pointer ∈ encryptPaths)

def Flattened.emit (pointer : String) (flat : Flattened) (leaf : Leaf) : Flattened :=
  if leaf.stopped then flat.encrypt (leaf.path.foldl childPointer pointer) leaf.value
  else flat.clear (leaf.path.foldl childPointer pointer) leaf.value

section Elements

variable {encryptPaths : List String}

lemma flattenMembers_eq {members : List (String × Json)}
  (inside : ∀ member ∈ members, ∀ pointer flat,
    flattenBodyLeaves encryptPaths member.2 pointer flat =
      (member.2.leaves (stopAt encryptPaths pointer)).foldl (Flattened.emit pointer) flat)
  (pointer : String) (flat : Flattened) :
  flattenMembers encryptPaths members pointer flat =
    (memberLeaves (stopAt encryptPaths pointer) members).foldl
      (Flattened.emit pointer) flat := by
  induction members generalizing flat with
  | nil => rfl
  | cons member rest ih =>
    rw [forall_mem_cons] at inside
    rw [flattenMembers, inside.1, ih inside.2, memberLeaves, foldl_append, foldl_map]
    rfl

lemma flattenBodyLeaves_eq (json : Json) (pointer : String) (flat : Flattened) :
  flattenBodyLeaves encryptPaths json pointer flat =
    (json.leaves (stopAt encryptPaths pointer)).foldl (Flattened.emit pointer) flat := by
  induction json using objectInduction generalizing pointer flat with
  | leaf json noObject =>
    rw [leaves_of_notObject noObject]
    by_cases designated : pointer ∈ encryptPaths
    · simp [flattenBodyLeaves, designated, Flattened.emit, stopAt]
    · cases json with
      | object members => exact absurd rfl (noObject members)
      | _ => simp [flattenBodyLeaves, designated, Flattened.emit, stopAt]
  | object members ih =>
    by_cases designated : pointer ∈ encryptPaths
    · have stops : stopAt encryptPaths pointer [] = true := decide_eq_true designated
      simp [flattenBodyLeaves, designated, leaves_of_stop stops, Flattened.emit]
    · have goes : stopAt encryptPaths pointer [] = false := decide_eq_false designated
      rw [flattenBodyLeaves, if_neg designated, leaves_object goes]
      exact flattenMembers_eq ih pointer flat

end Elements

structure Carries (dataToEncrypt : List Json) (element : N32fPayloadElement)
  (leaf : Leaf) : Prop where
  location : element.ieValueLocation = .body
  path : element.iePath = pointerOf leaf.path
  value : ∀ messageId, Prins.resolveElement messageId dataToEncrypt element.value = .ok leaf.value

lemma reference_of_notObject (noObject : ∀ members, value ≠ .object members) :
  Prins.reference value = none := by
  cases value with
  | object members => exact absurd rfl (noObject members)
  | _ => rfl

lemma resolveElement_of_clear (clear : Prins.reference value = none) (messageId : String)
  (dataToEncrypt : List Json) :
  Prins.resolveElement messageId dataToEncrypt value = .ok value := by
  simp [Prins.resolveElement, clear]

lemma resolveElement_reference (messageId : String) {dataToEncrypt : List Json} {index : ℕ}
  (small : index < 2 ^ 64) (found : dataToEncrypt[index]? = some value) :
  Prins.resolveElement messageId dataToEncrypt
    (.object [("encBlockIndex", .ofNat index)]) = .ok value := by
  have refers : Prins.reference (.object [("encBlockIndex", .ofNat index)]) = some index :=
    parseU64_toString small
  simp [Prins.resolveElement, refers, found]

lemma carries_of_emitted {leaves : List Leaf}
  (plain : ∀ leaf ∈ leaves, leaf.stopped = false → ∀ members, leaf.value ≠ .object members)
  (flat : Flattened)
  (small : flat.dataToEncrypt.length + leaves.countP Leaf.stopped ≤ 2 ^ 64) :
  ∃ elements more, leaves.foldl (Flattened.emit "") flat =
      ⟨flat.dataToEncrypt ++ more, flat.elements ++ elements⟩ ∧
    ∀ later, Forall₂ (Carries (flat.dataToEncrypt ++ more ++ later)) elements leaves := by
  induction leaves generalizing flat with
  | nil => exact ⟨[], [], by simp, fun _ => .nil⟩
  | cons leaf rest ih =>
    rw [forall_mem_cons] at plain
    cases stopped : leaf.stopped with
    | false =>
      have emitted : flat.emit "" leaf = flat.clear (pointerOf leaf.path) leaf.value := by
        simp [Flattened.emit, stopped, pointerOf]
      rw [countP_cons_of_neg (by simp [stopped])] at small
      obtain ⟨elements, more, isFold, carried⟩ := ih plain.2
        (flat.clear (pointerOf leaf.path) leaf.value) small
      refine ⟨⟨pointerOf leaf.path, .body, leaf.value⟩ :: elements, more, ?_, ?_⟩
      · rw [foldl_cons, emitted, isFold]
        simp [Flattened.clear]
      · exact fun later => .cons ⟨rfl, rfl, fun messageId => resolveElement_of_clear
          (reference_of_notObject (plain.1 stopped)) messageId _⟩ (carried later)
    | true =>
      have emitted : flat.emit "" leaf = flat.encrypt (pointerOf leaf.path) leaf.value := by
        simp [Flattened.emit, stopped, pointerOf]
      rw [countP_cons_of_pos (by simp [stopped])] at small
      obtain ⟨elements, more, isFold, carried⟩ := ih plain.2
        (flat.encrypt (pointerOf leaf.path) leaf.value) (by
          simp only [Flattened.encrypt, length_append, length_singleton]
          omega)
      simp only [Flattened.encrypt, append_assoc, singleton_append] at carried
      refine ⟨⟨pointerOf leaf.path, .body,
        .object [("encBlockIndex", .ofNat flat.dataToEncrypt.length)]⟩ :: elements,
        leaf.value :: more, ?_, ?_⟩
      · rw [foldl_cons, emitted, isFold]
        simp [Flattened.encrypt]
      · intro later
        refine .cons ⟨rfl, rfl, fun messageId => resolveElement_reference messageId
          (by omega) (by simp)⟩ ?_
        simpa using carried later

lemma countP_stopped_le {json : Json} (distinct : json.DistinctNames) :
  (json.leaves (stopAt encryptPaths "")).countP Leaf.stopped ≤ encryptPaths.length := by
  let stopped := (json.leaves (stopAt encryptPaths "")).filter Leaf.stopped
  have distinctPaths : (stopped.map Leaf.path).Nodup :=
    (nodup_paths_leaves distinct).sublist (filter_sublist.map _)
  have pointers : ((stopped.map Leaf.path).map pointerOf).Nodup :=
    distinctPaths.map pointerOf_injective
  have designated : (stopped.map Leaf.path).map pointerOf ⊆ encryptPaths := by
    intro pointer isPointer
    simp only [map_map, mem_map, stopped, mem_filter] at isPointer
    obtain ⟨leaf, ⟨isLeaf, isStopped⟩, rfl⟩ := isPointer
    rw [(of_mem_leaves isLeaf).1] at isStopped
    exact of_decide_eq_true isStopped
  have atMost := (subperm_of_subset pointers designated).length_le
  rw [length_map, length_map] at atMost
  rwa [countP_eq_length_filter]

def delivered (json : Json) : Json :=
  if (json.leaves (stopAt encryptPaths "")).isEmpty then json
  else json.pruned (stopAt encryptPaths "")

def Prins.rebuiltOf (prins : Prins) (encryptPaths : List String) : Option Bytes → Rebuilt
  | none => ⟨none, none⟩
  | some body =>
    match prins.json.read body with
    | .ok json => ⟨some (delivered encryptPaths json), none⟩
    | .error _ => ⟨none, some body⟩

section Rebuilding

variable {prins : Prins} {encryptPaths : List String} {dataToEncrypt : List Json} {json : Json}
  {elements : List N32fPayloadElement} {leaves : List Leaf} {body : Option Bytes}

lemma setAtJsonPointer_pointerOf (path : List String) (value root : Json) :
  Prins.setAtJsonPointer (pointerOf path) value root = .ok (setAt value path root) := by
  cases path with
  | nil => rfl
  | cons name path =>
    obtain ⟨rest, letters, tokens⟩ := pointerTokens_pointerOf name path
    rw [Prins.setAtJsonPointer, letters]
    simp [tokens]

lemma applyElement_of_carries {element : N32fPayloadElement} {leaf : Leaf}
  (carries : Carries dataToEncrypt element leaf) (messageId : String) (rebuilt : Prins.Rebuilt) :
  prins.applyElement messageId dataToEncrypt rebuilt element =
    .ok { rebuilt with json := some (setLeaf (rebuilt.json.getD .null) leaf) } := by
  rw [Prins.applyElement, carries.location]
  simp only [bind_eq_ok_iff, mapError_eq_ok_iff, pure_eq_ok_iff]
  exact ⟨_, carries.value messageId, _,
    by rw [carries.path]; exact setAtJsonPointer_pointerOf _ _ _, rfl⟩

lemma foldlM_applyElement (carried : Forall₂ (Carries dataToEncrypt) elements leaves)
  (messageId : String) (root : Json) (raw : Option Bytes) :
  elements.foldlM (prins.applyElement messageId dataToEncrypt) ⟨some root, raw⟩ =
    .ok ⟨some (setLeaves root leaves), raw⟩ := by
  induction carried generalizing root with
  | nil => rfl
  | cons carries _ ih =>
    rw [foldlM_cons, applyElement_of_carries carries, ok_bind, Option.getD_some, ih, setLeaves_cons]

lemma foldlM_applyElement_none (carried : Forall₂ (Carries dataToEncrypt) elements leaves)
  (messageId : String) (nonempty : leaves ≠ []) :
  elements.foldlM (prins.applyElement messageId dataToEncrypt) ⟨none, none⟩ =
    .ok ⟨some (setLeaves .null leaves), none⟩ := by
  cases carried with
  | nil => exact absurd rfl nonempty
  | cons carries rest =>
    rw [foldlM_cons, applyElement_of_carries carries, ok_bind]
    exact foldlM_applyElement rest messageId _ none

lemma reference_of_noLeaves {stop : List String → Bool} (noLeaves : json.leaves stop = []) :
  Prins.reference json = none := by
  cases json with
  | object members =>
    cases stops : stop [] with
    | true => simp [leaves_of_stop stops] at noLeaves
    | false =>
      rw [leaves_object stops] at noLeaves
      rw [Prins.reference, Json.get]
      cases found : members.lookup "encBlockIndex" with
      | none => rfl
      | some value =>
        obtain ⟨front, back, isSplit, -⟩ := lookup_eq_some_iff.mp found
        have isMember : ("encBlockIndex", value) ∈ members := by simp [isSplit]
        have noInner : value.leaves (stopUnder stop "encBlockIndex") = [] := by
          rw [eq_nil_iff_forall_not_mem] at noLeaves ⊢
          exact fun inner isInner => noLeaves _
            (mem_memberLeaves.mpr ⟨_, isMember, inner, isInner, rfl⟩)
        cases value with
        | object inner => rfl
        | _ => simp [Json.leaves] at noInner
  | _ => rfl

lemma flattened_rebuilds (distinct : json.DistinctNames)
  (counted : encryptPaths.length ≤ 2 ^ 64) (messageId : String) {flat : Flattened}
  (isFlat : flat = flattenBodyLeaves encryptPaths json "" ⟨[], []⟩) :
  (if flat.elements.isEmpty then flat.clear "" json else flat).elements.foldlM
    (prins.applyElement messageId
      (if flat.elements.isEmpty then flat.clear "" json else flat).dataToEncrypt)
    ⟨none, none⟩ = .ok ⟨some (delivered encryptPaths json), none⟩ := by
  have bound := countP_stopped_le encryptPaths distinct
  have plain : ∀ leaf ∈ json.leaves (stopAt encryptPaths ""), leaf.stopped = false →
      ∀ members, leaf.value ≠ .object members := fun leaf isLeaf => (of_mem_leaves isLeaf).2
  obtain ⟨elements, more, isFold, carried⟩ :=
    carries_of_emitted plain ⟨[], []⟩ (by simpa using bound.trans counted)
  have whole := carried []
  rw [flattenBodyLeaves_eq, isFold] at isFlat
  simp only [nil_append, append_nil] at isFlat whole
  subst isFlat
  by_cases noLeaves : json.leaves (stopAt encryptPaths "") = []
  · rw [noLeaves] at whole
    cases whole
    have isWhole : delivered encryptPaths json = json := by simp [delivered, noLeaves]
    have carries : Carries more ⟨"", .body, json⟩ ⟨[], false, json⟩ :=
      ⟨rfl, rfl, fun messageId =>
        resolveElement_of_clear (reference_of_noLeaves noLeaves) messageId more⟩
    rw [isWhole]
    exact foldlM_applyElement_none (.cons carries .nil) messageId (by simp)
  · have notEmpty : elements.isEmpty = false := by
      rw [isEmpty_eq_false_iff, ← length_pos_iff, whole.length_eq]
      exact length_pos_iff.mpr noLeaves
    have isPruned : delivered encryptPaths json = json.pruned (stopAt encryptPaths "") := by
      simp [delivered, noLeaves]
    rw [if_neg (by simp [notEmpty]), isPruned, ← setLeaves_leaves distinct noLeaves]
    exact foldlM_applyElement_none whole messageId noLeaves

lemma payloadOf_rebuilds (inverts : prins.Inverts)
  (distinct : ∀ octets json, body = some octets → prins.json.read octets = .ok json →
    json.DistinctNames) (counted : encryptPaths.length ≤ 2 ^ 64) (messageId : String) :
  (payloadOf prins encryptPaths body).elements.foldlM
    (prins.applyElement messageId (payloadOf prins encryptPaths body).dataToEncrypt)
    ⟨none, none⟩ = .ok (prins.rebuiltOf encryptPaths body) := by
  cases body with
  | none => rfl
  | some octets =>
    rw [payloadOf, Prins.rebuiltOf]
    cases read : prins.json.read octets with
    | ok json => exact flattened_rebuilds (distinct octets json rfl read) counted messageId rfl
    | error problem =>
      simp only [foldlM_cons, foldlM_nil, Prins.applyElement, asStr,
        Option.getD_some, Jose.decode, inverts.base64url]
      rfl

inductive SameBody (prins : Prins) : Option Bytes → Option Bytes → Prop
  | absent : SameBody prins none none
  | octets {body : Bytes} {problem : String} (noJson : prins.json.read body = .error problem) :
      SameBody prins (some body) (some body)
  | json {body returned : Bytes} {json : Json} (sent : prins.json.read body = .ok json)
      (read : prins.json.read returned = .ok json) : SameBody prins (some body) (some returned)

def KeepsBody (prins : Prins) (encryptPaths : List String) (body : Option Bytes) : Prop :=
  ∀ octets json, body = some octets → prins.json.read octets = .ok json →
    (∀ members ∈ json.opened (stopAt encryptPaths ""), members ≠ []) ∨
      json.leaves (stopAt encryptPaths "") = []

def Prins.returnedBody (prins : Prins) (encryptPaths : List String) (body : Option Bytes) :
  Option Bytes :=
  ((prins.rebuiltOf encryptPaths body).json.map prins.json.write).or
    (prins.rebuiltOf encryptPaths body).raw

lemma delivered_eq_self_iff : delivered encryptPaths json = json ↔
    (∀ members ∈ json.opened (stopAt encryptPaths ""), members ≠ []) ∨
      json.leaves (stopAt encryptPaths "") = [] := by
  by_cases noLeaves : json.leaves (stopAt encryptPaths "") = []
  · simp [delivered, noLeaves]
  · have isPruned : delivered encryptPaths json = json.pruned (stopAt encryptPaths "") := by
      simp [delivered, noLeaves]
    rw [isPruned, or_iff_left noLeaves]
    exact ⟨opened_of_kept noLeaves, fun full => (kept_of_opened full).2⟩

lemma sameBody_iff
  (readsBack : ∀ octets json, body = some octets → prins.json.read octets = .ok json →
    prins.json.ReadsBack (delivered encryptPaths json)) :
  SameBody prins body (prins.returnedBody encryptPaths body) ↔
    KeepsBody prins encryptPaths body := by
  cases body with
  | none => exact ⟨fun _ _ _ => by simp, fun _ => .absent⟩
  | some octets =>
    cases read : prins.json.read octets with
    | error problem =>
      have returned : prins.returnedBody encryptPaths (some octets) = some octets := by
        simp [Prins.returnedBody, Prins.rebuiltOf, read]
      rw [returned]
      refine ⟨fun _ body json isBody isJson => ?_, fun _ => .octets read⟩
      cases isBody
      rw [read] at isJson
      cases isJson
    | ok json =>
      have returned : prins.returnedBody encryptPaths (some octets) =
          some (prins.json.write (delivered encryptPaths json)) := by
        simp [Prins.returnedBody, Prins.rebuiltOf, read]
      have readBack := readsBack octets json rfl read
      rw [returned]
      constructor
      · intro same body document isBody isJson
        cases isBody
        rw [read] at isJson
        cases isJson
        apply delivered_eq_self_iff.mp
        cases same with
        | octets noJson =>
          rw [read] at noJson
          cases noJson
        | json sent again =>
          rw [read] at sent
          cases sent
          exact Except.ok.inj (readBack.symm.trans again)
      · intro keeps
        have kept := delivered_eq_self_iff.mpr (keeps octets json rfl read)
        rw [kept] at readBack ⊢
        exact .json read readBack

end Rebuilding

end NextGCore.Sepp
