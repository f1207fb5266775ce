import NextGCore.Sepp.PrinsBody

/-!
# What a PRINS message shows of designated values

Two requests whose bodies have one shape and differ at designated pointers alone.  Their
cleartext blocks are the same exactly if the differences lie at pointers that the profile of
the URL's first segment designates, and that are reached through objects.
-/

namespace NextGCore.Sepp

open Crypt (Bytes)
open Library Sbi List Json

mutual

/-- The values have the same members and items, down to values that are neither. -/
def SameShape : Json → Json → Prop
  | .object members, second => ∃ others, second = .object others ∧ SameMembers members others
  | .array items, second => ∃ others, second = .array others ∧ SameItems items others
  | _, second => (∀ items, second ≠ .array items) ∧ ∀ members, second ≠ .object members

def SameMembers : List (String × Json) → List (String × Json) → Prop
  | [], others => others = []
  | member :: rest, others => ∃ other others', others = other :: others' ∧ other.1 = member.1 ∧
      SameShape member.2 other.2 ∧ SameMembers rest others'

def SameItems : List Json → List Json → Prop
  | [], others => others = []
  | item :: rest, others => ∃ other others', others = other :: others' ∧ SameShape item other ∧
      SameItems rest others'

end

mutual

/-- The values are the same but at designated paths, which go through objects, and through
arrays too if these are open. -/
def DifferAt (arraysOpen : Bool) (designated : List String → Prop) : Json → Json → Prop
  | .object members, second => designated [] ∨
      ∃ others, second = .object others ∧ MembersDifferAt arraysOpen designated members others
  | .array items, second => designated [] ∨ second = .array items ∨
      arraysOpen = true ∧ ∃ others, second = .array others ∧
        ItemsDifferAt arraysOpen designated 0 items others
  | value, second => designated [] ∨ second = value

def MembersDifferAt (arraysOpen : Bool) (designated : List String → Prop) :
    List (String × Json) → List (String × Json) → Prop
  | [], others => others = []
  | member :: rest, others => ∃ other others', others = other :: others' ∧ other.1 = member.1 ∧
      DifferAt arraysOpen (fun path => designated (member.1 :: path)) member.2 other.2 ∧
        MembersDifferAt arraysOpen designated rest others'

def ItemsDifferAt (arraysOpen : Bool) (designated : List String → Prop) :
    ℕ → List Json → List Json → Prop
  | _, [], others => others = []
  | index, item :: rest, others => ∃ other others', others = other :: others' ∧
      DifferAt arraysOpen (fun path => designated (toString index :: path)) item other ∧
        ItemsDifferAt arraysOpen designated (index + 1) rest others'

end

def designatedBy (pointers : List String) (path : List String) : Prop := pointerOf path ∈ pointers

def visible (leaf : Leaf) : List String × Option Json :=
  (leaf.path, if leaf.stopped then none else some leaf.value)

section Visible

variable {stop : List String → Bool} {first second : Json}
  {members others : List (String × Json)}

lemma SameShape.notObject (shape : SameShape first second)
  (noObject : ∀ members, first ≠ .object members) : ∀ members, second ≠ .object members := by
  cases first with
  | object members => exact absurd rfl (noObject members)
  | array items =>
    obtain ⟨others, rfl, -⟩ := shape
    simp
  | _ => exact shape.2

lemma differAt_of_notObject {designated : List String → Prop}
  (noObject : ∀ members, first ≠ .object members) :
  DifferAt false designated first second ↔ designated [] ∨ second = first := by
  cases first with
  | object members => exact absurd rfl (noObject members)
  | array items => simp [DifferAt]
  | _ => rfl

lemma length_memberLeaves (shape : SameMembers members others)
  (inside : ∀ member ∈ members, ∀ stop other, SameShape member.2 other →
    (Json.leaves stop member.2).length = (Json.leaves stop other).length) :
  (memberLeaves stop members).length = (memberLeaves stop others).length := by
  induction members generalizing others with
  | nil =>
    obtain rfl : others = [] := shape
    rfl
  | cons member rest ih =>
    obtain ⟨other, others, rfl, same, sameShape, sameRest⟩ := shape
    rw [forall_mem_cons] at inside
    simp only [memberLeaves, length_append, length_map]
    rw [same, inside.1 _ _ sameShape, ih sameRest inside.2]

lemma length_leaves (stop : List String → Bool) (shape : SameShape first second) :
  (first.leaves stop).length = (second.leaves stop).length := by
  induction first using objectInduction generalizing stop second with
  | leaf first noObject =>
    rw [leaves_of_notObject noObject, leaves_of_notObject (shape.notObject noObject)]
    rfl
  | object members ih =>
    obtain ⟨others, rfl, sameMembers⟩ := shape
    cases stops : stop [] with
    | true =>
      rw [leaves_of_stop stops, leaves_of_stop stops]
      rfl
    | false =>
      rw [leaves_object stops, leaves_object stops]
      exact length_memberLeaves sameMembers fun member isMember stop other sameShape =>
        ih member isMember stop sameShape

lemma visible_memberLeaves_iff (shape : SameMembers members others)
  (inside : ∀ member ∈ members, ∀ stop other, SameShape member.2 other →
    ((member.2.leaves stop).map visible = (other.leaves stop).map visible ↔
      DifferAt false (fun path => stop path = true) member.2 other)) :
  (memberLeaves stop members).map visible = (memberLeaves stop others).map visible ↔
    MembersDifferAt false (fun path => stop path = true) members others := by
  induction members generalizing others with
  | nil =>
    obtain rfl : others = [] := shape
    simp [MembersDifferAt]
  | cons member rest ih =>
    obtain ⟨⟨name, other⟩, others, rfl, same, sameShape, sameRest⟩ := shape
    obtain rfl : name = member.1 := same
    rw [forall_mem_cons] at inside
    have named : Function.Injective
        (Prod.map (member.1 :: ·) id : List String × Option Json → List String × Option Json) :=
      (cons_injective).prodMap Function.injective_id
    have here := inside.1 (stopUnder stop member.1) other sameShape
    have there := ih sameRest inside.2
    have sameLength : ((member.2.leaves (stopUnder stop member.1)).map
        (visible ∘ Leaf.under member.1)).length = ((other.leaves (stopUnder stop member.1)).map
            (visible ∘ Leaf.under member.1)).length := by
      simp only [length_map]
      exact length_leaves _ sameShape
    have lifted : ∀ leaves : List Leaf, leaves.map (visible ∘ Leaf.under member.1) =
        (leaves.map visible).map (Prod.map (member.1 :: ·) id) := by
      intro leaves
      rw [map_map]
      rfl
    simp only [memberLeaves, map_append, map_map]
    constructor
    · intro same
      obtain ⟨first, later⟩ := append_inj same sameLength
      rw [lifted, lifted] at first
      exact ⟨_, _, rfl, rfl, here.mp (named.list_map first), there.mp later⟩
    · rintro ⟨_, _, isOther, -, first, later⟩
      obtain ⟨rfl, rfl⟩ := List.cons.inj isOther
      rw [lifted, lifted, here.mpr first, there.mpr later]

lemma visible_leaves_iff (shape : SameShape first second) :
  (first.leaves stop).map visible = (second.leaves stop).map visible ↔
    DifferAt false (fun path => stop path = true) first second := by
  induction first using objectInduction generalizing stop second with
  | leaf first noObject =>
    rw [leaves_of_notObject noObject,
      leaves_of_notObject (shape.notObject noObject), differAt_of_notObject noObject]
    cases stops : stop [] <;> simp [visible, eq_comm]
  | object members ih =>
    obtain ⟨others, rfl, sameMembers⟩ := shape
    cases stops : stop [] with
    | true =>
      rw [leaves_of_stop stops, leaves_of_stop stops]
      simp [visible, DifferAt, stops]
    | false =>
      rw [leaves_object stops, leaves_object stops,
        visible_memberLeaves_iff sameMembers fun member isMember stop other sameShape =>
          ih member isMember sameShape]
      simp [DifferAt, stops]

end Visible

def elementOf (count : ℕ) (leaf : Leaf) : N32fPayloadElement where
  iePath := pointerOf leaf.path
  ieValueLocation := .body
  value := if leaf.stopped then .object [("encBlockIndex", .ofNat count)] else leaf.value

def elementsFrom : ℕ → List Leaf → List N32fPayloadElement
  | _, [] => []
  | count, leaf :: rest =>
    elementOf count leaf :: elementsFrom (if leaf.stopped then count + 1 else count) rest

lemma elements_of_emitted (leaves : List Leaf) (flat : Flattened) :
  (leaves.foldl (Flattened.emit "") flat).elements =
    flat.elements ++ elementsFrom flat.dataToEncrypt.length leaves := by
  induction leaves generalizing flat with
  | nil => simp [elementsFrom]
  | cons leaf rest ih =>
    rw [foldl_cons, ih, elementsFrom]
    cases stopped : leaf.stopped with
    | true => simp [Flattened.emit, Flattened.encrypt, elementOf, stopped, pointerOf]
    | false => simp [Flattened.emit, Flattened.clear, elementOf, stopped, pointerOf]

def Plain (leaf : Leaf) : Prop :=
  leaf.stopped = false → ∀ members, leaf.value ≠ .object members

lemma elementOf_eq_iff {first second : Leaf} (plainFirst : Plain first)
  (plainSecond : Plain second) (count : ℕ) :
  elementOf count first = elementOf count second ↔ visible first = visible second := by
  obtain ⟨firstPath, firstStopped, firstValue⟩ := first
  obtain ⟨secondPath, secondStopped, secondValue⟩ := second
  rw [elementOf, elementOf, N32fPayloadElement.mk.injEq, pointerOf_injective.eq_iff, visible,
    visible, Prod.mk.injEq]
  cases firstStopped with
  | true =>
    cases secondStopped with
    | true => simp
    | false => simpa using fun _ same => plainSecond rfl _ same.symm
  | false =>
    cases secondStopped with
    | true => simpa using fun _ same => plainFirst rfl _ same
    | false => simp

lemma elementsFrom_eq_iff {first second : List Leaf}
  (plainFirst : ∀ leaf ∈ first, Plain leaf) (plainSecond : ∀ leaf ∈ second, Plain leaf)
  (count : ℕ) :
  elementsFrom count first = elementsFrom count second ↔
    first.map visible = second.map visible := by
  induction first generalizing second count with
  | nil => cases second <;> simp [elementsFrom]
  | cons leaf rest ih =>
    cases second with
    | nil => simp [elementsFrom]
    | cons other others =>
      rw [forall_mem_cons] at plainFirst plainSecond
      rw [elementsFrom, elementsFrom, List.cons.injEq, map_cons, map_cons,
        List.cons.injEq, elementOf_eq_iff plainFirst.1 plainSecond.1]
      refine and_congr_right fun same => ?_
      have stopped : leaf.stopped = other.stopped := by
        have shown := (Prod.ext_iff.mp same).2
        cases here : leaf.stopped <;> cases there : other.stopped <;>
          simp [visible, here, there] at shown ⊢
      rw [stopped]
      exact ih plainFirst.2 plainSecond.2 _

lemma eq_of_noLeaves {stop : List String → Bool} {first second : Json}
  (shape : SameShape first second) (noLeaves : first.leaves stop = []) : second = first := by
  induction first using objectInduction generalizing stop second with
  | leaf first noObject => simp [leaves_of_notObject noObject] at noLeaves
  | object members ih =>
    obtain ⟨others, rfl, sameMembers⟩ := shape
    cases stops : stop [] with
    | true => simp [leaves_of_stop stops] at noLeaves
    | false =>
      rw [leaves_object stops] at noLeaves
      congr 1
      clear stops
      induction members generalizing others with
      | nil => exact sameMembers
      | cons member rest restHypothesis =>
        obtain ⟨other, others, rfl, same, sameShape, sameRest⟩ := sameMembers
        rw [forall_mem_cons] at ih
        simp only [memberLeaves, append_eq_nil_iff, map_eq_nil_iff] at noLeaves
        rw [restHypothesis ih.2 noLeaves.2 others sameRest,
          Prod.ext same (ih.1 sameShape noLeaves.1)]

def Prins.clearBlock (prins : Prins) (ctx : PrinsContext) (messageId method url : String)
  (headers : List (String × String)) (body : Option Bytes) : DataToIntegrityProtectBlock :=
  Prins.requestBlock ctx messageId method url headers
    (payloadOf prins (Prins.encryptPaths ctx url) body).elements

section Blocks

variable {prins : Prins} {ctx : PrinsContext}

/-- The block is the one that `protect_message` seals. -/
lemma clearBlock_of_protectMessage (messageId method url : String)
  (headers : List (String × String)) (body : Option Bytes) (counters : SendCounters) :
  prins.protectMessage ctx messageId method url headers body counters =
    prins.protectBlock ctx .request (prins.clearBlock ctx messageId method url headers body)
      (payloadOf prins (Prins.encryptPaths ctx url) body).dataToEncrypt counters :=
  rfl

lemma elements_payloadOf {encryptPaths : List String} {octets : Bytes} {json : Json}
  (read : prins.json.read octets = .ok json) :
  (payloadOf prins encryptPaths (some octets)).elements =
    if (json.leaves (stopAt encryptPaths "")).isEmpty then [⟨"", .body, json⟩]
    else elementsFrom 0 (json.leaves (stopAt encryptPaths "")) := by
  have emitted := elements_of_emitted (json.leaves (stopAt encryptPaths "")) ⟨[], []⟩
  rw [← flattenBodyLeaves_eq, nil_append] at emitted
  simp only [payloadOf, read, emitted, length_nil]
  cases isLeaves : json.leaves (stopAt encryptPaths "") with
  | nil =>
    rw [isLeaves, elementsFrom] at emitted
    simp [elementsFrom, Flattened.clear, emitted]
  | cons leaf rest =>
    rw [isLeaves] at emitted
    simpa [elementsFrom] using emitted

lemma clearBlock_eq_iff {first second : Json} (shape : SameShape first second)
  {body other : Bytes} (isFirst : prins.json.read body = .ok first)
  (isSecond : prins.json.read other = .ok second) (messageId method url : String)
  (headers : List (String × String)) :
  prins.clearBlock ctx messageId method url headers (some body) =
      prins.clearBlock ctx messageId method url headers (some other) ↔
    DifferAt false (designatedBy (Prins.encryptPaths ctx url)) first second := by
  let stop := stopAt (Prins.encryptPaths ctx url) ""
  have blocks : prins.clearBlock ctx messageId method url headers (some body) =
      prins.clearBlock ctx messageId method url headers (some other) ↔
        (payloadOf prins (Prins.encryptPaths ctx url) (some body)).elements =
          (payloadOf prins (Prins.encryptPaths ctx url) (some other)).elements := by
    simp [Prins.clearBlock, Prins.requestBlock]
  have designated : designatedBy (Prins.encryptPaths ctx url) = fun path => stop path = true := by
    funext path
    simp [stop, stopAt, designatedBy, pointerOf]
  rw [blocks, elements_payloadOf isFirst, elements_payloadOf isSecond, designated,
    ← visible_leaves_iff shape]
  have sameLength := length_leaves stop shape
  by_cases noLeaves : first.leaves stop = []
  · obtain rfl := eq_of_noLeaves shape noLeaves
    simp
  · have firstLeaves : (first.leaves stop).isEmpty = false := by simpa using noLeaves
    have secondLeaves : (second.leaves stop).isEmpty = false := by
      rw [isEmpty_eq_false_iff, ← length_pos_iff, ← sameLength]
      exact length_pos_iff.mpr noLeaves
    simp only [stop] at firstLeaves secondLeaves
    rw [firstLeaves, secondLeaves]
    exact elementsFrom_eq_iff (fun leaf isLeaf => (of_mem_leaves isLeaf).2)
      (fun leaf isLeaf => (of_mem_leaves isLeaf).2) 0

/-- Two bodies of one shape that differ at pointers that the profile designates, through
objects and arrays. -/
structure DesignatedPair (profile : DataTypeProfile) (first second : Json) : Prop where
  shape : SameShape first second
  differ : DifferAt true (designatedBy profile.bodyPaths) first second

/-- Two requests whose bodies differ at designated pointers alone show the same block exactly
if the bodies differ at pointers alone that the profile found for the first segment of the URL
designates, and that are reached through objects. -/
theorem sameBlock_iff {profile : DataTypeProfile} {first second : Json}
  (pair : DesignatedPair profile first second) {body other : Bytes}
  (isFirst : prins.json.read body = .ok first) (isSecond : prins.json.read other = .ok second)
  (messageId method url : String) (headers : List (String × String)) :
  prins.clearBlock ctx messageId method url headers (some body) =
      prins.clearBlock ctx messageId method url headers (some other) ↔
    DifferAt false (designatedBy (Prins.encryptPaths ctx url)) first second :=
  clearBlock_eq_iff pair.shape isFirst isSecond messageId method url headers

end Blocks

def twoDocuments (first second : Json) : Prins where
  b64urlEncode _ := ""
  b64urlDecode _ := .ok []
  jweHeaders := ⟨fun _ => [], fun _ => .error ""⟩
  jwsHeaders := ⟨fun _ => [], fun _ => .error ""⟩
  gcmEncrypt _ _ _ _ _ := .ok ([], [])
  gcmDecrypt _ _ _ _ _ _ := none
  es256Sign _ _ := []
  es256Verify _ _ _ := false
  verifyingKey _ := []
  json := ⟨fun _ => [], fun octets => .ok (if octets = [1] then first else second)⟩
  blocks := ⟨fun _ => [], fun _ => .error ""⟩
  cipherBlocks := ⟨fun _ => [], fun _ => .error ""⟩
  modifications := ⟨fun _ => [], fun _ => .error ""⟩
  display _ := ""

def designating (pointer : String) : DataTypeProfile :=
  ⟨"sdm", "nudm-sdm", [⟨"BODY", pointer⟩]⟩

def designatingSepp (pointer : String) : PrinsContext where
  localContextId := "home-context"
  peerContextId := "visited-context"
  keyMaterial :=
    let keys : KeyPair := (.replicate 32 7, .replicate 8 1)
    ⟨keys, keys, keys, keys⟩
  role := .initiator
  kid := "kid"
  localFqdn := "sepp.home"
  localSigningKey := none
  peerVerifyingKeys := []
  profiles := [designating pointer]
  modificationPolicy := ⟨[]⟩
  jweEnc := .a256Gcm
  localPlmnIds := []
  peerPlmnIds := []

def supiBody (supi : String) : Json := .object [("supi", .string supi)]

def identitiesBody (supi : String) : Json := .object [("ids", .array [.string supi])]

lemma designatedPair_supi :
  DesignatedPair (designating "/supi") (supiBody "imsi-1") (supiBody "imsi-2") where
  shape := ⟨_, rfl, _, _, rfl, rfl, by simp [SameShape], rfl⟩
  differ :=
    have designated : pointerOf ["supi"] ∈ (designating "/supi").bodyPaths := by decide
    .inr ⟨_, rfl, _, _, rfl, rfl, .inl designated, rfl⟩

lemma designatedPair_identities :
  DesignatedPair (designating "/ids/0") (identitiesBody "imsi-1") (identitiesBody "imsi-2") where
  shape := ⟨_, rfl, _, _, rfl, rfl, ⟨_, rfl, _, _, rfl, by simp [SameShape], rfl⟩, rfl⟩
  differ :=
    have designated : pointerOf ["ids", "0"] ∈ (designating "/ids/0").bodyPaths := by
      decide
    .inr ⟨_, rfl, _, _, rfl, rfl, .inr (.inr ⟨rfl, _, rfl, _, _, rfl, .inl designated, rfl⟩), rfl⟩

/-- Requests to a relative URL show one block for two SUPIs. -/
theorem sameBlock_supi :
  (twoDocuments (supiBody "imsi-1") (supiBody "imsi-2")).clearBlock (designatingSepp "/supi")
      "message-1" "POST" "/nudm-sdm/v1" [] (some [1]) =
    (twoDocuments (supiBody "imsi-1") (supiBody "imsi-2")).clearBlock (designatingSepp "/supi")
      "message-1" "POST" "/nudm-sdm/v1" [] (some [2]) := by
  have designated : pointerOf ["supi"] ∈ Prins.encryptPaths (designatingSepp "/supi")
      "/nudm-sdm/v1" := by
    decide
  exact (sameBlock_iff designatedPair_supi rfl rfl _ _ _ _).mpr
    (.inr ⟨_, rfl, _, _, rfl, rfl, .inl designated, rfl⟩)

/-- The SUPI is shown in a request to an absolute URL, and where it is an item of an array. -/
theorem designated_shown :
  (DesignatedPair (designating "/supi") (supiBody "imsi-1") (supiBody "imsi-2") ∧
    (twoDocuments (supiBody "imsi-1") (supiBody "imsi-2")).clearBlock (designatingSepp "/supi")
        "message-1" "POST" "https://udm/nudm-sdm/v1" [] (some [1]) ≠
      (twoDocuments (supiBody "imsi-1") (supiBody "imsi-2")).clearBlock
        (designatingSepp "/supi") "message-1" "POST" "https://udm/nudm-sdm/v1" [] (some [2])) ∧
  (DesignatedPair (designating "/ids/0") (identitiesBody "imsi-1") (identitiesBody "imsi-2") ∧
    (twoDocuments (identitiesBody "imsi-1") (identitiesBody "imsi-2")).clearBlock
        (designatingSepp "/ids/0") "message-1" "POST" "/nudm-sdm/v1" [] (some [1]) ≠
      (twoDocuments (identitiesBody "imsi-1") (identitiesBody "imsi-2")).clearBlock
        (designatingSepp "/ids/0") "message-1" "POST" "/nudm-sdm/v1" [] (some [2])) := by
  have otherSegment : Prins.encryptPaths (designatingSepp "/supi") "https://udm/nudm-sdm/v1" =
      [] := by
    decide
  have throughArray : Prins.encryptPaths (designatingSepp "/ids/0") "/nudm-sdm/v1" =
      ["/ids/0"] := by
    decide
  refine ⟨⟨designatedPair_supi, fun same => ?_⟩, ⟨designatedPair_identities, fun same => ?_⟩⟩
  · have differ := (clearBlock_eq_iff designatedPair_supi.shape rfl rfl _ _ _ _).mp same
    rw [otherSegment] at differ
    simp [supiBody, DifferAt, MembersDifferAt, designatedBy] at differ
  · have differ := (clearBlock_eq_iff designatedPair_identities.shape rfl rfl _ _ _ _).mp same
    rw [throughArray] at differ
    have notRoot : pointerOf [] ∉ ["/ids/0"] := by decide
    have notArray : pointerOf ["ids"] ∉ ["/ids/0"] := by decide
    simp [identitiesBody, DifferAt, MembersDifferAt, designatedBy, notRoot, notArray] at differ

end NextGCore.Sepp
