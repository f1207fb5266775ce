import NextGCore.Udm.SorUpu

/-!
# Acknowledgements are single-use

What is stored and what is acknowledged, in the order in which it takes effect.
An XMAC is outstanding from the update that writes it to the one that records
its acknowledgement.  The records hold nothing that is not outstanding as long
as no task writes back a copy that the record has moved away from.
-/

namespace NextGCore.Udm

open Sbi Library List Option Function UeContext TaskSystem
open Crypt (Bytes)

variable (context : SorUpuContext)

lemma foldl_or_eq_zero {pairs : List (UInt8 × UInt8)} {start : UInt8}
  (zero : pairs.foldl (fun diff octets => diff ||| (octets.1 ^^^ octets.2)) start = 0) :
  start = 0 ∧ ∀ pair ∈ pairs, pair.1 = pair.2 := by
  induction pairs generalizing start with
  | nil => exact ⟨zero, by simp⟩
  | cons pair rest ih =>
    obtain ⟨both, equal⟩ := ih zero
    obtain ⟨isZero, same⟩ := UInt8.or_eq_zero_iff.mp both
    refine ⟨isZero, ?_⟩
    rw [forall_mem_cons]
    exact ⟨UInt8.xor_eq_zero_iff.mp same, equal⟩

lemma eq_of_ctCompare {a b : Bytes} (same : ctCompare a b = true) : a = b := by
  unfold ctCompare at same
  simp only [Bool.and_eq_true, beq_iff_eq] at same
  obtain ⟨lengths, zero⟩ := same
  have equal := (foldl_or_eq_zero zero).2
  apply ext_getElem lengths
  intro index inA inB
  have inZip : index < (a.zip b).length := by
    rw [length_zip]
    omega
  have pair := equal _ (getElem_mem inZip)
  rwa [getElem_zip] at pair

section

variable {kind : AckKind} {ack : AckInfo} {expected : Option (Xmac × UInt16)}

lemma compared_of_judge (passed : judge kind ack expected = .ok ())
  (reachable : ack.ueNotReachable = false) :
  ∃ xmac counter, expected = some (xmac, counter) ∧ ack.received = some xmac.toList := by
  unfold judge at passed
  rw [reachable] at passed
  simp only [Bool.false_eq_true, if_false] at passed
  split at passed
  · next xmac counter mac received =>
      split at passed
      · next same =>
        exact ⟨xmac, counter, rfl, received.trans (congrArg some (eq_of_ctCompare same))⟩
      · cases passed
  · cases passed
  · cases passed
  · cases passed

lemma received_of_judge {response : SbiResponse}
  (answered : judge kind ack expected = .error response) (success : response.status = 204) :
  ack.received = none := by
  unfold judge at answered
  split at answered
  · cases answered
  · split at answered
    · split at answered
      · cases answered
      · cases answered
        cases success
    · cases answered
      cases success
    · cases answered
      cases success
    · assumption

end

/-- A MAC-carrying acknowledgement that was answered with 204: the XMAC that was
outstanding, with its number among the stored ones, and the MAC. -/
structure Acknowledged where
  outstanding : Option (ℕ × Xmac)
  received : Option Bytes

structure AckHistory where
  stores : ℕ
  outstanding : AckKind → Option (ℕ × Xmac)
  acknowledged : List Acknowledged

namespace AckHistory

variable (history : AckHistory)

def store (kind : AckKind) (xmac : Xmac) : AckHistory :=
  { history with
    stores := history.stores + 1
    outstanding := update history.outstanding kind (some (history.stores, xmac)) }

/-- An acknowledgement that reports the UE unreachable is not looked at for a
MAC, and carries none. -/
def answer (kind : AckKind) (ack : AckInfo) (response : SbiResponse) : AckHistory :=
  if response.status = 204 ∧ ack.ueNotReachable = false ∧ ack.received.isSome then
    { history with
      acknowledged := ⟨history.outstanding kind, ack.received⟩ :: history.acknowledged }
  else history

def consume (kind : AckKind) : AckHistory :=
  { history with outstanding := update history.outstanding kind none }

def after (task : SorUpuTask) (result : SorUpuContext × Progress SorUpuTask SorUpuOutput) :
  AckHistory :=
  match task, result.2 with
  | .store kind xmac _, .finished (.stored true) => history.store kind xmac
  | .peek .., .finished (.answered kind ack response) => history.answer kind ack response
  | _, .finished (.answered kind ack response) => (history.answer kind ack response).consume kind
  | _, _ => history

def start (context : SorUpuContext) (supi : String) : AckHistory where
  stores := 2
  outstanding kind :=
    let number := match kind with | .sor => 0 | .upu => 1
    (context.expectedXmac kind supi).map fun (xmac, _) => (number, xmac)
  acknowledged := []

/-- Each acknowledgement that succeeded brought the XMAC that was outstanding,
and no stored XMAC made two of them succeed. -/
structure SingleUse (history : AckHistory) : Prop where
  latest : ∀ entry ∈ history.acknowledged, ∃ number xmac,
    entry.outstanding = some (number, xmac) ∧ entry.received = some xmac.toList
  once : (history.acknowledged.map fun entry => entry.outstanding.map Prod.fst).Nodup

end AckHistory

def CopyOf (ue : SorUpuUe) : Prop :=
  ∃ stored, context.ueFindById ue.id = some stored ∧ stored.supi = ue.supi

lemma update_table {context : SorUpuContext} {ue : SorUpuUe} (copy : CopyOf context ue) :
  (context.ueUpdate ue).ueFindById = update context.ueFindById ue.id (some ue) ∧
    ∀ supi, (context.ueUpdate ue).supiHash.lookup supi = context.supiHash.lookup supi := by
  obtain ⟨stored, found, sameSupi⟩ := copy
  obtain ⟨table, -, supiHash⟩ := @UeContext.ueUpdate_eq _ _ _ ue _ found
  exact ⟨table, congrFun (supiHash.trans (if_pos sameSupi))⟩

lemma find_update {context : SorUpuContext} {ue found : SorUpuUe} {supi : String}
  (copy : CopyOf context ue) (after : (context.ueUpdate ue).ueFindBySupi supi = some found) :
  (found = ue ∧ ∃ current, context.ueFindBySupi supi = some current ∧ current.id = ue.id) ∨
    (found.id ≠ ue.id ∧ context.ueFindBySupi supi = some found) := by
  obtain ⟨table, supiHash⟩ := update_table copy
  obtain ⟨entry, live⟩ := find_eq_some_iff.mp after
  rw [supiHash] at entry
  rw [table] at live
  change update context.ueFindById ue.id (some ue) found.id = some found at live
  by_cases same : found.id = ue.id
  · left
    obtain ⟨stored, before, -⟩ := copy
    rw [same, update_self] at live
    have storedId : stored.id = ue.id := id_of_ueFindById before
    refine ⟨(Option.some.inj live).symm, stored, ?_, storedId⟩
    apply find_eq_some_iff.mpr
    change context.supiHash.lookup supi = some stored.id ∧
      context.ueFindById stored.id = some stored
    rw [storedId, ← same]
    exact ⟨entry, same ▸ before⟩
  · right
    rw [update_of_ne same] at live
    exact ⟨same, find_eq_some_iff.mpr ⟨entry, live⟩⟩

lemma find_update_isSome {context : SorUpuContext} {ue : SorUpuUe} {supi : String}
  (copy : CopyOf context ue) (before : (context.ueFindBySupi supi).isSome) :
  ((context.ueUpdate ue).ueFindBySupi supi).isSome := by
  obtain ⟨table, supiHash⟩ := update_table copy
  obtain ⟨current, found⟩ := isSome_iff_exists.mp before
  obtain ⟨entry, live⟩ := find_eq_some_iff.mp found
  unfold ueFindBySupi
  rw [supiHash, entry, table]
  by_cases same : UeRecord.id current = ue.id
  · simp [same]
  · simp [update_of_ne same, live]

lemma copyOf_update {context : SorUpuContext} {ue other : SorUpuUe}
  (copy : CopyOf context ue) (held : CopyOf context other) :
  CopyOf (context.ueUpdate ue) other := by
  obtain ⟨table, -⟩ := update_table copy
  obtain ⟨stored, found, sameSupi⟩ := held
  unfold CopyOf
  rw [table]
  by_cases same : other.id = ue.id
  · obtain ⟨stored', found', sameSupi'⟩ := copy
    rw [← same, found] at found'
    obtain rfl := Option.some.inj found'
    exact ⟨ue, by rw [same, update_self], sameSupi'.symm.trans sameSupi⟩
  · exact ⟨stored, by rw [update_of_ne same, found], sameSupi⟩

section Adding

variable {context next : SorUpuContext} {deconcealSuci : String → Option String}
  {suci : String} {ue : SorUpuUe}

lemma find_add {found : SorUpuUe} {supi : String}
  (added : context.ueAdd deconcealSuci suci = some (next, ue))
  (after : next.ueFindBySupi supi = some found) :
  found = ue ∨ context.ueFindBySupi supi = some found := by
  obtain ⟨-, -, table, -, supiHash⟩ := ueAdd_eq added
  have supiHash := congrFun supiHash supi
  obtain ⟨entry, live⟩ := find_eq_some_iff.mp after
  rw [table] at live
  rw [supiHash] at entry
  by_cases new : UeRecord.id found = context.ueList.next
  · rw [new, update_self] at live
    exact .inl (Option.some.inj live).symm
  · right
    rw [update_of_ne new] at live
    rcases of_assign entry with ⟨_, isNew⟩ | ⟨_, before⟩
    · exact absurd isNew new
    · exact find_eq_some_iff.mpr ⟨before, live⟩

lemma find_add_isSome {supi : String} (added : context.ueAdd deconcealSuci suci = some (next, ue))
  (before : (context.ueFindBySupi supi).isSome) : (next.ueFindBySupi supi).isSome := by
  obtain ⟨-, -, table, -, supiHash⟩ := ueAdd_eq added
  have supiHash := congrFun supiHash supi
  obtain ⟨current, found⟩ := isSome_iff_exists.mp before
  obtain ⟨entry, live⟩ := find_eq_some_iff.mp found
  have old : UeRecord.id current ≠ context.ueList.next :=
    Nat.ne_of_lt (lt_next_of_found live)
  unfold ueFindBySupi
  rw [supiHash, table]
  by_cases given : UeRecord.supi ue = some supi
  · rw [given, assign_self]
    simp
  · rw [assign_of_ne given, entry]
    simp [update_of_ne old, live]

lemma copyOf_add {other : SorUpuUe}
  (added : context.ueAdd deconcealSuci suci = some (next, ue)) (held : CopyOf context other) :
  CopyOf next other := by
  obtain ⟨-, -, table, -, -⟩ := ueAdd_eq added
  obtain ⟨stored, found, sameSupi⟩ := held
  have old : other.id ≠ context.ueList.next :=
    Nat.ne_of_lt (lt_next_of_found found)
  exact ⟨stored, by rw [table, update_of_ne old, found], sameSupi⟩

lemma copyOf_added (added : context.ueAdd deconcealSuci suci = some (next, ue)) :
  CopyOf next ue ∧ ∀ kind, ue.expectedXmac kind = none := by
  obtain ⟨isNew, -, -⟩ := ueAdd_cases added
  obtain ⟨numbered, -, table, -, -⟩ := ueAdd_eq added
  constructor
  · refine ⟨ue, ?_, rfl⟩
    change next.ueFindById (UeRecord.id ue) = some ue
    rw [table, numbered, update_self]
  · intro kind
    rw [isNew]
    cases kind <;> rfl

end Adding

structure Numbered (history : AckHistory) : Prop where
  singleUse : history.SingleUse
  issued : ∀ {kind number xmac}, history.outstanding kind = some (number, xmac) →
    number < history.stores
  distinct : ∀ {kind kind' number xmac xmac'}, history.outstanding kind = some (number, xmac) →
    history.outstanding kind' = some (number, xmac') → kind = kind'
  spent : ∀ entry ∈ history.acknowledged, ∀ number xmac, entry.outstanding = some (number, xmac) →
      number < history.stores ∧ ∀ kind xmac', history.outstanding kind ≠ some (number, xmac')

lemma numbered_start (supi : String) : Numbered (.start context supi) where
  singleUse := ⟨by simp [AckHistory.start], by simp [AckHistory.start]⟩
  issued := by
    intro kind number xmac outstanding
    obtain ⟨held, -, same⟩ := map_eq_some_iff.mp outstanding
    obtain ⟨rfl, -⟩ := Prod.mk.injEq _ _ _ _ ▸ same
    cases kind <;> simp [AckHistory.start]
  distinct := by
    intro kind kind' number xmac xmac' outstanding outstanding'
    obtain ⟨held, -, same⟩ := map_eq_some_iff.mp outstanding
    obtain ⟨held', -, same'⟩ := map_eq_some_iff.mp outstanding'
    have numbers := (congrArg Prod.fst same).trans (congrArg Prod.fst same').symm
    cases kind <;> cases kind' <;> first | rfl | cases numbers
  spent := by simp [AckHistory.start]

namespace Numbered

variable {history : AckHistory}

section

variable (numbered : Numbered history)

include numbered

lemma store (kind : AckKind) (xmac : Xmac) : Numbered (history.store kind xmac) where
  singleUse := ⟨numbered.singleUse.latest, numbered.singleUse.once⟩
  issued := by
    intro kind' number xmac' outstanding
    rcases of_update_some outstanding with ⟨-, same⟩ | ⟨-, before⟩
    · cases same
      exact Nat.lt_succ_self _
    · exact Nat.lt_succ_of_lt (numbered.issued before)
  distinct := by
    intro kind' kind'' number xmac' xmac'' outstanding outstanding'
    rcases of_update_some outstanding with ⟨isKind, same⟩ | ⟨-, before⟩
    · rcases of_update_some outstanding' with ⟨isKind', -⟩ | ⟨-, before'⟩
      · rw [isKind, isKind']
      · cases same
        exact absurd (numbered.issued before') (Nat.lt_irrefl _)
    · rcases of_update_some outstanding' with ⟨-, same'⟩ | ⟨-, before'⟩
      · cases same'
        exact absurd (numbered.issued before) (Nat.lt_irrefl _)
      · exact numbered.distinct before before'
  spent := by
    intro entry acknowledged number xmac' outstanding
    obtain ⟨below, notOutstanding⟩ := numbered.spent entry acknowledged number xmac' outstanding
    refine ⟨Nat.lt_succ_of_lt below, ?_⟩
    intro kind' xmac'' stored
    rcases of_update_some stored with ⟨-, same⟩ | ⟨-, before⟩
    · cases same
      exact absurd below (Nat.lt_irrefl _)
    · exact notOutstanding kind' xmac'' before

lemma consume (kind : AckKind) : Numbered (history.consume kind) where
  singleUse := ⟨numbered.singleUse.latest, numbered.singleUse.once⟩
  issued outstanding := numbered.issued (of_update_none outstanding).2
  distinct outstanding outstanding' :=
    numbered.distinct (of_update_none outstanding).2 (of_update_none outstanding').2
  spent := by
    intro entry acknowledged number xmac outstanding
    obtain ⟨below, notOutstanding⟩ := numbered.spent entry acknowledged number xmac outstanding
    refine ⟨below, ?_⟩
    intro kind' xmac' stored
    exact notOutstanding kind' xmac' (of_update_none stored).2

lemma acknowledge {kind : AckKind} {number : ℕ} {xmac : Xmac}
  (outstanding : history.outstanding kind = some (number, xmac)) {ack : AckInfo}
  (received : ack.received = some xmac.toList) (response : SbiResponse) :
  Numbered ((history.answer kind ack response).consume kind) := by
  unfold AckHistory.answer
  split
  · have consumed := numbered.consume kind
    constructor
    · constructor
      · intro entry acknowledged
        rcases mem_cons.mp acknowledged with rfl | earlier
        · exact ⟨number, xmac, outstanding, received⟩
        · exact numbered.singleUse.latest entry earlier
      · refine nodup_cons.mpr ⟨?_, numbered.singleUse.once⟩
        intro again
        obtain ⟨entry, earlier, same⟩ := List.mem_map.mp again
        obtain ⟨number', xmac', entryOutstanding, -⟩ :=
          numbered.singleUse.latest entry earlier
        rw [outstanding, entryOutstanding] at same
        obtain rfl : number' = number := Option.some.inj same
        exact (numbered.spent entry earlier _ xmac' entryOutstanding).2 kind xmac outstanding
    · exact consumed.issued
    · exact consumed.distinct
    · intro entry acknowledged number' xmac' entryOutstanding
      rcases mem_cons.mp acknowledged with rfl | earlier
      · rw [outstanding] at entryOutstanding
        cases entryOutstanding
        refine ⟨numbered.issued outstanding, ?_⟩
        intro kind' xmac'' stored
        obtain ⟨different, before⟩ := of_update_none stored
        exact different (numbered.distinct outstanding before).symm
      · exact consumed.spent entry earlier number' xmac' entryOutstanding
  · exact numbered.consume kind

lemma answer {kind : AckKind} {ack : AckInfo} {response : SbiResponse}
  (uncounted : response.status = 204 → ack.ueNotReachable = false → ack.received = none) :
  Numbered (history.answer kind ack response) := by
  unfold AckHistory.answer
  split
  · next counted =>
      rw [uncounted counted.1 counted.2.1] at counted
      cases counted.2.2
  · exact numbered

end

end Numbered

def AckKind.other : AckKind → AckKind
  | .sor => .upu
  | .upu => .sor

/-- A copy goes back to the record that the SUPI leads to, and brings no XMAC
of `kind` that is no longer there. -/
def BringsNothingBack (supi : String) (kind : AckKind) (ue : SorUpuUe) : Prop :=
  ∀ current ∈ context.ueFindBySupi supi, current.id = ue.id ∧
    (ue.expectedXmac kind = none ∨ ue.expectedXmac kind = current.expectedXmac kind)

/-- A task that writes writes over what it read: the copy brings back nothing,
and the XMAC that a MAC was compared with is the one still stored. -/
def WritesOverRead (supi : String) (context : SorUpuContext) : SorUpuTask → Prop
  | .store kind _ ue => BringsNothingBack context supi kind.other ue
  | .record kind ack expected ue =>
    BringsNothingBack context supi kind.other ue ∧ (ack.ueNotReachable = false →
        ∀ current ∈ context.ueFindBySupi supi, current.expectedXmac kind = expected.map Prod.fst)
  | _ => True

instance decidableBringsNothingBack (context : SorUpuContext) (supi : String) (kind : AckKind)
  (ue : SorUpuUe) : Decidable (BringsNothingBack context supi kind ue) :=
  inferInstanceAs (Decidable (∀ _ ∈ _, _ ∧ _))

instance decidableWritesOverRead (supi : String) (context : SorUpuContext) :
    (task : SorUpuTask) → Decidable (WritesOverRead supi context task)
  | .store .. => inferInstanceAs (Decidable (BringsNothingBack _ _ _ _))
  | .record .. => inferInstanceAs (Decidable (_ ∧ (_ → ∀ _ ∈ _, _)))
  | .find .. | .add .. | .peek .. | .reread .. => inferInstanceAs (Decidable True)

structure Outstanding (supi : String) (joint : SorUpuContext × AckHistory) : Prop where
  numbered : Numbered joint.2
  held : ∀ {kind current xmac}, joint.1.ueFindBySupi supi = some current →
    current.expectedXmac kind = some xmac →
    ∃ number, joint.2.outstanding kind = some (number, xmac)

def TaskSound (supi : String) (joint : SorUpuContext × AckHistory) : SorUpuTask → Prop
  | .store kind xmac ue => CopyOf joint.1 ue ∧ ue.expectedXmac kind = some xmac
  | .reread kind ack expected =>
    judge kind ack expected = .ok () ∧ (expected.isSome → (joint.1.ueFindBySupi supi).isSome)
  | .record kind ack expected ue =>
    judge kind ack expected = .ok () ∧ CopyOf joint.1 ue ∧ ue.expectedXmac kind = none ∧
      (joint.1.ueFindBySupi supi).isSome
  | _ => True

lemma expectedXmac_storeXmac (ue : SorUpuUe) (kind : AckKind) (xmac : Xmac)
  (counter : UInt16) : (ue.storeXmac kind xmac counter).expectedXmac kind = some xmac := by
  cases kind <;> rfl

lemma expectedXmac_recordAck (ue : SorUpuUe) (kind : AckKind) (state : SorUpuAckState) :
  (ue.recordAck kind state).expectedXmac kind = none := by
  cases kind <;> rfl

lemma copyOf_storeXmac {context : SorUpuContext} {ue : SorUpuUe} (copy : CopyOf context ue)
  (kind : AckKind) (xmac : Xmac) (counter : UInt16) :
  CopyOf context (ue.storeXmac kind xmac counter) := by
  cases kind <;> exact copy

lemma copyOf_recordAck {context : SorUpuContext} {ue : SorUpuUe} (copy : CopyOf context ue)
  (kind : AckKind) (state : SorUpuAckState) : CopyOf context (ue.recordAck kind state) := by
  cases kind <;> exact copy

lemma copyOf_found {context : SorUpuContext} {ue : SorUpuUe} {supi : String}
  (found : context.ueFindBySupi supi = some ue) : CopyOf context ue :=
  ⟨ue, (find_eq_some_iff.mp found).2, rfl⟩

lemma eq_or_eq_other (kind kind' : AckKind) : kind' = kind ∨ kind' = kind.other := by
  cases kind <;> cases kind' <;> first | exact .inl rfl | exact .inr rfl

lemma held_update {supi : String} {joint : SorUpuContext × AckHistory}
  (outstanding : Outstanding supi joint) {kind : AckKind} {ue : SorUpuUe}
  (copy : CopyOf joint.1 ue) (brings : BringsNothingBack joint.1 supi kind.other ue)
  {history : AckHistory}
  (kept : history.outstanding kind.other = joint.2.outstanding kind.other)
  (written : ∀ xmac, ue.expectedXmac kind = some xmac →
    ∃ number, history.outstanding kind = some (number, xmac))
  {kind' : AckKind} {current : SorUpuUe} {xmac : Xmac}
  (found : (joint.1.ueUpdate ue).ueFindBySupi supi = some current)
  (holds : current.expectedXmac kind' = some xmac) :
  ∃ number, history.outstanding kind' = some (number, xmac) := by
  rcases find_update copy found with ⟨rfl, before, foundBefore, -⟩ | ⟨different, foundBefore⟩
  · rcases eq_or_eq_other kind kind' with rfl | rfl
    · exact written xmac holds
    · rw [kept]
      rcases (brings before foundBefore).2 with gone | same
      · rw [gone] at holds
        cases holds
      · exact outstanding.held foundBefore (same ▸ holds)
  · exact absurd (brings current foundBefore).1 different

lemma other_ne (kind : AckKind) : kind.other ≠ kind := by
  cases kind <;> decide

variable {deconcealSuci : String → Option String} {supi : String}

def sorUpuHistory (deconcealSuci : String → Option String) (supi : String) :
  TaskSystem (SorUpuContext × AckHistory) SorUpuRequest SorUpuTask SorUpuOutput :=
  (sorUpuSystem deconcealSuci supi).observed AckHistory.after

lemma outstanding_of_eq {joint : SorUpuContext × AckHistory} {history : AckHistory}
  (outstanding : Outstanding supi joint) (numbered : Numbered history)
  (kept : history.outstanding = joint.2.outstanding) :
  Outstanding supi (joint.1, history) where
  numbered := numbered
  held found holds := by
    rw [kept]
    exact outstanding.held found holds

lemma outstanding_store {joint : SorUpuContext × AckHistory}
  (outstanding : Outstanding supi joint) {kind : AckKind} {xmac : Xmac} {ue : SorUpuUe}
  (copy : CopyOf joint.1 ue) (holds : ue.expectedXmac kind = some xmac)
  (brings : BringsNothingBack joint.1 supi kind.other ue) :
  Outstanding supi (joint.1.ueUpdate ue, joint.2.store kind xmac) where
  numbered := outstanding.numbered.store kind xmac
  held := by
    apply held_update outstanding copy brings
    · exact update_of_ne (other_ne kind) _ _
    · intro written isWritten
      rw [holds] at isWritten
      cases isWritten
      exact ⟨joint.2.stores, update_self _ _ _⟩

lemma answer_outstanding (history : AckHistory) (kind : AckKind) (ack : AckInfo)
  (response : SbiResponse) :
  (history.answer kind ack response).outstanding = history.outstanding := by
  unfold AckHistory.answer
  split <;> rfl

lemma outstanding_record {joint : SorUpuContext × AckHistory}
  (outstanding : Outstanding supi joint) {kind : AckKind} {ack : AckInfo}
  {expected : Option (Xmac × UInt16)} {ue : SorUpuUe} {response : SbiResponse}
  (passed : judge kind ack expected = .ok ()) (copy : CopyOf joint.1 ue)
  (clears : ue.expectedXmac kind = none) (present : (joint.1.ueFindBySupi supi).isSome)
  (writes : WritesOverRead supi joint.1 (.record kind ack expected ue)) :
  Outstanding supi (joint.1.ueUpdate ue, (joint.2.answer kind ack response).consume kind) where
  numbered := by
    cases reachable : ack.ueNotReachable with
    | true =>
      apply (outstanding.numbered.answer _).consume
      rw [reachable]
      exact nofun
    | false =>
      obtain ⟨xmac, counter, rfl, received⟩ := compared_of_judge passed reachable
      obtain ⟨current, found⟩ := isSome_iff_exists.mp present
      obtain ⟨number, isOutstanding⟩ :=
        outstanding.held found (writes.2 reachable current found)
      exact outstanding.numbered.acknowledge isOutstanding received response
  held := by
    apply held_update outstanding copy writes.1
    · change update (joint.2.answer kind ack response).outstanding kind none _ = _
      rw [update_of_ne (other_ne kind), answer_outstanding]
    · intro written isWritten
      rw [clears] at isWritten
      cases isWritten

lemma advance_context {joint : SorUpuContext × AckHistory} {task : SorUpuTask}
  (taskSound : TaskSound supi joint task) :
  ((sorUpuHistory deconcealSuci supi).advance joint task).1.1 = joint.1 ∨
    (∃ next ue, joint.1.ueAdd deconcealSuci supi = some (next, ue) ∧
      ((sorUpuHistory deconcealSuci supi).advance joint task).1.1 = next) ∨
    ∃ ue, CopyOf joint.1 ue ∧
      ((sorUpuHistory deconcealSuci supi).advance joint task).1.1 = joint.1.ueUpdate ue := by
  unfold sorUpuHistory observed sorUpuSystem
  cases task with
  | find kind xmac counter =>
    left
    cases found : joint.1.ueFindBySupi supi <;> simp only [found]
  | add kind xmac counter =>
    cases added : joint.1.ueAdd deconcealSuci supi with
    | none => exact .inl (by simp only [added])
    | some result =>
      obtain ⟨next, ue⟩ := result
      exact .inr (.inl ⟨next, ue, rfl, by simp only [added]⟩)
  | store kind xmac ue => exact .inr (.inr ⟨ue, taskSound.1, rfl⟩)
  | peek kind ack =>
    left
    cases judged : judge kind ack (joint.1.expectedXmac kind supi) <;> simp only [judged]
  | reread kind ack expected =>
    left
    cases found : joint.1.ueFindBySupi supi <;> simp only [found]
  | record kind ack expected ue => exact .inr (.inr ⟨ue, taskSound.2.1, rfl⟩)

lemma taskSound_mono {joint joint' : SorUpuContext × AckHistory} {task : SorUpuTask}
  (copies : ∀ {ue}, CopyOf joint.1 ue → CopyOf joint'.1 ue)
  (present : (joint.1.ueFindBySupi supi).isSome → (joint'.1.ueFindBySupi supi).isSome)
  (taskSound : TaskSound supi joint task) : TaskSound supi joint' task := by
  cases task with
  | find kind xmac counter => trivial
  | add kind xmac counter => trivial
  | store kind xmac ue => exact ⟨copies taskSound.1, taskSound.2⟩
  | peek kind ack => trivial
  | reread kind ack expected =>
    exact ⟨taskSound.1, fun isExpected => present (taskSound.2 isExpected)⟩
  | record kind ack expected ue =>
    obtain ⟨passed, copy, clears, isPresent⟩ := taskSound
    exact ⟨passed, copies copy, clears, present isPresent⟩

section

variable {joint : SorUpuContext × AckHistory}

lemma taskSound_stable {task other : SorUpuTask} (own : TaskSound supi joint task)
  (others : TaskSound supi joint other) :
  TaskSound supi ((sorUpuHistory deconcealSuci supi).advance joint task).1 other := by
  rcases @advance_context deconcealSuci _ _ _ own with
    same | ⟨next, ue, added, isNext⟩ | ⟨ue, copy, isUpdate⟩
  · apply taskSound_mono _ _ others
    · rw [same]
      exact fun held => held
    · rw [same]
      exact fun present => present
  · apply taskSound_mono _ _ others
    · rw [isNext]
      exact copyOf_add added
    · rw [isNext]
      exact find_add_isSome added
  · apply taskSound_mono _ _ others
    · rw [isUpdate]
      exact copyOf_update copy
    · rw [isUpdate]
      exact find_update_isSome copy

lemma outstanding_advance {task : SorUpuTask} (outstanding : Outstanding supi joint)
  (taskSound : TaskSound supi joint task) (writes : WritesOverRead supi joint.1 task) :
  Outstanding supi ((sorUpuHistory deconcealSuci supi).advance joint task).1 := by
  unfold sorUpuHistory observed sorUpuSystem
  cases task with
  | find kind xmac counter =>
    cases found : joint.1.ueFindBySupi supi <;> simp only [found] <;> exact outstanding
  | add kind xmac counter =>
    cases added : joint.1.ueAdd deconcealSuci supi with
    | none =>
      simp only [added]
      exact outstanding
    | some result =>
      obtain ⟨next, ue⟩ := result
      simp only [added]
      refine ⟨outstanding.numbered, ?_⟩
      intro kind' current xmac' found holds
      rcases find_add added found with rfl | before
      · rw [(copyOf_added added).2] at holds
        cases holds
      · exact outstanding.held before holds
  | store kind xmac ue =>
    obtain ⟨stored, found, -⟩ := taskSound.1
    simp only [found, isSome_some]
    exact outstanding_store outstanding taskSound.1 taskSound.2 writes
  | peek kind ack =>
    cases judged : judge kind ack (joint.1.expectedXmac kind supi) with
    | ok passed =>
      simp only [judged]
      exact outstanding
    | error response =>
      simp only [judged]
      apply outstanding_of_eq outstanding
      · apply outstanding.numbered.answer
        intro success _
        exact received_of_judge judged success
      · exact answer_outstanding _ _ _ _
  | reread kind ack expected =>
    cases found : joint.1.ueFindBySupi supi with
    | some ue =>
      simp only [found]
      exact outstanding
    | none =>
      simp only [found]
      constructor
      · apply (outstanding.numbered.answer _).consume
        intro _ reachable
        obtain ⟨xmac, counter, rfl, -⟩ := compared_of_judge taskSound.1 reachable
        have present := taskSound.2 rfl
        rw [found] at present
        cases present
      · intro kind' current xmac foundAfter
        change joint.1.ueFindBySupi supi = some current at foundAfter
        rw [found] at foundAfter
        cases foundAfter
  | record kind ack expected ue =>
    obtain ⟨passed, copy, clears, present⟩ := taskSound
    exact outstanding_record outstanding passed copy clears present writes

lemma taskSound_advance {task next : SorUpuTask} (taskSound : TaskSound supi joint task)
  (continues : ((sorUpuHistory deconcealSuci supi).advance joint task).2 = .waiting next) :
  TaskSound supi ((sorUpuHistory deconcealSuci supi).advance joint task).1 next := by
  unfold sorUpuHistory observed sorUpuSystem at continues ⊢
  cases task with
  | find kind xmac counter =>
    cases found : joint.1.ueFindBySupi supi with
    | none =>
      simp only [found] at continues
      cases continues
      trivial
    | some ue =>
      simp only [found] at continues ⊢
      cases continues
      exact ⟨copyOf_storeXmac (copyOf_found found) kind xmac counter,
        expectedXmac_storeXmac ue kind xmac counter⟩
  | add kind xmac counter =>
    cases added : joint.1.ueAdd deconcealSuci supi with
    | none =>
      simp only [added] at continues
      cases continues
    | some result =>
      obtain ⟨after, ue⟩ := result
      simp only [added] at continues ⊢
      cases continues
      exact ⟨copyOf_storeXmac (copyOf_added added).1 kind xmac counter,
        expectedXmac_storeXmac ue kind xmac counter⟩
  | store kind xmac ue => cases continues
  | peek kind ack =>
    cases judged : judge kind ack (joint.1.expectedXmac kind supi) with
    | error response =>
      simp only [judged] at continues
      cases continues
    | ok passed =>
      simp only [judged] at continues ⊢
      cases continues
      refine ⟨judged, ?_⟩
      intro isExpected
      unfold SorUpuContext.expectedXmac at isExpected
      cases found : joint.1.ueFindBySupi supi with
      | none =>
        rw [found] at isExpected
        cases isExpected
      | some ue => rfl
  | reread kind ack expected =>
    cases found : joint.1.ueFindBySupi supi with
    | none =>
      simp only [found] at continues
      cases continues
    | some ue =>
      simp only [found] at continues ⊢
      cases continues
      refine ⟨taskSound.1, copyOf_recordAck (copyOf_found found) kind _,
        expectedXmac_recordAck ue kind _, ?_⟩
      rw [found]
      rfl
  | record kind ack expected ue => cases continues

end

def SorUpuTask.Acknowledges : SorUpuTask → Prop
  | .peek .. | .reread .. | .record .. => True
  | _ => False

lemma acknowledges_writes {context : SorUpuContext} {task : SorUpuTask}
  (acknowledges : task.Acknowledges) :
  ((sorUpuSystem deconcealSuci supi).advance context task).1 = context ∨
    ∃ kind ack, ((sorUpuSystem deconcealSuci supi).advance context task).2 =
      .finished (.answered kind ack (.withStatus 204)) := by
  unfold sorUpuSystem
  cases task with
  | find kind xmac counter | add kind xmac counter | store kind xmac ue => cases acknowledges
  | peek kind ack =>
    left
    cases judged : judge kind ack (context.expectedXmac kind supi) <;> simp only [judged]
  | reread kind ack expected =>
    left
    cases found : context.ueFindBySupi supi <;> simp only [found]
  | record kind ack expected ue => exact .inr ⟨kind, ack, rfl⟩

def SorUpuContext.pool (supi : String) : TaskPool (SorUpuContext × AckHistory) SorUpuTask :=
  ⟨(context, .start context supi), []⟩

variable (deconcealSuci supi)

/-- In every interleaving whose writes go over what they read, an
acknowledgement with a MAC succeeds only with the XMAC that is outstanding, and
none succeeds twice; and one that is rejected writes nothing. -/
theorem acknowledgements_single_use (context : SorUpuContext)
  (inputs : List (PoolInput SorUpuRequest))
  (along : (sorUpuHistory deconcealSuci supi).machine.Along
    (OnAdvance fun joint task => WritesOverRead supi joint.1 task)
    (context.pool supi) inputs) :
  ((sorUpuHistory deconcealSuci supi).machine.run (context.pool supi) inputs).shared.2.SingleUse ∧
    ∀ context (task : SorUpuTask), task.Acknowledges →
      ((sorUpuSystem deconcealSuci supi).advance context task).1 = context ∨
        ∃ kind ack, ((sorUpuSystem deconcealSuci supi).advance context task).2 =
          .finished (.answered kind ack (.withStatus 204)) := by
  refine ⟨?_, fun context task acknowledges => acknowledges_writes acknowledges⟩
  have initially : Sound (Outstanding supi) (TaskSound supi) (context.pool supi) := by
    refine ⟨⟨numbered_start context supi, ?_⟩, fun task inFlight => by cases inFlight⟩
    intro kind current xmac found holds
    change (context.ueFindBySupi supi) = some current at found
    have outstanding : context.expectedXmac kind supi =
        some (xmac, (current.lastCounter kind).getD 0) := by
      simp only [SorUpuContext.expectedXmac, found, bind_some, holds, map_some]
    exact ⟨_, congrArg (Option.map _) outstanding⟩
  have atEnd : Sound (Outstanding supi) (TaskSound supi)
      ((sorUpuHistory deconcealSuci supi).machine.run (context.pool supi) inputs) := by
    refine Machine.invariant_run _ ?_ initially along
    intro pool input sound met
    apply sound_step _ _ _ _ sound met
    · intro request task joint started _
      cases request with
      | store kind xmac counter =>
        cases started
        trivial
      | acknowledge kind request =>
        cases read : ackInfo request kind with
        | error response =>
          simp only [sorUpuHistory, observed, sorUpuSystem, read] at started
          cases started
        | ok ack =>
          simp only [sorUpuHistory, observed, sorUpuSystem, read] at started
          cases started
          trivial
    · intro joint task outstanding taskSound writes
      exact outstanding_advance outstanding taskSound writes
    · intro joint task next _ taskSound _ continues
      exact taskSound_advance taskSound continues
    · intro joint task other _ own _ others
      exact taskSound_stable own others
  exact atEnd.shared.numbered.singleUse

def sampleXmac : Xmac := .replicate 16 0x11

def sampleAck : SorUpuRequest :=
  .acknowledge .sor ⟨.json <| .object [("provisioningTime", .string "2026-01-01T00:00:00Z"),
      ("sorMacIue", .string "11111111111111111111111111111111")]⟩

def oneAck : List (PoolInput SorUpuRequest) :=
  [.start (.store .sor sampleXmac 1), .advance 0, .advance 0, .advance 0,
    .start sampleAck, .advance 0, .advance 0, .advance 0]

theorem acknowledgements_single_use_sample : ((sorUpuHistory some "imsi-1").machine.run
    (SorUpuContext.pool (init 4) "imsi-1") oneAck).shared.2.SingleUse :=
  (acknowledgements_single_use some "imsi-1" (init 4) oneAck (by decide)).1

def twoAcks : List (PoolInput SorUpuRequest) :=
  [.start (.store .sor sampleXmac 1), .advance 0, .advance 0, .advance 0,
    .start sampleAck, .start sampleAck, .advance 0, .advance 1,
    .advance 0, .advance 0, .advance 0, .advance 0]

/-- Both succeed. -/
theorem acknowledged_twice : ¬ ((sorUpuHistory some "imsi-1").machine.run
    (SorUpuContext.pool (init 4) "imsi-1") twoAcks).shared.2.SingleUse := by
  intro singleUse
  obtain ⟨second, rest, isRest⟩ : ∃ second rest, ((sorUpuHistory some "imsi-1").machine.run
        (SorUpuContext.pool (init 4) "imsi-1") twoAcks).shared.2.acknowledged =
          second :: rest := ⟨_, _, rfl⟩
  obtain ⟨number, xmac, outstanding, -⟩ := singleUse.latest _ (isRest ▸ mem_cons_self)
  have consumed : ((sorUpuHistory some "imsi-1").machine.run
      (SorUpuContext.pool (init 4) "imsi-1") twoAcks).shared.2.acknowledged.map
        (fun entry => entry.outstanding.isSome) = [false, true] := by decide
  rw [isRest, map_cons, outstanding] at consumed
  cases consumed

end NextGCore.Udm
