import Mathlib.Data.List.Pairwise
import NextGCore.Sepp.ReplayWindow

/-!
# The SEQs that are sent

The concurrent senders of an N32-f context add to one atomic counter, and a run is the order of
their additions.  The counter wraps and is tested before the addition only.
-/

namespace NextGCore.Sepp

open Library List UInt32

structure SeqSpace where
  kid : String
  originator : N32fRole
  direction : N32fDirection
  deriving DecidableEq

namespace SeqSpace

def key (space : SeqSpace) : String := seqKey space.kid space.originator space.direction

def suffix (originator : N32fRole) (direction : N32fDirection) : List Char :=
  ("|" ++ originator.debug ++ "|" ++ direction.debug).toList

lemma toList_key (space : SeqSpace) :
  space.key.toList = space.kid.toList ++ suffix space.originator space.direction := by
  simp only [key, seqKey, suffix, String.toList_append, append_assoc]

lemma suffix_injective {first second : N32fRole} {one other : N32fDirection}
  (same : (suffix first one).reverse.take 17 = (suffix second other).reverse.take 17) :
  first = second ∧ one = other := by
  revert same
  cases first <;> cases second <;> cases one <;> cases other <;> decide

lemma length_suffix (originator : N32fRole) (direction : N32fDirection) :
  17 ≤ (suffix originator direction).reverse.length := by
  cases originator <;> cases direction <;> decide

lemma key_injective : Function.Injective key := by
  intro first second same
  have letters := congrArg (fun key : String => key.toList.reverse) same
  simp only [toList_key, reverse_append] at letters
  have ends := congrArg (take 17) letters
  rw [take_append_of_le_length (length_suffix _ _),
    take_append_of_le_length (length_suffix _ _)] at ends
  obtain ⟨kid, originator, direction⟩ := first
  obtain ⟨other, originator', direction'⟩ := second
  obtain ⟨rfl, rfl⟩ := suffix_injective ends
  have kids := reverse_inj.mp (append_cancel_left letters)
  obtain rfl : kid = other := String.toList_inj.mp kids
  rfl

end SeqSpace

variable {space : SeqSpace} {counters : SendCounters} {calls : List SeqSpace}

/-- What the calls for `space` return, in the order of the additions. -/
def answers (space : SeqSpace) (counters : SendCounters) :
    List SeqSpace → List (Except JoseError UInt32)
  | [] => []
  | call :: rest =>
    let (answer, next) := nextSendSeq counters call.key
    if call = space then answer :: answers space next rest else answers space next rest

/-- What a call returns that finds the counter at `seq`. -/
def answerAt (seq : UInt32) : Except JoseError UInt32 := (nextSendSeq (fun _ => seq) "").1

lemma answerAt_eq_ok_iff {seq answer : UInt32} :
  answerAt seq = .ok answer ↔ seq ≠ 0xFFFFFFFF ∧ seq = answer := by
  unfold answerAt nextSendSeq refuse
  dsimp only
  split
  case isTrue last => exact iff_of_false nofun fun ok => ok.1 last
  case isFalse other => exact ⟨fun ok => ⟨other, Except.ok.inj ok⟩, fun ok => ok.2 ▸ rfl⟩

lemma answers_eq : answers space counters calls = (range (calls.count space)).map fun place =>
    answerAt (counters space.key + ofNat place) := by
  induction calls generalizing counters with
  | nil => rfl
  | cons call rest ih =>
    unfold answers
    dsimp only
    split
    case isTrue same =>
      subst same
      have onward (place : ℕ) : counters call.key + 1 + ofNat place =
          counters call.key + ofNat (place + 1) := by
        rw [ofNat_add, add_assoc, add_comm 1]
        rfl
      have next : (nextSendSeq counters call.key).2 call.key = counters call.key + 1 :=
        Function.update_self ..
      rw [ih, next, count_cons_self, range_succ_eq_map, map_cons, map_map]
      refine congrArg₂ List.cons ?_ (map_congr_left fun place _ => ?_)
      · rw [show ofNat 0 = 0 from rfl, add_zero]
        rfl
      · exact congrArg answerAt (onward place)
    case isFalse other =>
      have kept : (nextSendSeq counters call.key).2 space.key = counters space.key :=
        Function.update_of_ne (fun same => other (SeqSpace.key_injective same).symm) ..
      rw [ih, kept, count_cons_of_ne other]

/-- A call that returns a SEQ comes behind calls that return others. -/
def Unrepeated (earlier later : Except JoseError UInt32) : Prop :=
  ∀ seq, later = .ok seq → ∃ other, earlier = .ok other ∧ other ≠ seq

def fresh : SendCounters := fun _ => 0

lemma pairwise_unrepeated (few : calls.count space ≤ 2 ^ 32) :
  (answers space fresh calls).Pairwise Unrepeated := by
  rw [answers_eq, pairwise_map]
  refine List.Pairwise.imp_of_mem ?_ pairwise_lt_range
  intro earlier later _ among before seq ok
  have small : later < 2 ^ 32 := Nat.lt_of_lt_of_le (mem_range.mp among) few
  have laterIs : (ofNat later).toNat = later := toNat_ofNat_of_lt' small
  have earlierIs : (ofNat earlier).toNat = earlier :=
    toNat_ofNat_of_lt' (Nat.lt_trans before small)
  rw [fresh, zero_add] at ok ⊢
  obtain ⟨unspent, rfl⟩ := answerAt_eq_ok_iff.mp ok
  refine ⟨ofNat earlier, answerAt_eq_ok_iff.mpr ⟨fun spent => ?_, rfl⟩, fun same => ?_⟩
  · have last : earlier = 2 ^ 32 - 1 := earlierIs.symm.trans (congrArg toNat spent)
    omega
  · have equal := congrArg toNat same
    omega

lemma not_pairwise_unrepeated (many : 2 ^ 32 < calls.count space) :
  ¬ (answers space fresh calls).Pairwise Unrepeated := by
  rw [answers_eq, pairwise_map]
  intro unrepeated
  have repeated := pairwise_iff_getElem.mp unrepeated 0 (2 ^ 32)
    (by rw [length_range]; omega) (by rw [length_range]; exact many) (by decide)
  simp only [getElem_range] at repeated
  obtain ⟨other, first, different⟩ := repeated 0 rfl
  exact different (Except.ok.inj first).symm

/-- The SEQs are without repetition and end with the first error exactly when the space is used at
most 2^32 times; spaces share no counter. -/
theorem pairwise_unrepeated_iff (space : SeqSpace) (calls : List SeqSpace) :
  (answers space fresh calls).Pairwise Unrepeated ∧
      (∀ other, other ≠ space → other.key ≠ space.key) ↔
    calls.count space ≤ 2 ^ 32 := by
  constructor
  · rintro ⟨unrepeated, -⟩
    by_contra many
    exact not_pairwise_unrepeated (Nat.not_le.mp many) unrepeated
  · exact fun few => ⟨pairwise_unrepeated few, fun _ other => SeqSpace.key_injective.ne other⟩

/-- Behind the one error the counter starts again. -/
theorem not_always_unrepeated : ¬ ∀ (space : SeqSpace) (calls : List SeqSpace),
  (answers space fresh calls).Pairwise Unrepeated := by
  intro always
  let space : SeqSpace := ⟨"ctx", .initiator, .request⟩
  refine not_pairwise_unrepeated ?_ (always space (replicate (2 ^ 32 + 1) space))
  rw [count_replicate_self]
  omega

/-- What the receiver has of a space: its window, and the messages it took.  A message is known by
the place of the call that gave its SEQ. -/
structure Delivered where
  window : ReplayWindow
  taken : List ℕ

def network (space : SeqSpace) (calls : List SeqSpace) : Machine Delivered ℕ Bool where
  step state message :=
    match (answers space fresh calls)[message]? with
    | some (.ok seq) =>
      match state.window.checkAndCommit seq with
      | (.ok (), window) => (⟨window, message :: state.taken⟩, true)
      | (.error _, window) => (⟨window, state.taken⟩, false)
    | _ => (state, false)

/-- The messages come in any order, some of them never and some of them again. -/
def delivery (space : SeqSpace) (calls : List SeqSpace) (arrivals : List ℕ) : Delivered :=
  (network space calls).run ⟨.new, []⟩ arrivals

lemma toNat_of_answers {message : ℕ} {seq : UInt32} (few : calls.count space ≤ 2 ^ 32)
  (sent : (answers space fresh calls)[message]? = some (.ok seq)) : seq.toNat = message := by
  rw [answers_eq, getElem?_map, Option.map_eq_some_iff] at sent
  obtain ⟨place, isPlace, answer⟩ := sent
  obtain ⟨small, rfl⟩ := List.getElem?_eq_some_iff.mp isPlace
  rw [length_range] at small
  rw [getElem_range, fresh, UInt32.zero_add] at answer
  obtain ⟨-, rfl⟩ := answerAt_eq_ok_iff.mp answer
  exact toNat_ofNat_of_lt' (Nat.lt_of_lt_of_le small few)

def Recorded (state : Delivered) : Prop :=
  state.window.sliding.Records state.taken ∧ state.taken.Nodup

/-- A message is taken that was sent and is not refused by the window. -/
lemma taken_iff (few : calls.count space ≤ 2 ^ 32) (state : Delivered) (message : ℕ) :
  ((network space calls).step state message).2 = true ↔
    (∃ seq, (answers space fresh calls)[message]? = some (.ok seq)) ∧
      ¬ state.window.sliding.Refused message := by
  unfold network
  dsimp only
  split
  case h_1 seq sent =>
    have number := toNat_of_answers few sent
    split
    case h_1 next committed =>
      have unrefused := ReplayWindow.not_refuses_of_ok committed
      rw [ReplayWindow.Refuses, number] at unrefused
      exact iff_of_true rfl ⟨⟨seq, sent⟩, unrefused⟩
    case h_2 text left failed =>
      have refused := ReplayWindow.sliding_checkAndCommit state.window seq
      rw [failed, number] at refused
      exact iff_of_false Bool.false_ne_true fun both =>
        both.2 (SlidingWindow.commit_eq_none.mp refused.symm)
  case h_2 other => exact iff_of_false Bool.false_ne_true fun both => other _ both.1.choose_spec

lemma recorded_step (few : calls.count space ≤ 2 ^ 32) (state : Delivered) (message : ℕ)
  (recorded : Recorded state) : Recorded ((network space calls).step state message).1 := by
  unfold network
  dsimp only
  split
  case h_1 seq sent =>
    split
    case h_1 next committed =>
      have commit := ReplayWindow.commit_of_ok committed
      have unrefused := SlidingWindow.not_refused_of_commit commit
      rw [toNat_of_answers few sent] at commit unrefused
      rw [recorded.1.refused_iff] at unrefused
      exact ⟨recorded.1.commit commit, nodup_cons.mpr ⟨fun again => unrefused (.inl again),
        recorded.2⟩⟩
    case h_2 refused =>
      rw [ReplayWindow.eq_of_error refused]
      exact recorded
  case h_2 => exact recorded

/-- No message is taken twice, and one is taken exactly if it was sent, was not taken before and is
less than 64 behind each that was. -/
theorem delivers_once (few : calls.count space ≤ 2 ^ 32) (arrivals : List ℕ) (message : ℕ) :
  (delivery space calls arrivals).taken.Nodup ∧
    (((network space calls).step (delivery space calls arrivals) message).2 = true ↔
      (∃ seq, (answers space fresh calls)[message]? = some (.ok seq)) ∧
        message ∉ (delivery space calls arrivals).taken ∧
        ∀ other ∈ (delivery space calls arrivals).taken, other < message + 64) := by
  have start : ReplayWindow.new.sliding.Records [] := ⟨fun _ => rfl, nofun, nofun⟩
  have recorded : Recorded (delivery space calls arrivals) :=
    (network space calls).invariant_run_always (recorded_step few) ⟨start, nodup_nil⟩ arrivals
  generalize delivery space calls arrivals = state at recorded ⊢
  refine ⟨recorded.2, (taken_iff few state message).trans (and_congr_right fun _ => ?_)⟩
  rw [recorded.1.refused_iff, not_or]
  refine and_congr_right fun _ => ⟨fun near other isTaken => ?_, ?_⟩
  · obtain ⟨high, isHigh⟩ : ∃ high, state.window.sliding.high = some high :=
      Option.ne_none_iff_exists'.mp fun none => by simp [recorded.1.fresh none] at isTaken
    obtain ⟨among, highest⟩ := recorded.1.highest high isHigh
    have inside := mt (fun far => ⟨high, among, highest, far⟩) near
    exact Nat.lt_of_le_of_lt (highest other isTaken) (Nat.not_le.mp inside)
  · rintro near ⟨high, among, -, far⟩
    exact Nat.not_lt.mpr far (near high among)

theorem delivers_overtaken : ∃ space : SeqSpace,
  (delivery space [space, space] [1]).taken.Nodup ∧
    (((network space [space, space]).step (delivery space [space, space] [1]) 0).2 = true ↔
      (∃ seq, (answers space fresh [space, space])[0]? = some (.ok seq)) ∧
        0 ∉ (delivery space [space, space] [1]).taken ∧
        ∀ other ∈ (delivery space [space, space] [1]).taken, other < 0 + 64) :=
  ⟨⟨"ctx", .initiator, .request⟩, delivers_once (by simp) [1] 0⟩

end NextGCore.Sepp
