import Mathlib.Data.List.Iterate
import NextGCore.Library.Machine

/-!
# Marks and counters
-/

/-!
## High-water marks

The abstract form of an anti-replay window: a mark that only rises, and a
value is accepted exactly when it lies above the mark.  `emitted_increasing`
is the rule for any machine that carries such a mark; `highWater` is the
smallest machine that does.
-/

namespace NextGCore.Library

open List

universe u v w x

variable {State : Type u} {Input : Type v} {Output : Type w} {Value : Type x} {mark : Option Value}
  {value : Value}

def Below [LT Value] (mark : Option Value) (value : Value) : Prop :=
  ∀ reached ∈ mark, reached < value

@[simp]
lemma below_none [LT Value] (value : Value) : Below none value := by
  simp [Below]

@[simp]
lemma below_some [LT Value] (reached value : Value) :
  Below (some reached) value ↔ reached < value := by
  simp [Below]

instance [LT Value] [DecidableLT Value] (mark : Option Value) (value : Value) :
  Decidable (Below mark value) :=
  match mark with
  | none => isTrue (below_none value)
  | some reached => decidable_of_iff (reached < value) (below_some reached value).symm

def Rises [LE Value] (mark next : Option Value) : Prop :=
  ∀ reached ∈ mark, ∃ above ∈ next, reached ≤ above

lemma rises_refl [Preorder Value] (mark : Option Value) : Rises mark mark :=
  fun reached membership => ⟨reached, membership, le_refl reached⟩

lemma emitted_increasing [Preorder Value] (machine : Machine State Input Output)
  {condition : State → Input → Prop} (emits : State × Output → Option Value)
  (mark : State → Option Value)
  (rises : ∀ state input, condition state input →
    Rises (mark state) (mark (machine.step state input).1))
  (above : ∀ state input value, condition state input →
    emits (machine.step state input) = some value →
    Below (mark state) value ∧ value ∈ mark (machine.step state input).1)
  {state : State} {inputs : List Input}
  (along : machine.Along condition state inputs) :
  (machine.emitted emits state inputs).Pairwise (· < ·) := by
  refine (machine.emitted_pairwise (fun state value => ∃ reached ∈ mark state, value ≤ reached)
    ?_ ?_ ?_ along).1
  · rintro state input value now emission earlier ⟨reached, membership, atMost⟩
    exact lt_of_le_of_lt atMost ((above state input value now emission).1 reached membership)
  · rintro state input earlier now ⟨reached, membership, atMost⟩
    obtain ⟨next, nextMembership, higher⟩ := rises state input now reached membership
    exact ⟨next, nextMembership, atMost.trans higher⟩
  · intro state input value now emission
    exact ⟨value, (above state input value now emission).2, le_refl value⟩

/-- A mark with nothing around it: what lies above it is accepted and becomes
the mark, the rest is refused. -/
def highWater (Value : Type x) [LT Value] [DecidableLT Value] :
  Machine (Option Value) Value (Option Value) where
  step mark value := if Below mark value then (some value, some value) else (mark, none)

lemma highWater_accepts [LT Value] [DecidableLT Value] (above : Below mark value) :
  (highWater Value).step mark value = (some value, some value) :=
  if_pos above

lemma highWater_refuses [LT Value] [DecidableLT Value] (notAbove : ¬ Below mark value) :
  (highWater Value).step mark value = (mark, none) :=
  if_neg notAbove

/-!
## Counters under a key

A counter that numbers the uses of the key it stands under, and starts again
when another key takes its place.  No number is used twice under one key, as
long as no key comes back after it was used.
-/

universe y

variable {State : Type u} {Input : Type v} {Output : Type w} {Value : Type x} {Key : Type y}

variable {used : List (Key × Value)} {before after : Option (Key × Value)} {pair : Key × Value}

/-- What a step may do with a keyed counter, and the use that it makes of it,
when `used` are the uses so far. -/
inductive KeyedStep [LT Value] (used : List (Key × Value)) :
    Option (Key × Value) → Option (Key × Value) → Option (Key × Value) → Prop
  | idle (current : Option (Key × Value)) : KeyedStep used current current none
  | use {key : Key} {counter next : Value} (rises : counter < next) :
      KeyedStep used (some (key, counter)) (some (key, next)) (some (key, counter))
  | rekey (before : Option (Key × Value)) {key : Key} (counter : Value)
      (unused : ∀ pair ∈ used, pair.1 ≠ key) :
      KeyedStep used before (some (key, counter)) none

lemma KeyedStep.current_of_use [LT Value] (step : KeyedStep used before after (some pair)) :
  before = some pair := by
  cases step with
  | use rises => rfl

def UsedBelow [LT Value] (used : List (Key × Value)) : Option (Key × Value) → Prop
  | none => True
  | some (key, counter) => ∀ value, (key, value) ∈ used → value < counter

lemma usedBelow_nil [LT Value] (current : Option (Key × Value)) :
  UsedBelow [] current := by
  cases current with
  | none => trivial
  | some pair => exact fun _ membership => by cases membership

variable [LT Value] [IsStrictOrder Value (· < ·)]

lemma usedBelow_step {use : Option (Key × Value)} (step : KeyedStep used before after use)
  (below : UsedBelow used before) : UsedBelow (used ++ use.toList) after := by
  cases step with
  | idle =>
    rw [Option.toList_none, append_nil]
    exact below
  | rekey _ counter unused =>
    intro value membership
    rw [Option.toList_none, append_nil] at membership
    exact absurd rfl (unused _ membership)
  | @use key counter next rises =>
    intro value membership
    rcases mem_append.mp membership with earlier | now
    · exact IsTrans.trans _ _ _ (below value earlier) rises
    · obtain ⟨-, rfl⟩ := Prod.mk.inj (mem_singleton.mp now)
      exact rises

lemma not_mem_of_keyedStep (step : KeyedStep used before after (some pair))
  (below : UsedBelow used before) : pair ∉ used := by
  obtain rfl := step.current_of_use
  intro membership
  exact Std.Irrefl.irrefl _ (below _ membership)

def noteUses (uses : State × Output → Option (Key × Value)) (used : List (Key × Value))
  (_ : State) (_ : Input) (answer : State × Output) : List (Key × Value) :=
  used ++ (uses answer).toList

lemma uses_distinct (machine : Machine State Input Output)
  (current : State → Option (Key × Value)) (uses : State × Output → Option (Key × Value))
  {condition : State × List (Key × Value) → Input → Prop}
  (steps : ∀ joint input, condition joint input →
    KeyedStep joint.2 (current joint.1) (current (machine.step joint.1 input).1)
      (uses (machine.step joint.1 input)))
  {state : State} {inputs : List Input}
  (along : (machine.observed (noteUses uses)).Along condition (state, []) inputs) :
  (machine.emitted uses state inputs).Pairwise (· ≠ ·) := by
  have counted : (machine.observed (noteUses uses)).Along
      (fun joint input => UsedBelow joint.2 (current joint.1) ∧ condition joint input)
      (state, []) inputs := by
    refine Machine.along_invariant _ ?_ ?_ along
    · intro joint input below now
      exact usedBelow_step (steps joint input now) below
    · exact usedBelow_nil _
  rw [← machine.emitted_observed (noteUses uses) uses (state, []) inputs]
  refine (Machine.emitted_pairwise _ (fun joint pair => pair ∈ joint.2) ?_ ?_ ?_ counted).1
  · intro joint input pair ⟨below, now⟩ use earlier membership
    have step := steps joint input now
    rw [show uses (machine.step joint.1 input) = some pair from use] at step
    rintro rfl
    exact not_mem_of_keyedStep step below membership
  · intro joint input earlier _ membership
    exact mem_append_left _ membership
  · intro joint input pair _ use
    apply mem_append_right
    rw [Option.mem_toList]
    exact use

/-!
## Serial counters

A counter that every step either leaves alone or advances once, and that is
only ever emitted by the step that advances it.  Whatever a run emits is then
a part of the orbit of the counter, in order.
-/

variable {State : Type u} {Input : Type v} {Output : Type w} {Value : Type x} {Stored : Type y}

lemma emitted_sublist_iterate (machine : Machine State Input Output)
  {condition : State → Input → Prop} (advance : Value → Value) (mark : State → Value)
  (stores : State × Output → Option Stored) (emits : State × Output → Option Value)
  (idle : ∀ state input, condition state input → stores (machine.step state input) = none →
    mark (machine.step state input).1 = mark state ∧ emits (machine.step state input) = none)
  (advances : ∀ state input stored, condition state input →
    stores (machine.step state input) = some stored →
    mark (machine.step state input).1 = advance (mark state) ∧
      ∀ value ∈ emits (machine.step state input), value = mark state)
  {state : State} {inputs : List Input} (along : machine.Along condition state inputs) :
  (machine.emitted emits state inputs).Sublist
    (iterate advance (mark state) (machine.emitted stores state inputs).length) := by
  induction inputs generalizing state with
  | nil => exact nil_sublist _
  | cons input rest ih =>
    obtain ⟨now, later⟩ := along
    have below := ih later
    rw [Machine.emitted_cons, Machine.emitted_cons]
    cases written : stores (machine.step state input) with
    | none =>
      obtain ⟨same, silent⟩ := idle state input now written
      rw [same] at below
      rw [silent]
      exact below
    | some stored =>
      obtain ⟨next, only⟩ := advances state input stored now written
      rw [next] at below
      change Sublist _ (mark state :: iterate advance (advance (mark state)) _)
      cases found : emits (machine.step state input) with
      | none => exact below.cons _
      | some value =>
        obtain rfl := only value found
        exact below.cons_cons _

lemma pairwise_of_sublist_iterate {advance : Value → Value} {value : Value} {count : ℕ}
  {relation : Value → Value → Prop}
  (ordered : ∀ earlier later, earlier < later → later < count →
    relation (advance^[earlier] value) (advance^[later] value))
  {values : List Value} (orbit : values.Sublist (iterate advance value count)) :
  values.Pairwise relation := by
  apply List.Pairwise.sublist orbit
  rw [← range_map_iterate, pairwise_map]
  exact pairwise_lt_range.imp_of_mem fun _ later order =>
    ordered _ _ order (mem_range.mp later)

end NextGCore.Library
