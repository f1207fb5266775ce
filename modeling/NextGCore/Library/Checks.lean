import Mathlib.Data.List.Basic

/-!
# Computations that fail
-/

namespace NextGCore.Library

variable {Error Other Value Result : Type} {value : Value} {first : Except Error Value}
  {problem : Error}

def refuse (refused : Prop) [Decidable refused] (problem : Error) : Except Error Unit :=
  if refused then .error problem else .ok ()

def given (problem : Error) : Option Value → Except Error Value
  | none => .error problem
  | some value => .ok value

@[simp]
lemma bind_eq_ok_iff {next : Value → Except Error Result} {result : Result} :
  (first >>= next) = .ok result ↔ ∃ value, first = .ok value ∧ next value = .ok result := by
  cases first with
  | error problem | ok value => simp [bind, Except.bind]

@[simp]
lemma mapError_eq_ok_iff {rename : Error → Other} :
  first.mapError rename = .ok value ↔ first = .ok value := by
  cases first <;> simp [Except.mapError]

@[simp]
lemma refuse_eq_ok_iff {refused : Prop} [Decidable refused] {done : Unit} :
  refuse refused problem = .ok done ↔ ¬ refused := by
  unfold refuse
  split <;> simp [*]

@[simp]
lemma given_eq_ok_iff {optional : Option Value} :
  given problem optional = .ok value ↔ optional = some value := by
  cases optional <;> simp [given]

@[simp]
lemma pure_eq_ok_iff {result : Value} :
  (pure value : Except Error Value) = .ok result ↔ value = result := by
  simp [pure, Except.pure]

lemma ok_bind (value : Value) (next : Value → Except Error Result) :
  ((.ok value : Except Error Value) >>= next) = next value := rfl

/-!
## Attempts

A computation that may change a state and may fail; a failure takes back nothing.  One that
checks first and changes what can be seen of the state last leaves it as it was when it fails.
-/

universe u

def Attempt (State Error Value : Type) := State → Except Error Value × State

namespace Attempt

variable {State Error Value Result View : Type} {first : Attempt State Error Value}
  {state after : State} {value : Value} {next : Value → Attempt State Error Result}
  {change : State → State} {Item : Type} {body : Item → Attempt State Error PUnit}

instance monad : Monad (Attempt State Error) where
  pure value := fun state => (.ok value, state)
  bind first next := fun state =>
    let answer := first state
    match answer.1 with
    | .error problem => (.error problem, answer.2)
    | .ok value => next value answer.2

def inspect (check : State → Except Error Value) : Attempt State Error Value :=
  fun state => (check state, state)

def modify (change : State → State) : Attempt State Error Unit :=
  fun state => (.ok (), change state)

lemma bind_apply (first : Attempt State Error Value) (next : Value → Attempt State Error Result)
  (state : State) :
  (first >>= next) state = match (first state).1 with
    | .error problem => (.error problem, (first state).2)
    | .ok value => next value (first state).2 := rfl

lemma bind_of_ok (succeeded : (first state).1 = .ok value)
  (next : Value → Attempt State Error Result) :
  (first >>= next) state = next value (first state).2 := by
  rw [bind_apply, succeeded]

lemma bind_of_error {problem : Error} (failed : (first state).1 = .error problem)
  (next : Value → Attempt State Error Result) :
  (first >>= next) state = (.error problem, (first state).2) := by
  rw [bind_apply, failed]

@[simp]
lemma bind_eq_ok_iff {result : Result} :
  (first >>= next) state = (.ok result, after) ↔
    ∃ value between, first state = (.ok value, between) ∧
      next value between = (.ok result, after) := by
  rw [bind_apply]
  cases answer : first state with
  | mk outcome between => cases outcome <;> simp

@[simp]
lemma inspect_eq_ok_iff {check : State → Except Error Value} :
  inspect check state = (.ok value, after) ↔ check state = .ok value ∧ state = after := by
  simp [inspect]

@[simp]
lemma modify_eq_ok_iff {done : Unit} :
  (modify change : Attempt State Error Unit) state = (.ok done, after) ↔
    change state = after := by
  simp [modify]

@[simp]
lemma pure_eq_ok_iff {result : Value} :
  (Pure.pure value : Attempt State Error Value) state = (.ok result, after) ↔
    value = result ∧ state = after := by
  simp [Pure.pure]

def Succeeds (attempt : Attempt State Error Value) (state : State) : Prop :=
  ∃ value after, attempt state = (.ok value, after)

lemma succeeds_bind {good : Prop}
  (later : ∀ value between, (next value).Succeeds between ↔ good) :
  (first >>= next).Succeeds state ↔ first.Succeeds state ∧ good := by
  constructor
  · rintro ⟨result, after, succeeded⟩
    obtain ⟨value, between, here, there⟩ := bind_eq_ok_iff.mp succeeded
    exact ⟨⟨value, between, here⟩, (later value between).mp ⟨result, after, there⟩⟩
  · rintro ⟨⟨value, between, here⟩, isGood⟩
    obtain ⟨result, after, there⟩ := (later value between).mpr isGood
    exact ⟨result, after, bind_eq_ok_iff.mpr ⟨value, between, here, there⟩⟩

lemma succeeds_forM {good : Item → Prop}
  (each : ∀ item state, (body item).Succeeds state ↔ good item) (items : List Item)
  (state : State) : Attempt.Succeeds (items.forM body) state ↔ ∀ item ∈ items, good item := by
  induction items generalizing state with
  | nil => simp [Succeeds]
  | cons item rest ih =>
    rw [List.forall_mem_cons, ← each item state]
    exact succeeds_bind fun _ => ih

def Keeps (view : State → View) (attempt : Attempt State Error Value) : Prop :=
  ∀ state, view (attempt state).2 = view state

def FailSafe (view : State → View) (attempt : Attempt State Error Value) : Prop :=
  ∀ state problem, (attempt state).1 = .error problem → view (attempt state).2 = view state

def NeverFails (attempt : Attempt State Error Value) : Prop :=
  ∀ state, ∃ value, (attempt state).1 = .ok value

variable {view : State → View} {first : Attempt State Error Value}
  {next : Value → Attempt State Error Result}

lemma Keeps.inspect (check : State → Except Error Value) : Keeps view (inspect check) :=
  fun _ => rfl

lemma Keeps.pure (value : Value) :
  Keeps view (Pure.pure value : Attempt State Error Value) :=
  fun _ => rfl

lemma Keeps.bind (here : Keeps view first) (later : ∀ value, Keeps view (next value)) :
  Keeps view (first >>= next) := by
  intro state
  rw [bind_apply]
  cases (first state).1 with
  | error problem => exact here state
  | ok value => exact (later value (first state).2).trans (here state)

lemma Keeps.modify (kept : ∀ state, view (change state) = view state) :
  Keeps view (modify change : Attempt State Error Unit) :=
  kept

lemma Keeps.forM (each : ∀ item, Keeps view (body item)) (items : List Item) :
  Keeps view (items.forM body) := by
  induction items with
  | nil => exact Keeps.pure _
  | cons item rest ih =>
    exact Keeps.bind (each item) fun _ => ih

lemma NeverFails.modify (change : State → State) :
  NeverFails (modify change : Attempt State Error Unit) :=
  fun _ => ⟨(), rfl⟩

lemma NeverFails.pure (value : Value) :
  NeverFails (Pure.pure value : Attempt State Error Value) :=
  fun _ => ⟨value, rfl⟩

lemma NeverFails.bind (here : NeverFails first) (later : ∀ value, NeverFails (next value)) :
  NeverFails (first >>= next) := by
  intro state
  obtain ⟨value, succeeded⟩ := here state
  rw [bind_of_ok succeeded]
  exact later value (first state).2

lemma FailSafe.of_neverFails (total : NeverFails first) : FailSafe view first := by
  intro state problem failed
  obtain ⟨value, succeeded⟩ := total state
  rw [succeeded] at failed
  cases failed

lemma FailSafe.bind (here : Keeps view first) (later : ∀ value, FailSafe view (next value)) :
  FailSafe view (first >>= next) := by
  intro state problem failed
  cases answer : (first state).1 with
  | error own =>
    rw [bind_of_error answer]
    exact here state
  | ok value =>
    rw [bind_of_ok answer] at failed ⊢
    exact (later value _ problem failed).trans (here state)

end Attempt

end NextGCore.Library
