import Mathlib.Data.List.Basic
import Mathlib.Order.Basic

/-!
# Machines and their runs

A machine answers every input with an output and a next state.  The rules of
this file are the ones every safety proof of the development is an instance
of: an invariant kept by the steps that meet a side condition holds after
every run whose steps meet it; a relation kept by both machines makes their
traces equal; values that each step emits above everything emitted before it
are pairwise related in the order of emission.
-/

namespace NextGCore.Library

universe u v w x y z

structure Machine (State : Type u) (Input : Type v) (Output : Type w) where
  step : State → Input → State × Output

namespace Machine

variable {State : Type u} {Input : Type v} {Output : Type w} {Value : Type x}
  {condition : State → Input → Prop} {state : State} {inputs : List Input}
  {invariant : State → Prop} {Ghost : Type y} {emits : State × Output → Option Value}
  {property : State → Prop}

def run (machine : Machine State Input Output) : State → List Input → State
  | state, [] => state
  | state, input :: rest => machine.run (machine.step state input).1 rest

def trace (machine : Machine State Input Output) : State → List Input → List (State × Output)
  | _, [] => []
  | state, input :: rest =>
    machine.step state input :: machine.trace (machine.step state input).1 rest

/-- Every step of the run meets `condition` in the state it is taken from. -/
def Along (machine : Machine State Input Output)
    (condition : State → Input → Prop) : State → List Input → Prop
  | _, [] => True
  | state, input :: rest =>
    condition state input ∧ machine.Along condition (machine.step state input).1 rest

instance decidableAlong (machine : Machine State Input Output) (condition : State → Input → Prop)
  [∀ state input, Decidable (condition state input)] (inputs : List Input) :
  (state : State) → Decidable (machine.Along condition state inputs) :=
  match inputs with
  | [] => fun _ => inferInstanceAs (Decidable True)
  | input :: rest => fun state =>
    have := decidableAlong machine condition rest (machine.step state input).1
    inferInstanceAs (Decidable (condition state input ∧ _))

variable (machine : Machine State Input Output)

@[simp]
lemma run_nil (state : State) : machine.run state [] = state := rfl

@[simp]
lemma run_cons (state : State) (input : Input) (rest : List Input) :
  machine.run state (input :: rest) = machine.run (machine.step state input).1 rest := rfl

@[simp]
lemma trace_nil (state : State) : machine.trace state [] = [] := rfl

@[simp]
lemma trace_cons (state : State) (input : Input) (rest : List Input) :
  machine.trace state (input :: rest) = machine.step state input ::
      machine.trace (machine.step state input).1 rest := rfl

@[simp]
lemma along_nil (condition : State → Input → Prop) (state : State) :
  machine.Along condition state [] := trivial

@[simp]
lemma along_cons (condition : State → Input → Prop)
  (state : State) (input : Input) (rest : List Input) :
  machine.Along condition state (input :: rest) ↔ condition state input ∧
      machine.Along condition (machine.step state input).1 rest := Iff.rfl

lemma run_append (state : State) (first second : List Input) :
  machine.run state (first ++ second) = machine.run (machine.run state first) second := by
  induction first generalizing state with
  | nil => rfl
  | cons input rest ih =>
    simpa using ih (machine.step state input).1

lemma along_append (condition : State → Input → Prop) (state : State)
  (first second : List Input) :
  machine.Along condition state (first ++ second) ↔ machine.Along condition state first ∧
      machine.Along condition (machine.run state first) second := by
  induction first generalizing state with
  | nil => exact ⟨fun along => ⟨trivial, along⟩, fun both => both.2⟩
  | cons input rest ih =>
    rw [List.cons_append, along_cons, along_cons, run_cons, ih, and_assoc]

lemma along_of_forall (always : ∀ state input, condition state input) (state : State)
  (inputs : List Input) : machine.Along condition state inputs := by
  induction inputs generalizing state with
  | nil => trivial
  | cons input rest ih =>
    exact ⟨always state input, ih _⟩

lemma along_true (state : State) (inputs : List Input) :
  machine.Along (fun _ _ => True) state inputs :=
  machine.along_of_forall (fun _ _ => trivial) state inputs

lemma along_imp {weaker : State → Input → Prop}
  (implies : ∀ state input, condition state input → weaker state input)
  (along : machine.Along condition state inputs) : machine.Along weaker state inputs := by
  induction inputs generalizing state with
  | nil => trivial
  | cons input rest ih =>
    exact ⟨implies state input along.1, ih along.2⟩

lemma along_iff_forall_mem (condition : Input → Prop) (state : State) (inputs : List Input) :
  machine.Along (fun _ input => condition input) state inputs ↔
    ∀ input ∈ inputs, condition input := by
  induction inputs generalizing state with
  | nil => simp
  | cons input rest ih =>
    rw [along_cons, ih, List.forall_mem_cons]

section

variable
  (preserved : ∀ state input, invariant state → condition state input →
    invariant (machine.step state input).1)
  (initially : invariant state) (along : machine.Along condition state inputs)

include preserved initially along

lemma along_invariant :
  machine.Along (fun state input => invariant state ∧ condition state input)
    state inputs := by
  induction inputs generalizing state with
  | nil => trivial
  | cons input rest ih =>
    exact ⟨⟨initially, along.1⟩, ih (preserved state input initially along.1) along.2⟩

lemma invariant_run : invariant (machine.run state inputs) := by
  induction inputs generalizing state with
  | nil => exact initially
  | cons input rest ih =>
    exact ih (preserved state input initially along.1) along.2

end

lemma invariant_run_always
  (preserved : ∀ state input, invariant state → invariant (machine.step state input).1)
  (initially : invariant state) (inputs : List Input) : invariant (machine.run state inputs) :=
  machine.invariant_run (fun state input holds _ => preserved state input holds) initially
    (machine.along_true state inputs)

lemma simulation {Other : Type y} {Output' : Type z} (other : Machine Other Input Output')
  (related : State → Other → Prop) (answers : Output → Output' → Prop)
  (simulates : ∀ state state' input, related state state' → condition state input →
    related (machine.step state input).1 (other.step state' input).1 ∧
      answers (machine.step state input).2 (other.step state' input).2) {state' : Other}
  (initially : related state state') (along : machine.Along condition state inputs) :
  List.Forall₂ (fun left right => related left.1 right.1 ∧ answers left.2 right.2)
    (machine.trace state inputs) (other.trace state' inputs) := by
  induction inputs generalizing state state' with
  | nil => exact .nil
  | cons input rest ih =>
    have now := simulates state state' input initially along.1
    exact .cons now (ih now.1 along.2)

def emitted (emits : State × Output → Option Value)
  (state : State) (inputs : List Input) : List Value :=
  (machine.trace state inputs).filterMap emits

@[simp]
lemma emitted_nil (emits : State × Output → Option Value) (state : State) :
  machine.emitted emits state [] = [] := rfl

lemma emitted_cons (emits : State × Output → Option Value)
  (state : State) (input : Input) (rest : List Input) :
  machine.emitted emits state (input :: rest) = (emits (machine.step state input)).toList ++
      machine.emitted emits (machine.step state input).1 rest := by
  unfold emitted
  cases found : emits (machine.step state input) <;>
    simp [found]

lemma emitted_forall {property : Value → Prop}
  (holds : ∀ state input value, condition state input →
    emits (machine.step state input) = some value → property value)
  (along : machine.Along condition state inputs) :
  ∀ value ∈ machine.emitted emits state inputs, property value := by
  induction inputs generalizing state with
  | nil => simp
  | cons input rest ih =>
    intro value membership
    rw [emitted_cons, List.mem_append] at membership
    rcases membership with now | later
    · exact holds state input value along.1 (by simpa using now)
    · exact ih along.2 value later

lemma map_emitted {Reading : Type y} (emits : State × Output → Option Value)
  (read : Value → Reading) (state : State) (inputs : List Input) :
  (machine.emitted emits state inputs).map read =
    machine.emitted (fun answer => (emits answer).map read) state inputs :=
  List.map_filterMap

lemma emitted_pairwise {relation : Value → Value → Prop} (below : State → Value → Prop)
  (fresh : ∀ state input value, condition state input →
    emits (machine.step state input) = some value →
    ∀ earlier, below state earlier → relation earlier value)
  (kept : ∀ state input earlier, condition state input →
    below state earlier → below (machine.step state input).1 earlier)
  (accounted : ∀ state input value, condition state input →
    emits (machine.step state input) = some value →
    below (machine.step state input).1 value) (along : machine.Along condition state inputs) :
  (machine.emitted emits state inputs).Pairwise relation ∧ ∀ earlier, below state earlier →
      ∀ value ∈ machine.emitted emits state inputs, relation earlier value := by
  induction inputs generalizing state with
  | nil => simp
  | cons input rest ih =>
    obtain ⟨now, later⟩ := along
    obtain ⟨pairwise, above⟩ := ih later
    rw [emitted_cons]
    cases found : emits (machine.step state input) with
    | none =>
      refine ⟨by simpa using pairwise, fun earlier accountedFor => ?_⟩
      simpa using above earlier (kept state input earlier now accountedFor)
    | some value =>
      have first := above value (accounted state input value now found)
      refine ⟨by simpa using ⟨first, pairwise⟩, fun earlier accountedFor => ?_⟩
      have toValue := fresh state input value now found earlier accountedFor
      have toLater := above earlier (kept state input earlier now accountedFor)
      simpa using ⟨toValue, toLater⟩

/-- The machine driven by the part of another input that concerns it; the
rest leaves it alone and gets the answer `idle`. -/
def through {Input' : Type y} (machine : Machine State Input Output)
  (idle : Output) (select : Input' → Option Input) : Machine State Input' Output where
  step state input :=
    match select input with
    | none => (state, idle)
    | some selected => machine.step state selected

def observed {Ghost : Type y} (machine : Machine State Input Output)
  (observe : Ghost → State → Input → State × Output → Ghost) :
  Machine (State × Ghost) Input Output where
  step joint input :=
    let answer := machine.step joint.1 input
    ((answer.1, observe joint.2 joint.1 input answer), answer.2)

section

variable (observe : Ghost → State → Input → State × Output → Ghost)

include observe

@[simp]
lemma observed_step (joint : State × Ghost) (input : Input) :
  (machine.observed observe).step joint input = (((machine.step joint.1 input).1,
        observe joint.2 joint.1 input (machine.step joint.1 input)),
      (machine.step joint.1 input).2) := rfl

lemma along_observed (condition : State → Input → Prop) (joint : State × Ghost)
  (inputs : List Input) :
  (machine.observed observe).Along (fun joint input => condition joint.1 input)
      joint inputs ↔
    machine.Along condition joint.1 inputs := by
  induction inputs generalizing joint with
  | nil => exact Iff.rfl
  | cons input rest ih =>
    exact and_congr Iff.rfl (ih _)

lemma emitted_observed (emits : State × Output → Option Value) (joint : State × Ghost)
  (inputs : List Input) :
  (machine.observed observe).emitted (fun answer => emits (answer.1.1, answer.2))
      joint inputs =
    machine.emitted emits joint.1 inputs := by
  induction inputs generalizing joint with
  | nil => rfl
  | cons input rest ih =>
    rw [emitted_cons, emitted_cons, ih]
    rfl

end

lemma along_of_invariant {property : State → Input → Prop}
  (preserved : ∀ state input, invariant state → condition state input →
    invariant (machine.step state input).1)
  (gives : ∀ state input, invariant state → condition state input → property state input)
  (initially : invariant state) (along : machine.Along condition state inputs) :
  machine.Along property state inputs :=
  machine.along_imp (fun state input both => gives state input both.1 both.2)
    (machine.along_invariant preserved initially along)

lemma reached_iff_along_given {assumed : State → Input → Prop}
  (gives : ∀ state, invariant state → property state)
  (preserved : ∀ state input, invariant state → assumed state input → condition state input →
    invariant (machine.step state input).1)
  (needed : ∀ state input, invariant state → assumed state input →
    property (machine.step state input).1 → condition state input) (initially : invariant state)
  (given : machine.Along assumed state inputs) :
  (∀ steps, property (machine.run state (inputs.take steps))) ↔
    machine.Along condition state inputs := by
  constructor
  · intro reached
    induction inputs generalizing state with
    | nil => trivial
    | cons input rest ih =>
      have now := needed state input initially given.1 (reached 1)
      exact ⟨now, ih (preserved state input initially given.1 now) given.2
        fun steps => reached (steps + 1)⟩
  · intro along steps
    induction inputs generalizing state steps with
    | nil =>
      rw [List.take_nil]
      exact gives state initially
    | cons input rest ih =>
      cases steps with
      | zero => exact gives state initially
      | succ steps =>
        exact ih (preserved state input initially given.1 along.1) given.2 along.2 steps

lemma reached_iff_along (gives : ∀ state, invariant state → property state)
  (preserved : ∀ state input, invariant state → condition state input →
    invariant (machine.step state input).1)
  (needed : ∀ state input, invariant state → property (machine.step state input).1 →
    condition state input) (initially : invariant state) (inputs : List Input) :
  (∀ steps, property (machine.run state (inputs.take steps))) ↔
    machine.Along condition state inputs :=
  machine.reached_iff_along_given gives (fun state input holds _ => preserved state input holds)
    (fun state input holds _ => needed state input holds) initially
    (machine.along_true state inputs)

end Machine

end NextGCore.Library
