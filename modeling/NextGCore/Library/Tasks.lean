import NextGCore.Library.Machine

/-!
# Tasks, suspensions and locks
-/

/-!
## Tasks over a shared state

Requests become tasks, and each task takes one atomic step on the shared state
at a time, in any order with the others.  A step either leaves the task waiting
for its next one or finishes it.
-/

namespace NextGCore.Library

universe u v w x y

inductive Progress (Task : Type u) (Output : Type v) where
  | waiting (task : Task)
  | finished (output : Output)

structure TaskSystem (Shared : Type u) (Request : Type v) (Task : Type w)
  (Output : Type x) where
  start : Request → Progress Task Output
  advance : Shared → Task → Shared × Progress Task Output

structure TaskPool (Shared : Type u) (Task : Type v) where
  shared : Shared
  tasks : List Task

inductive PoolInput (Request : Type u) where
  | start (request : Request)
  | advance (index : ℕ)

namespace TaskSystem

variable {Shared : Type u} {Request : Type v} {Task : Type w} {Output : Type x}
  (system : TaskSystem Shared Request Task Output) {pool : TaskPool Shared Task} {index : ℕ}
  {task : Task} {shared : Shared}

def machine : Machine (TaskPool Shared Task) (PoolInput Request) (Option Output) where
  step pool input :=
    match input with
    | .start request =>
      match system.start request with
      | .waiting task => ({ pool with tasks := pool.tasks ++ [task] }, none)
      | .finished output => (pool, some output)
    | .advance index =>
      match pool.tasks[index]? with
      | none => (pool, none)
      | some task =>
        match system.advance pool.shared task with
        | (shared, .waiting next) => (⟨shared, pool.tasks.set index next⟩, none)
        | (shared, .finished output) => (⟨shared, pool.tasks.eraseIdx index⟩, some output)

def observed {Ghost : Type y} (observe : Ghost → Task → Shared × Progress Task Output → Ghost) :
  TaskSystem (Shared × Ghost) Request Task Output where
  start := system.start
  advance joint task :=
    let result := system.advance joint.1 task
    ((result.1, observe joint.2 task result), result.2)

def OnAdvance (condition : Shared → Task → Prop) (pool : TaskPool Shared Task) :
    PoolInput Request → Prop
  | .start _ => True
  | .advance index => ∀ task ∈ pool.tasks[index]?, condition pool.shared task

instance decidableOnAdvance (condition : Shared → Task → Prop)
    [∀ shared task, Decidable (condition shared task)] (pool : TaskPool Shared Task) :
    (input : PoolInput Request) → Decidable (OnAdvance condition pool input)
  | .start _ => inferInstanceAs (Decidable True)
  | .advance _ => inferInstanceAs (Decidable (∀ _ ∈ _, _))

structure Sound (sound : Shared → Prop) (taskSound : Shared → Task → Prop)
  (pool : TaskPool Shared Task) : Prop where
  shared : sound pool.shared
  tasks : ∀ task ∈ pool.tasks, taskSound pool.shared task

variable {system}

lemma step_waiting {next : Task} (found : pool.tasks[index]? = some task)
  (advanced : system.advance pool.shared task = (shared, .waiting next)) :
  (system.machine.step pool (.advance index)).1 = ⟨shared, pool.tasks.set index next⟩ := by
  simp [machine, found, advanced]

lemma step_finished {output : Output} (found : pool.tasks[index]? = some task)
  (advanced : system.advance pool.shared task = (shared, .finished output)) :
  (system.machine.step pool (.advance index)).1 = ⟨shared, pool.tasks.eraseIdx index⟩ := by
  simp [machine, found, advanced]

lemma exists_mem_eraseIdx {tasks : List Task} {good : Task → Prop}
  (found : tasks[index]? = some task) (bad : ¬ good task) (some : ∃ other ∈ tasks, good other) :
  ∃ other ∈ tasks.eraseIdx index, good other := by
  obtain ⟨other, isTask, isGood⟩ := some
  obtain ⟨position, there⟩ := List.mem_iff_getElem?.mp isTask
  refine ⟨other, List.mem_eraseIdx_iff_getElem?.mpr ⟨position, ?_, there⟩, isGood⟩
  rintro rfl
  rw [found] at there
  cases there
  exact bad isGood

lemma sound_step {condition : Shared → Task → Prop} {sound : Shared → Prop}
  {taskSound : Shared → Task → Prop}
  (starts : ∀ request task shared, system.start request = .waiting task → sound shared →
    taskSound shared task)
  (keeps : ∀ shared task, sound shared → taskSound shared task → condition shared task →
    sound (system.advance shared task).1)
  (continues : ∀ shared task next, sound shared → taskSound shared task →
    condition shared task → (system.advance shared task).2 = .waiting next →
    taskSound (system.advance shared task).1 next)
  (stable : ∀ shared task other, sound shared → taskSound shared task →
    condition shared task → taskSound shared other →
    taskSound (system.advance shared task).1 other) {input : PoolInput Request}
  (before : Sound sound taskSound pool) (met : OnAdvance condition pool input) :
  Sound sound taskSound (system.machine.step pool input).1 := by
  unfold machine
  cases input with
  | start request =>
    simp only
    cases started : system.start request with
    | finished output => exact before
    | waiting task =>
      refine ⟨before.shared, ?_⟩
      intro other inFlight
      rcases List.mem_append.mp inFlight with old | new
      · exact before.tasks other old
      · obtain rfl := List.mem_singleton.mp new
        exact starts request other pool.shared started before.shared
  | advance index =>
    simp only
    cases found : pool.tasks[index]? with
    | none => exact before
    | some task =>
      have own := before.tasks task (List.mem_of_getElem? found)
      have holds := met task found
      have kept := keeps pool.shared task before.shared own holds
      have others : ∀ other ∈ pool.tasks,
          taskSound (system.advance pool.shared task).1 other := fun other inFlight =>
        stable pool.shared task other before.shared own holds (before.tasks other inFlight)
      have next := continues pool.shared task
      cases advanced : system.advance pool.shared task with
      | mk shared progress =>
        simp only [advanced] at kept others next ⊢
        cases progress with
        | waiting following =>
          refine ⟨kept, ?_⟩
          intro other inFlight
          rcases List.mem_or_eq_of_mem_set inFlight with old | rfl
          · exact others other old
          · exact next other before.shared own holds rfl
        | finished output =>
          refine ⟨kept, ?_⟩
          intro other inFlight
          exact others other (List.mem_of_mem_eraseIdx inFlight)

end TaskSystem

/-!
## Computations with suspension points

An asynchronous function changes a state that it has for itself and awaits operations.  It may
be dropped where it awaits: what it did to the state before stays, the rest does not happen.
-/

/-- A computation has ended, or is suspended at an operation, holding a state. -/
inductive Async (State Op Answer Value : Type) where
  | done (state : State) (value : Value)
  | await (state : State) (op : Op) (next : Answer → Async State Op Answer Value)

namespace Async

variable {State Op Answer Value Other : Type}

def held : Async State Op Answer Value → State
  | done state _ => state
  | await state _ _ => state

def andThen (finish : State → Value → Async State Op Answer Other) :
    Async State Op Answer Value → Async State Op Answer Other
  | done state value => finish state value
  | await state op next => .await state op fun answer => (next answer).andThen finish

def complete (answer : Op → Answer) : Async State Op Answer Value → State × Value
  | done state value => (state, value)
  | await _ op next => (next (answer op)).complete answer

/-- What became of a computation: there is no value where it was dropped, and no answer to the
operation at which it was. -/
structure Driven (State Op Answer Value : Type) where
  state : State
  value : Option Value
  asked : List (Op × Option Answer)

/-- The operations get these answers, and where they run out the computation is dropped. -/
def drive : Async State Op Answer Value → List Answer → Driven State Op Answer Value
  | done state value, _ => ⟨state, some value, []⟩
  | await state op _, [] => ⟨state, none, [(op, none)]⟩
  | await _ op next, answer :: answers =>
    let driven := (next answer).drive answers
    { driven with asked := (op, some answer) :: driven.asked }

@[simp]
lemma andThen_done (finish : State → Value → Async State Op Answer Other) (state : State)
  (value : Value) : (done state value).andThen finish = finish state value := rfl

end Async

namespace Async

variable {State Op Reply Error Value Other : Type}

def FailsFast : Async State Op (Except Error Reply) (Except Error Value) → Prop
  | done _ _ => True
  | await _ _ next =>
    (∀ error, ∃ state, next (.error error) = .done state (.error error)) ∧
      ∀ reply, (next (.ok reply)).FailsFast

lemma FailsFast.andThen {first : Async State Op (Except Error Reply) (Except Error Value)}
  {finish : State → Except Error Value → Async State Op (Except Error Reply) (Except Error Other)}
  (fast : first.FailsFast)
  (fails : ∀ state error, finish state (.error error) = .done state (.error error))
  (fast' : ∀ state value, (finish state (.ok value)).FailsFast) :
  (first.andThen finish).FailsFast := by
  induction first with
  | done state result =>
    cases result with
    | error error =>
      rw [andThen_done, fails]
      exact trivial
    | ok value => exact fast' state value
  | await state op next ih =>
    refine ⟨fun error => ?_, fun reply => ih (.ok reply) (fast.2 reply)⟩
    obtain ⟨left, ends⟩ := fast.1 error
    exact ⟨left, (congrArg (Async.andThen finish) ends).trans (fails left error)⟩

end Async

def Program (State Op Reply Error Value : Type) : Type :=
  State → Async State Op (Except Error Reply) (Except Error Value)

namespace Program

variable {State Op Reply Error Value Other : Type}

def start (program : Program State Op Reply Error Value) (state : State) :
  Async State Op (Except Error Reply) (Except Error Value) := program state

def following (next : Value → Program State Op Reply Error Other) (left : State) :
    Except Error Value → Async State Op (Except Error Reply) (Except Error Other)
  | .ok value => (next value).start left
  | .error error => .done left (.error error)

instance : Monad (Program State Op Reply Error) where
  pure value := fun state => .done state (.ok value)
  bind program next := fun state => (program.start state).andThen (following next)

def throw (error : Error) : Program State Op Reply Error Value :=
  fun state => .done state (.error error)

def lift (result : Except Error Value) : Program State Op Reply Error Value :=
  fun state => .done state result

def given (value : Option Value) (error : Error) : Program State Op Reply Error Value :=
  match value with
  | none => throw error
  | some value => pure value

def get : Program State Op Reply Error State := fun state => .done state (.ok state)

def modify (change : State → State) : Program State Op Reply Error Unit :=
  fun state => .done (change state) (.ok ())

def call (op : Op) : Program State Op Reply Error Reply :=
  fun state => .await state op fun answer => .done state answer

@[simp]
lemma start_bind (program : Program State Op Reply Error Value)
  (next : Value → Program State Op Reply Error Other) (state : State) :
  (program >>= next).start state = (program.start state).andThen (following next) := rfl

@[simp]
lemma following_ok (next : Value → Program State Op Reply Error Other) (left : State)
  (value : Value) : following next left (.ok value) = (next value).start left := rfl

@[simp]
lemma start_ite (condition : Prop) [Decidable condition]
  (first second : Program State Op Reply Error Value) (state : State) :
  (if condition then first else second).start state =
    if condition then first.start state else second.start state := by
  split <;> rfl

@[simp]
lemma start_given_some (value : Value) (error : Error) (state : State) :
  (given (some value) error : Program State Op Reply Error Value).start state =
    .done state (.ok value) := rfl

@[simp]
lemma start_get (state : State) :
  (get : Program State Op Reply Error State).start state = .done state (.ok state) := rfl

def FailsFast (program : Program State Op Reply Error Value) : Prop :=
  ∀ state, (program.start state).FailsFast

namespace FailsFast

lemma bind {program : Program State Op Reply Error Value}
  {next : Value → Program State Op Reply Error Other} (fast : program.FailsFast)
  (fast' : ∀ value, (next value).FailsFast) : (program >>= next).FailsFast :=
  fun state => (fast state).andThen (fun _ _ => rfl) fun left value => fast' value left

lemma pure (value : Value) :
  (Pure.pure value : Program State Op Reply Error Value).FailsFast := fun _ => trivial

lemma throw (error : Error) :
  (Program.throw error : Program State Op Reply Error Value).FailsFast := fun _ => trivial

lemma given (value : Option Value) (error : Error) :
  (Program.given value error : Program State Op Reply Error Value).FailsFast := by
  cases value with
  | none => exact throw error
  | some value => exact pure value

lemma get : (Program.get : Program State Op Reply Error State).FailsFast := fun _ => trivial

lemma modify (change : State → State) :
  (Program.modify change : Program State Op Reply Error Unit).FailsFast := fun _ => trivial

lemma call (op : Op) : (Program.call op : Program State Op Reply Error Reply).FailsFast :=
  fun state => ⟨fun _ => ⟨state, rfl⟩, fun _ => trivial⟩

lemma ite {condition : Prop} [Decidable condition]
  {first second : Program State Op Reply Error Value} (fast : first.FailsFast)
  (fast' : second.FailsFast) : (if condition then first else second).FailsFast := by
  split
  case isTrue => exact fast
  case isFalse => exact fast'

end FailsFast

end Program

/-!
## Scoped guards

What a thread does to read-write locks, with every guard held to the end of a scope.  A request is
granted if it does not conflict with a guard that the thread holds itself; a thread whose every
request is granted does not block on itself.
-/

structure Guard (Lock : Type u) where
  lock : Lock
  exclusive : Bool

namespace Guard

variable {Lock : Type u}

def read (lock : Lock) : Guard Lock := ⟨lock, false⟩

def write (lock : Lock) : Guard Lock := ⟨lock, true⟩

def Compatible (held requested : Guard Lock) : Prop :=
  held.lock = requested.lock → held.exclusive = false ∧ requested.exclusive = false

end Guard

/-- The requests of a piece of code: a guard is held while the code of its scope runs. -/
inductive Locking (Lock : Type u) where
  | skip
  | seq (first second : Locking Lock)
  | holding (guard : Guard Lock) (body : Locking Lock)

namespace Locking

variable {Lock : Type u}

def each (pieces : List (Locking Lock)) : Locking Lock := pieces.foldr seq skip

def Completes (held : List (Guard Lock)) : Locking Lock → Prop
  | skip => True
  | seq first second => Completes held first ∧ Completes held second
  | holding guard body =>
    (∀ other ∈ held, other.Compatible guard) ∧ Completes (guard :: held) body

variable {held : List (Guard Lock)}

@[simp]
lemma completes_skip : Completes held (skip : Locking Lock) := trivial

@[simp]
lemma completes_seq {first second : Locking Lock} :
  Completes held (seq first second) ↔ Completes held first ∧ Completes held second := Iff.rfl

@[simp]
lemma completes_holding {guard : Guard Lock} {body : Locking Lock} :
  Completes held (holding guard body) ↔
    (∀ other ∈ held, other.Compatible guard) ∧ Completes (guard :: held) body := Iff.rfl

@[simp]
lemma completes_each {pieces : List (Locking Lock)} :
  Completes held (each pieces) ↔ ∀ piece ∈ pieces, Completes held piece := by
  induction pieces with
  | nil => simp [each]
  | cons piece rest ih =>
    rw [each, List.foldr_cons, completes_seq, List.forall_mem_cons, ← ih]
    rfl

end Locking

end NextGCore.Library
