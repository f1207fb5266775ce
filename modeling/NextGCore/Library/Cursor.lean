import Mathlib.Data.List.Basic

/-!
# Appending writers and readers with a cursor

A writer only appends to a buffer; a reader moves a cursor over a source that it does not
change, and the cursor stays where it is when the reader stops.  Two logics are closed under
sequencing: `Recovers`, by which a reader that starts where a writer started is left where
the writer ended, and `Confined`, by which a reader keeps its cursor inside the source, moves
it forward, and stops only for the reasons listed.
-/

namespace NextGCore.Library

variable {Stop Item Source State Value Other : Type} {first : EStateM Stop State Value}
  {second : Value → EStateM Stop State Other} {state : State} {stop missing : Stop}
  {source : List Item} {result : Except Stop Other} {condition : Prop}

abbrev Writing (Stop Item : Type) : Type → Type := EStateM Stop (List Item)

abbrev CursorReading (Stop : Type) : Type → Type := EStateM Stop ℕ

variable {following : Source → Value → CursorReading Stop Other}
  {onward : Other → Writing Stop Item Unit}

instance decidableEqResult [DecidableEq Stop] [DecidableEq State] [DecidableEq Value] :
    DecidableEq (EStateM.Result Stop State Value)
  | .ok value state, .ok value' state' =>
    decidable_of_iff (value = value' ∧ state = state') (by rw [EStateM.Result.ok.injEq])
  | .error stop state, .error stop' state' =>
    decidable_of_iff (stop = stop' ∧ state = state') (by rw [EStateM.Result.error.injEq])
  | .ok _ _, .error _ _ => .isFalse fun same => by cases same
  | .error _ _, .ok _ _ => .isFalse fun same => by cases same

def stateAfter : EStateM.Result Stop State Value → State
  | .ok _ state => state
  | .error _ state => state

lemma run_bind_of_ok {next : State} {value : Value} (done : first.run state = .ok value next) :
  (first >>= second).run state = (second value).run next := by
  rw [EStateM.run_bind, done]

lemma run_bind_of_error {next : State} (stopped : first.run state = .error stop next) :
  (first >>= second).run state = .error stop next := by
  rw [EStateM.run_bind, stopped]

lemma run_bind_eq_ok {last : State} {other : Other}
  (done : (first >>= second).run state = .ok other last) :
  ∃ value next, first.run state = .ok value next ∧ (second value).run next = .ok other last := by
  cases outcome : first.run state with
  | ok value next => exact ⟨value, next, rfl, (run_bind_of_ok outcome).symm.trans done⟩
  | error stop next => exact nomatch (run_bind_of_error outcome).symm.trans done

lemma run_bind_eq_error {last : State}
  (stopped : (first >>= second).run state = .error stop last) :
  first.run state = .error stop last ∨ ∃ value next, first.run state = .ok value next ∧
      (second value).run next = .error stop last := by
  cases outcome : first.run state with
  | ok value next => exact .inr ⟨value, next, rfl, (run_bind_of_ok outcome).symm.trans stopped⟩
  | error reason next =>
    rw [run_bind_of_error outcome] at stopped
    obtain ⟨⟩ := stopped
    exact .inl rfl

def push (item : Item) : Writing Stop Item Unit := modify (· ++ [item])

/-- The item under the cursor, or `missing` at the end of the source. -/
def pull (source : List Item) (missing : Stop) : CursorReading Stop Item := fun position =>
  match source[position]? with
  | some item => .ok item (position + 1)
  | none => .error missing position

lemma run_pull_of_some {position : ℕ} {item : Item} (found : source[position]? = some item) :
  (pull source missing).run position = .ok item (position + 1) := by
  rw [EStateM.run, pull, found]

lemma run_pull_of_none {position : ℕ} (none_found : source[position]? = none) :
  (pull source missing).run position = .error missing position := by
  rw [EStateM.run, pull, none_found]

variable (items : Source → List Item)

/-- Where the source goes on as the writer left its buffer, the reader goes on, from the place
where the writer ended, as `next` does. -/
def Recovers (write : Writing Stop Item Unit) (read : Source → CursorReading Stop Value)
  (next : CursorReading Stop Value) : Prop :=
  ∀ before after, write.run before = .ok () after → before <+: after ∧
    ∀ source, after <+: items source → (read source).run before.length = next.run after.length

variable {items} {write more : Writing Stop Item Unit} {read : Source → CursorReading Stop Value}
  {next : CursorReading Stop Value} {value : Value}

lemma Recovers.idle : Recovers items (pure () : Writing Stop Item Unit) (fun _ => next) next := by
  intro before after done
  obtain rfl : before = after := by simpa using done
  exact ⟨before.prefix_rfl, fun _ _ => rfl⟩

lemma Recovers.stopped : Recovers items (throw stop) read next := by
  intro before after done
  exact nomatch done

lemma Recovers.seq {last : CursorReading Stop Other}
  (front : Recovers items write read (pure value))
  (back : Recovers items more (fun source => following source value) last) :
  Recovers items (do write; more) (fun source => read source >>= following source) last := by
  intro before after done
  obtain ⟨⟨⟩, middle, wrote, wroteMore⟩ := run_bind_eq_ok done
  obtain ⟨extends₁, reads₁⟩ := front before middle wrote
  obtain ⟨extends₂, reads₂⟩ := back middle after wroteMore
  refine ⟨extends₁.trans extends₂, fun source within => ?_⟩
  rw [run_bind_of_ok (reads₁ source (extends₂.trans within))]
  exact reads₂ source within

lemma Recovers.onto {following : Value → CursorReading Stop Other}
  (front : Recovers items write read next) :
  Recovers items write (fun source => read source >>= following) (next >>= following) := by
  intro before after done
  obtain ⟨extended, reads⟩ := front before after done
  refine ⟨extended, fun source within => ?_⟩
  rw [EStateM.run_bind, EStateM.run_bind, reads source within]

lemma Recovers.settled {last : CursorReading Stop Other}
  (front : Recovers items write read (pure value))
  (back : ∀ source, following source value = last) :
  Recovers items write (fun source => read source >>= following source) last := by
  intro before after done
  obtain ⟨extended, reads⟩ := front before after done
  refine ⟨extended, fun source within => ?_⟩
  rw [run_bind_of_ok (reads source within), back source]

lemma Recovers.mapped {convert : Value → Other} (front : Recovers items write read (pure value)) :
  Recovers items write (fun source => convert <$> read source) (pure (convert value)) := by
  simp only [map_eq_pure_bind]
  exact front.settled fun _ => rfl

lemma Recovers.computed {following : Source → Other → CursorReading Stop Value}
  (each : ∀ other, result = .ok other →
    Recovers items (onward other) (fun source => following source other) next) :
  Recovers items (MonadExcept.ofExcept result >>= onward)
    (fun source => MonadExcept.ofExcept result >>= following source) next := by
  cases result with
  | ok other => exact each other rfl
  | error stop => exact Recovers.stopped

lemma Recovers.computing
  (each : ∀ other, result = .ok other → Recovers items (onward other) read next) :
  Recovers items (MonadExcept.ofExcept result >>= onward) read next := by
  cases result with
  | ok other => exact each other rfl
  | error stop => exact Recovers.stopped

lemma Recovers.one {item : Item} :
  Recovers items (push item) (fun source => pull (items source) missing) (pure item) := by
  intro before after done
  obtain rfl : before ++ [item] = after := by simpa [push] using done
  refine ⟨List.prefix_append _ _, fun source within => ?_⟩
  obtain ⟨tail, whole⟩ := within
  have found : (items source)[before.length]? = some item := by
    rw [← whole, List.append_assoc, List.getElem?_append_right (Nat.le_refl _)]
    simp
  rw [run_pull_of_some found, EStateM.run_pure, List.length_append, List.length_singleton]

def Appends (write : Writing Stop Item Unit) (count : ℕ) : Prop :=
  ∀ before after, write.run before = .ok () after → after.length = before.length + count

lemma Appends.idle : Appends (pure () : Writing Stop Item Unit) 0 := by
  intro before after done
  obtain rfl : before = after := by simpa using done
  rfl

lemma Appends.one (item : Item) : Appends (push item : Writing Stop Item Unit) 1 := by
  intro before after done
  obtain rfl : before ++ [item] = after := by simpa [push] using done
  rw [List.length_append, List.length_singleton]

lemma Appends.seq {count further : ℕ} (front : Appends write count)
  (back : Appends more further) :
  Appends (do write; more) (count + further) := by
  intro before after done
  obtain ⟨⟨⟩, middle, wrote, wroteMore⟩ := run_bind_eq_ok done
  rw [back middle after wroteMore, front before middle wrote, Nat.add_assoc]

lemma Recovers.guarded {plain : Source → CursorReading Stop Value} {count : ℕ}
  (recovers : Recovers items write plain next) (appends : Appends write count)
  (passes : ∀ source position, position + count ≤ (items source).length →
    (read source).run position = (plain source).run position) :
  Recovers items write read next := by
  intro before after done
  obtain ⟨extended, reads⟩ := recovers before after done
  refine ⟨extended, fun source within => ?_⟩
  have room : before.length + count ≤ (items source).length :=
    (appends before after done) ▸ within.length_le
  rw [passes source before.length room, reads source within]

/-- The value is read back, and the cursor left where the writer ended, if the condition holds;
if it does not, the reader has not this value. -/
def RecoversIff (items : Source → List Item) (write : Writing Stop Item Unit)
  (read : Source → CursorReading Stop Value) (value : Value) (condition : Prop) : Prop :=
  ∀ before after, write.run before = .ok () after → before <+: after ∧
    ∀ source, after <+: items source →
      (condition → (read source).run before.length = .ok value after.length) ∧
        ∀ last, (read source).run before.length = .ok value last → condition

lemma Recovers.recoversIff (recovers : Recovers items write read next)
  (holds : condition → next = Pure.pure value)
  (needed : ∀ position last, next.run position = .ok value last → condition) :
  RecoversIff items write read value condition := by
  intro before after done
  obtain ⟨extended, reads⟩ := recovers before after done
  refine ⟨extended, fun source within => ⟨fun held => ?_, fun last given => ?_⟩⟩
  · rw [reads source within, holds held, EStateM.run_pure]
  · exact needed _ _ ((reads source within).symm.trans given)

lemma Recovers.recoversIff_eq {other : Value}
  (recovers : Recovers items write read (Pure.pure other)) :
  RecoversIff items write read value (other = value) := by
  refine recovers.recoversIff (fun equal => by rw [equal]) ?_
  rintro position last ⟨⟩
  rfl

lemma Recovers.recoversIff_of (recovers : Recovers items write read (Pure.pure value))
  (holds : condition) : RecoversIff items write read value condition :=
  recovers.recoversIff (fun _ => rfl) fun _ _ _ => holds

lemma Recovers.not_recoversIff {other : Source → CursorReading Stop Value}
  (recovers : Recovers items write read next) (fails : ¬condition)
  (never : ∀ source position last, (other source).run position ≠ .ok value last) :
  RecoversIff items write other value condition := by
  intro before after done
  refine ⟨(recovers before after done).1, fun source within => ⟨fun held => ?_, ?_⟩⟩
  · exact absurd held fails
  · exact fun last given => absurd given (never source _ last)

lemma RecoversIff.seq {first : Value} {last : Other}
  (front : Recovers items write read (Pure.pure first))
  (back : RecoversIff items more (fun source => following source first) last condition) :
  RecoversIff items (do write; more) (fun source => read source >>= following source) last
    condition := by
  intro before after done
  obtain ⟨⟨⟩, middle, wrote, wroteMore⟩ := run_bind_eq_ok done
  obtain ⟨extends₁, reads₁⟩ := front before middle wrote
  obtain ⟨extends₂, reads₂⟩ := back middle after wroteMore
  refine ⟨extends₁.trans extends₂, fun source within => ?_⟩
  rw [run_bind_of_ok (reads₁ source (extends₂.trans within))]
  exact reads₂ source within

lemma RecoversIff.stopped : RecoversIff items (throw stop) read value condition := by
  intro before after done
  exact nomatch done

lemma RecoversIff.computing
  (each : ∀ other, result = .ok other → RecoversIff items (onward other) read value condition) :
  RecoversIff items (MonadExcept.ofExcept result >>= onward) read value condition := by
  cases result with
  | ok other => exact each other rfl
  | error stop => exact RecoversIff.stopped

section Sequences

variable {Kind : Type} {Content : Kind → Type}
  (writer : (kind : Kind) → Content kind → Writing Stop Item Unit)
  (reading : Source → (kind : Kind) → CursorReading Stop (Content kind))

def writeEach : List ((kind : Kind) × Content kind) → Writing Stop Item Unit
  | [] => pure ()
  | entry :: entries => do
    writer entry.1 entry.2
    writeEach entries

def readEach (source : Source) :
    List Kind → CursorReading Stop (List ((kind : Kind) × Content kind))
  | [] => pure []
  | kind :: kinds => do
    let content ← reading source kind
    let entries ← readEach source kinds
    pure (⟨kind, content⟩ :: entries)

variable {writer reading} {condition : (kind : Kind) × Content kind → Prop}

lemma recoversIff_each {entries : List ((kind : Kind) × Content kind)}
  (each : ∀ entry ∈ entries, RecoversIff items (writer entry.1 entry.2)
    (fun source => reading source entry.1) entry.2 (condition entry)) :
  RecoversIff items (writeEach writer entries)
    (fun source => readEach reading source (entries.map Sigma.fst)) entries
    (∀ entry ∈ entries, condition entry) := by
  induction entries with
  | nil => exact Recovers.idle.recoversIff_of fun entry member => nomatch member
  | cons entry entries ih =>
    have tail := ih fun other member => each other (.tail _ member)
    obtain ⟨kind, value⟩ := entry
    intro before after done
    obtain ⟨⟨⟩, middle, wrote, wroteMore⟩ := run_bind_eq_ok done
    obtain ⟨extends₁, reads₁⟩ := each ⟨kind, value⟩ (.head _) before middle wrote
    obtain ⟨extends₂, reads₂⟩ := tail middle after wroteMore
    refine ⟨extends₁.trans extends₂, fun source within => ?_⟩
    obtain ⟨reads₁, needed₁⟩ := reads₁ source (extends₂.trans within)
    obtain ⟨reads₂, needed₂⟩ := reads₂ source within
    constructor
    · intro held
      have rest := reads₂ fun other member => held other (.tail _ member)
      have first := reads₁ (held ⟨kind, value⟩ (.head _))
      exact (run_bind_of_ok first).trans (run_bind_of_ok rest)
    · intro last given
      obtain ⟨content, place, first, given⟩ := run_bind_eq_ok given
      obtain ⟨others, place', second, given⟩ := run_bind_eq_ok given
      obtain ⟨⟩ := given
      have heldHere := needed₁ place first
      obtain ⟨⟩ := (reads₁ heldHere).symm.trans first
      intro other member
      rcases List.mem_cons.mp member with rfl | later
      · exact heldHere
      · exact needed₂ last second other later

end Sequences

/-- From every place inside the source, the reader gives only such values, `gain` items further
on at least, or stops for such reasons; the cursor stays inside in either case. -/
structure Confined (limit gain : ℕ) (stops : Stop → Prop) (reader : CursorReading Stop Value)
  (answers : Value → Prop) : Prop where
  ok : ∀ position value after, position ≤ limit → reader.run position = .ok value after →
    position + gain ≤ after ∧ after ≤ limit ∧ answers value
  error : ∀ position stop after, position ≤ limit → reader.run position = .error stop after →
    after ≤ limit ∧ stops stop

variable {limit gain further : ℕ} {stops : Stop → Prop} {reader : CursorReading Stop Value}
  {answers : Value → Prop} {others : Other → Prop}

lemma Confined.pure (answered : answers value) :
  Confined limit 0 stops (pure value) answers := by
  constructor
  · rintro position value after inside ⟨⟩
    exact ⟨Nat.le_refl _, inside, answered⟩
  · intro position stop after inside stopped
    exact nomatch stopped

lemma Confined.throw (listed : stops stop) :
  Confined limit gain stops (throw stop : CursorReading Stop Value) answers := by
  constructor
  · intro position value after inside done
    exact nomatch done
  · rintro position stop after inside ⟨⟩
    exact ⟨inside, listed⟩

lemma Confined.bind {following : Value → CursorReading Stop Other}
  (front : Confined limit gain stops reader answers)
  (back : ∀ value, answers value → Confined limit further stops (following value) others) :
  Confined limit (gain + further) stops (reader >>= following) others := by
  constructor
  · intro position other last inside done
    obtain ⟨value, middle, first, second⟩ := run_bind_eq_ok done
    obtain ⟨gained, within, answered⟩ := front.ok position value middle inside first
    obtain ⟨gainedMore, withinToo, answeredToo⟩ :=
      (back value answered).ok middle other last within second
    exact ⟨by omega, withinToo, answeredToo⟩
  · intro position stop last inside stopped
    rcases run_bind_eq_error stopped with first | ⟨value, middle, first, second⟩
    · exact front.error position stop last inside first
    · obtain ⟨_, within, answered⟩ := front.ok position value middle inside first
      exact (back value answered).error middle stop last within second

lemma Confined.mono {less : ℕ} {weaker : Value → Prop}
  (confined : Confined limit gain stops reader answers) (fewer : less ≤ gain)
  (implied : ∀ value, answers value → weaker value) :
  Confined limit less stops reader weaker := by
  refine ⟨fun position value after inside done => ?_, confined.error⟩
  obtain ⟨gained, within, answered⟩ := confined.ok position value after inside done
  exact ⟨by omega, within, implied value answered⟩

lemma Confined.andThen {following : Value → CursorReading Stop Other}
  (front : Confined limit gain stops reader answers)
  (back : ∀ value, answers value → Confined limit 0 stops (following value) others) :
  Confined limit 0 stops (reader >>= following) others :=
  (front.bind back).mono (Nat.zero_le _) fun _ => id

lemma Confined.pull {stops : Stop → Prop} (listed : stops missing) :
  Confined source.length 1 stops (pull source missing) fun _ => True := by
  constructor
  · intro position item after inside done
    cases found : source[position]? with
    | some item =>
      rw [run_pull_of_some found] at done
      obtain ⟨⟩ := done
      have below := (List.getElem?_eq_some_iff.mp found).1
      exact ⟨Nat.le_refl _, below, trivial⟩
    | none => exact nomatch (run_pull_of_none found).symm.trans done
  · intro position stop after inside stopped
    cases found : source[position]? with
    | some item => exact nomatch (run_pull_of_some found).symm.trans stopped
    | none =>
      rw [run_pull_of_none found] at stopped
      obtain ⟨⟩ := stopped
      exact ⟨inside, listed⟩

end NextGCore.Library
