import NextGCore.Library.Buffer

/-!
# Loops that count octets

A length-prefixed list is often read by a loop that counts down the declared length by what each
turn took, and stops at zero or at the end of the buffer.  The count bounds when a turn begins,
not where it ends: the last turn may take more than is left.  `Tiled` says that none does, of
the octets alone.
-/

namespace NextGCore.Library

open List Reading Nat

variable {Error Value : Type}

def remaining : BufferReading Error ℕ := fun octets => .ok (octets.length, octets)

/-- `while left > 0 && buf.remaining() > 0 { .. left = left.saturating_sub(consumed) }`, at most
`turns` times. -/
def countedWithin (read : BufferReading Error Value) : ℕ → ℕ → BufferReading Error (List Value)
  | 0, _ => pure []
  | turns + 1, left => do
    let startPos ← remaining
    if 0 < left ∧ 0 < startPos then do
      let value ← read
      let endPos ← remaining
      let consumed ← subtract startPos endPos
      let values ← countedWithin read turns (left - consumed)
      pure (value :: values)
    else pure []

def counted (read : BufferReading Error Value) (left : ℕ) : BufferReading Error (List Value) :=
  countedWithin read left left

/-- The octets that begin are cut into spans that together are as long as is left. -/
inductive Tiled (span : List UInt8 → ℕ) : ℕ → List UInt8 → Prop where
  | done {octets} : Tiled span 0 octets
  | turn {left octets} : 0 < left → span octets ≤ left →
      Tiled span (left - span octets) (octets.drop (span octets)) → Tiled span left octets

section Loop

variable {read : BufferReading Error Value} {turns left : ℕ} {octets rest : List UInt8}
  {values : List Value}

lemma countedWithin_stop (ends : left = 0 ∨ octets = []) :
  countedWithin read turns left octets = .ok ([], octets) := by
  cases turns with
  | zero => rfl
  | succ turns =>
    have stops : ¬ (0 < left ∧ 0 < octets.length) := by
      rintro ⟨positive, some⟩
      rcases ends with rfl | rfl
      · exact absurd positive (lt_irrefl 0)
      · exact absurd some (lt_irrefl 0)
    change (if 0 < left ∧ 0 < octets.length then _ else pure [] : BufferReading Error _) octets = _
    rw [if_neg stops]
    rfl

lemma countedWithin_turn {value : Value} (goes : 0 < left) (some : octets ≠ [])
  (answer : read octets = .ok (value, rest)) (shorter : rest.length ≤ octets.length) :
  countedWithin read (turns + 1) left octets =
    (countedWithin read turns (left - (octets.length - rest.length)) >>= fun values =>
      pure (value :: values)) rest := by
  have consumed : (subtract octets.length rest.length : BufferReading Error ℕ) rest =
      .ok (octets.length - rest.length, rest) := if_neg (not_lt.mpr shorter)
  change (if 0 < left ∧ 0 < octets.length then _ else pure [] : BufferReading Error _) octets = _
  have measured : (remaining : BufferReading Error ℕ) rest = .ok (rest.length, rest) := rfl
  rw [if_pos ⟨goes, length_pos_of_ne_nil some⟩, bind_eq answer, bind_eq measured]
  exact bind_eq consumed

lemma countedWithin_error {fault : Fault Error} (goes : 0 < left) (some : octets ≠ [])
  (answer : read octets = .error fault) :
  countedWithin read (turns + 1) left octets = .error fault := by
  change (if 0 < left ∧ 0 < octets.length then _ else pure [] : BufferReading Error _) octets = _
  rw [if_pos ⟨goes, length_pos_of_ne_nil some⟩]
  change (read octets >>= _) = _
  rw [answer]
  rfl

lemma countedWithin_cases
  (shrinks : ∀ octets value rest, read octets = .ok (value, rest) → rest.length < octets.length)
  (answer : countedWithin read (turns + 1) left octets = .ok (values, rest)) :
  ((left = 0 ∨ octets = []) ∧ values = [] ∧ rest = octets) ∨
    ∃ value between others, 0 < left ∧ read octets = .ok (value, between) ∧
      values = value :: others ∧
      countedWithin read turns (left - (octets.length - between.length)) between =
        .ok (others, rest) := by
  by_cases ends : left = 0 ∨ octets = []
  · rw [countedWithin_stop ends] at answer
    cases answer
    exact .inl ⟨ends, rfl, rfl⟩
  · have goes : 0 < left := pos_of_ne_zero fun zero => ends (.inl zero)
    have some : octets ≠ [] := fun empty => ends (.inr empty)
    cases first : read octets with
    | error fault =>
      rw [countedWithin_error goes some first] at answer
      cases answer
    | ok found =>
      have shorter := shrinks octets found.1 found.2 first
      rw [countedWithin_turn goes some first (le_of_lt shorter)] at answer
      obtain ⟨others, last, continued, final⟩ := bind_ok answer
      cases final
      exact .inr ⟨found.1, found.2, others, goes, rfl, rfl, continued⟩

lemma ReadsBack.counted {chunks : List (List UInt8)}
  (each : Forall₂ (ReadsBack id read) chunks values)
  (nonempty : ∀ chunk ∈ chunks, chunk ≠ []) :
  ReadsBack id (counted read chunks.flatten.length) chunks.flatten values := by
  have within (turns : ℕ) (enough : chunks.flatten.length ≤ turns) :
      ReadsBack id (countedWithin read turns chunks.flatten.length) chunks.flatten values := by
    induction each generalizing turns with
    | nil => exact fun stream tail front => ⟨stream, countedWithin_stop (.inl rfl), front⟩
    | @cons chunk value chunks values reads _ ih =>
      intro stream tail front
      rw [id_eq, flatten_cons, append_assoc] at front
      subst front
      obtain ⟨between, answer, left⟩ :=
        reads (chunk ++ (chunks.flatten ++ tail)) (chunks.flatten ++ tail) rfl
      rw [id_eq] at left
      subst left
      have positive : 0 < chunk.length :=
        length_pos_of_ne_nil (nonempty chunk mem_cons_self)
      rw [flatten_cons, length_append] at enough ⊢
      obtain ⟨turns, rfl⟩ : ∃ fewer, turns = fewer + 1 := ⟨turns - 1, by omega⟩
      obtain ⟨next, others, remains⟩ := ih
        (fun chunk member => nonempty chunk (mem_cons_of_mem _ member)) turns (by omega)
        (chunks.flatten ++ tail) tail rfl
      refine ⟨next, ?_, remains⟩
      rw [countedWithin_turn (by omega) (by simp [ne_nil_of_length_pos positive]) answer
        (by simp)]
      have counts : chunk.length + chunks.flatten.length -
          ((chunk ++ (chunks.flatten ++ tail)).length - (chunks.flatten ++ tail).length) =
            chunks.flatten.length := by
        rw [length_append]
        omega
      rw [counts, bind_eq others]
      rfl
  exact within _ (le_refl _)

lemma ReadsOnly.counted {relates : List UInt8 → Value → Prop} (reads : ReadsOnly id read relates)
  (shrinks : ∀ octets value rest, read octets = .ok (value, rest) → rest.length < octets.length)
  (left : ℕ) :
  ReadsOnly id (counted read left) fun chunk values =>
    ∃ chunks, chunk = chunks.flatten ∧ Forall₂ relates chunks values := by
  have within (turns left : ℕ) : ReadsOnly id (countedWithin read turns left) fun chunk values =>
      ∃ chunks, chunk = chunks.flatten ∧ Forall₂ relates chunks values := by
    induction turns generalizing left with
    | zero =>
      intro octets values rest answer
      cases answer
      exact ⟨[], rfl, [], rfl, .nil⟩
    | succ turns ih =>
      intro octets values rest answer
      obtain ⟨-, rfl, rfl⟩ | ⟨value, between, others, -, first, rfl, continued⟩ :=
        countedWithin_cases shrinks answer
      · exact ⟨[], rfl, [], rfl, .nil⟩
      · obtain ⟨chunk, front, related⟩ := reads octets value between first
        obtain ⟨_, back, chunks, rfl, each⟩ := ih _ between others rest continued
        refine ⟨chunk ++ chunks.flatten, ?_, chunk :: chunks, rfl, .cons related each⟩
        rw [front, back, append_assoc]
  exact within left left

lemma Calm.counted
  (calm : ∀ octets, Calm read octets fun _ rest => rest.length < octets.length)
  (left : ℕ) (octets : List UInt8) :
  Calm (counted read left) octets fun _ rest => rest.length ≤ octets.length := by
  have within (turns left : ℕ) (octets : List UInt8) :
      Calm (countedWithin read turns left) octets fun _ rest => rest.length ≤ octets.length := by
    induction turns generalizing left octets with
    | zero => exact .pure (le_refl _)
    | succ turns ih =>
      by_cases ends : left = 0 ∨ octets = []
      · exact .congr (Pure.pure []) (countedWithin_stop ends) (.pure (le_refl _))
      · have goes : 0 < left := pos_of_ne_zero fun zero => ends (.inl zero)
        have some : octets ≠ [] := fun empty => ends (.inr empty)
        have first := calm octets
        cases answer : read octets with
        | error fault =>
          refine .congr (fun _ => .error fault) (countedWithin_error goes some answer)
            ⟨fun panics => ?_, nofun⟩
          cases panics
          exact first.noPanic answer
        | ok found =>
          have shorter := first.leaves found.1 found.2 answer
          have others := ih (left - (octets.length - found.2.length)) found.2
          have turned : countedWithin read (turns + 1) left octets =
              (countedWithin read turns (left - (octets.length - found.2.length)) >>=
                fun values => Pure.pure (found.1 :: values)) found.2 :=
            countedWithin_turn goes some answer (le_of_lt shorter)
          have whole : Calm (countedWithin read turns (left - (octets.length -
              found.2.length)) >>= fun values => Pure.pure (found.1 :: values)) found.2
              fun _ rest => rest.length ≤ octets.length :=
            others.bind fun values rest shorter' => .pure (by omega)
          exact ⟨fun panics => whole.noPanic (turned.symm.trans panics),
            fun values rest ended => whole.leaves values rest (turned.symm.trans ended)⟩
  exact within left left octets

lemma counted_tiled_iff {span : List UInt8 → ℕ}
  (spans : ∀ octets value rest, read octets = .ok (value, rest) →
    0 < span octets ∧ span octets ≤ octets.length ∧ rest = octets.drop (span octets))
  (there : left ≤ octets.length) (answer : counted read left octets = .ok (values, rest)) :
  octets.length ≤ left + rest.length ↔ Tiled span left octets := by
  have shrinks (octets value rest) (answer : read octets = .ok (value, rest)) :
      rest.length < octets.length := by
    obtain ⟨positive, fits, rfl⟩ := spans octets value rest answer
    rw [length_drop]
    omega
  have within (turns left : ℕ) (octets : List UInt8) (values : List Value)
      (enough : left ≤ turns) (there : left ≤ octets.length)
      (answer : countedWithin read turns left octets = .ok (values, rest)) :
      octets.length ≤ left + rest.length ↔ Tiled span left octets := by
    induction turns generalizing left octets values with
    | zero =>
      obtain rfl : left = 0 := le_zero.mp enough
      cases answer
      exact iff_of_true (by omega) .done
    | succ turns ih =>
      obtain ⟨ends, rfl, rfl⟩ | ⟨value, between, others, goes, first, rfl, continued⟩ :=
        countedWithin_cases shrinks answer
      · obtain rfl : left = 0 := by
          rcases ends with zero | rfl
          · exact zero
          · exact le_zero.mp there
        exact iff_of_true (by omega) .done
      · obtain ⟨positive, fits, rfl⟩ := spans octets value between first
        have taken : octets.length - (octets.drop (span octets)).length = span octets := by
          rw [length_drop]
          omega
        rw [taken] at continued
        by_cases overruns : left < span octets
        · have stops : left - span octets = 0 := by omega
          rw [stops, countedWithin_stop (.inl rfl)] at continued
          cases continued
          refine iff_of_false (by rw [length_drop]; omega) fun tiled => ?_
          cases tiled with
          | done => omega
          | turn _ inside _ => omega
        · have later := ih (left - span octets) (octets.drop (span octets))
            others (by omega) (by rw [length_drop]; omega) continued
          rw [length_drop] at later
          constructor
          · intro inside
            exact .turn goes (by omega) (later.mp (by omega))
          · intro tiled
            cases tiled with
            | done => omega
            | turn _ _ tail =>
              have := later.mpr tail
              omega
  exact within left left octets values (le_refl _) there answer

lemma counted_covers
  (shrinks : ∀ octets value rest, read octets = .ok (value, rest) → rest.length < octets.length)
  (there : left ≤ octets.length) (answer : counted read left octets = .ok (values, rest)) :
  left + rest.length ≤ octets.length := by
  have within (turns left : ℕ) (octets : List UInt8) (values : List Value)
      (enough : left ≤ turns) (there : left ≤ octets.length)
      (answer : countedWithin read turns left octets = .ok (values, rest)) :
      left + rest.length ≤ octets.length := by
    induction turns generalizing left octets values with
    | zero =>
      cases answer
      omega
    | succ turns ih =>
      obtain ⟨ends, rfl, rfl⟩ | ⟨value, between, others, goes, first, rfl, continued⟩ :=
        countedWithin_cases shrinks answer
      · rcases ends with rfl | rfl
        · exact le_of_eq (zero_add _)
        · rw [le_zero.mp there]
          exact le_refl _
      · have shorter := shrinks octets value between first
        have later := ih _ between others (by omega) (by omega) continued
        omega
  exact within left left octets values (le_refl _) there answer

end Loop

end NextGCore.Library
