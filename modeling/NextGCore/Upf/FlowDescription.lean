import NextGCore.Ipfw.Rule

/-!
# Flow descriptions

The compiler of the flow description of an SDF filter, as the data plane uses it: of the rule
that comes out, the data plane looks at the first word of each address and mask.
-/

namespace NextGCore.Upf

open Ipfw (IpfwError compileEnds parseProtocol)
open Sbi (splitWhitespace)

def firstWord (range : Ipfw.IpAddrMask) : IpAddrMask :=
  ⟨Ipfw.entry range.addr 0, Ipfw.entry range.mask 0⟩

def firstWords (rule : Ipfw.IpfwRule) : IpfwRule where
  proto := rule.proto
  ipv4Src := rule.src.ipv4
  ipv4Dst := rule.dst.ipv4
  ipv6Src := rule.src.ipv6
  ipv6Dst := rule.dst.ipv6
  ipSrc := firstWord rule.src.ip
  ipDst := firstWord rule.dst.ip
  portSrc := rule.src.port
  portDst := rule.dst.port

/-- The rule of the compiler, with what the data plane looks at of it. -/
def compileRule (flowDescription : String) : Option (Except IpfwError IpfwRule) :=
  (Ipfw.compileRule flowDescription).map (Except.map firstWords)

def compileSdf (flowDescription : Option String) : Option (Option IpfwRule) :=
  match flowDescription with
  | none => some none
  | some desc => (compileRule desc).map Except.toOption

/-!
## When the flow-description compiler answers

`compile_rule` looks for `from` and for `to` separately and cuts the tokens between the two.  It
answers every description but those that read well up to the protocol and name their destination
before their source: there the cut runs backwards.
-/

section Positions

variable {Token : Type*} {first second : Token}

def Precedes (first second : Token) (tokens : List Token) : Prop :=
  ∃ before after, tokens = before ++ first :: after ∧ second ∉ before ∧ second ∈ after

lemma precedes_cons {token : Token} {rest : List Token} (differ : first ≠ second) :
  Precedes first second (token :: rest) ↔
    token ≠ second ∧ (token = first ∧ second ∈ rest ∨ Precedes first second rest) := by
  constructor
  · rintro ⟨before, after, equal, absent, later⟩
    cases before with
    | nil =>
      obtain ⟨rfl, rfl⟩ := List.cons.inj equal
      exact ⟨differ, .inl ⟨rfl, later⟩⟩
    | cons head before =>
      obtain ⟨rfl, rfl⟩ := List.cons.inj equal
      have headDiffers : token ≠ second := fun same => absent (same ▸ List.mem_cons_self)
      have absentBefore : second ∉ before := fun found => absent (List.mem_cons_of_mem _ found)
      exact ⟨headDiffers, .inr ⟨before, after, rfl, absentBefore, later⟩⟩
  · rintro ⟨headDiffers, ⟨rfl, later⟩ | ⟨before, after, rfl, absent, later⟩⟩
    · exact ⟨[], rest, rfl, List.not_mem_nil, later⟩
    · have absentBefore : second ∉ token :: before := by
        simpa [List.mem_cons, headDiffers.symm] using absent
      exact ⟨token :: before, after, rfl, absentBefore, later⟩

lemma idxOf?_lt_iff [DecidableEq Token] (differ : first ≠ second) (tokens : List Token) :
  (∃ i j, tokens.idxOf? first = some i ∧ tokens.idxOf? second = some j ∧ i < j) ↔
    Precedes first second tokens := by
  induction tokens with
  | nil => simp [Precedes]
  | cons token rest ih =>
    rw [precedes_cons differ, ← ih]
    simp only [List.idxOf?_cons, beq_iff_eq]
    by_cases isSecond : token = second
    · simp [isSecond]
    · by_cases isFirst : token = first
      · subst isFirst
        have found : second ∈ rest ↔ ∃ j, rest.idxOf? second = some j := by
          rw [← List.isSome_idxOf?, Option.isSome_iff_exists]
        simp only [if_true, isSecond, if_false, found]
        constructor
        · rintro ⟨i, j, -, place, -⟩
          obtain ⟨k, place, -⟩ := Option.map_eq_some_iff.mp place
          exact ⟨isSecond, .inl ⟨trivial, k, place⟩⟩
        · rintro ⟨-, ⟨-, k, place⟩ | ⟨i, k, -, place, -⟩⟩ <;>
            exact ⟨0, k + 1, rfl, by simp [place], by omega⟩
      · simp only [isSecond, isFirst, if_false, Option.map_eq_some_iff, ne_eq,
          not_false_eq_true, true_and, false_and, false_or]
        constructor
        · rintro ⟨_, _, ⟨i, firstPlace, rfl⟩, ⟨j, secondPlace, rfl⟩, less⟩
          exact ⟨i, j, firstPlace, secondPlace, by omega⟩
        · rintro ⟨i, j, firstPlace, secondPlace, less⟩
          exact ⟨i + 1, j + 1, ⟨i, firstPlace, rfl⟩, ⟨j, secondPlace, rfl⟩, by omega⟩

end Positions

/-- The description reads well up to the protocol, and its first `to` stands before its first
`from`. -/
structure Misordered (tokens : List String) : Prop where
  header : ∃ protoStr ends proto,
    tokens = "permit" :: "out" :: protoStr :: ends ∧ parseProtocol protoStr = .ok proto
  inverted : Precedes "to" "from" tokens

lemma compileEnds_eq_none_iff (tokens : List String) (rule : Ipfw.IpfwRule) :
  compileEnds tokens rule = none ↔ Precedes "to" "from" tokens := by
  rw [← idxOf?_lt_iff (by decide)]
  unfold compileEnds
  cases fromPlace : tokens.idxOf? "from" with
  | none => simp
  | some fromIdx =>
    cases toPlace : tokens.idxOf? "to" with
    | none => simp
    | some toIdx =>
      -- the two keywords differ, so they cannot stand at one place
      have apart : toIdx ≠ fromIdx := by
        rintro rfl
        obtain ⟨_, isFrom, -⟩ := List.idxOf?_eq_some_iff.mp fromPlace
        obtain ⟨_, isTo, -⟩ := List.idxOf?_eq_some_iff.mp toPlace
        exact absurd (isFrom.symm.trans isTo) (by decide)
      by_cases less : toIdx < fromIdx
      · have inverted : toIdx < fromIdx + 1 := by omega
        simp [inverted, less]
      · have ordered : ¬ toIdx < fromIdx + 1 := by omega
        simp [ordered, less]

lemma compileRule_eq_none_iff (flowDescription : String) :
  compileRule flowDescription = none ↔ Misordered (splitWhitespace flowDescription) := by
  rw [compileRule, Option.map_eq_none_iff]
  unfold Ipfw.compileRule
  generalize splitWhitespace flowDescription = tokens
  match tokens with
  | [] => exact ⟨by simp, fun wrong => by simpa using wrong.header⟩
  | [permit] => exact ⟨by simp; split <;> simp, fun wrong => by simpa using wrong.header⟩
  | [permit, out] =>
    refine ⟨fun failed => ?_, fun wrong => by simpa using wrong.header⟩
    simp only [List.getElem?_cons_succ, List.getElem?_cons_zero, List.getElem?_nil] at failed
    split_ifs at failed
  | permit :: out :: protoStr :: ends =>
    by_cases isPermit : permit = "permit"
    · by_cases isOut : out = "out"
      · subst isPermit isOut
        cases parsed : parseProtocol protoStr with
        | error error =>
          have noHeader : ¬ Misordered ("permit" :: "out" :: protoStr :: ends) := by
            rintro ⟨⟨_, _, proto, equal, fine⟩, -⟩
            simp only [List.cons.injEq, true_and] at equal
            simp [← equal.1, parsed] at fine
          simp [parsed, noHeader]
        | ok proto =>
          simp only [List.head?_cons, List.getElem?_cons_succ, List.getElem?_cons_zero, parsed,
            reduceCtorEq, if_false, ne_eq, not_true_eq_false, compileEnds_eq_none_iff]
          exact ⟨fun inverted => ⟨⟨protoStr, ends, proto, rfl, parsed⟩, inverted⟩,
            Misordered.inverted⟩
      · refine ⟨fun failed => by simp [isPermit, isOut] at failed, ?_⟩
        rintro ⟨⟨_, _, _, equal, -⟩, -⟩
        exact absurd (List.cons.inj (List.cons.inj equal).2).1 isOut
    · refine ⟨fun failed => by simp [isPermit] at failed, ?_⟩
      rintro ⟨⟨_, _, _, equal, -⟩, -⟩
      exact absurd (List.cons.inj equal).1 isPermit

/-- `compile_rule` answers, with a rule or with an error, exactly the descriptions that do not
name the destination first. -/
theorem compileRule_answers_iff (flowDescription : String) :
  (∃ answer, compileRule flowDescription = some answer) ↔
    ¬ Misordered (splitWhitespace flowDescription) := by
  rw [← compileRule_eq_none_iff, ← Option.isSome_iff_exists, Option.isSome_iff_ne_none]

/-- Two `any` the wrong way round. -/
theorem compileRule_misordered :
  ¬ ∀ flowDescription, ∃ answer, compileRule flowDescription = some answer := by
  intro answers
  obtain ⟨answer, compiled⟩ := answers "permit out ip to any from any"
  have panics : compileRule "permit out ip to any from any" = none := by decide
  exact absurd (compiled.symm.trans panics) (by simp)

end NextGCore.Upf
