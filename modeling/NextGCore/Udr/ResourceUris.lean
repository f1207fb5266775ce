import Mathlib.Data.List.DropRight
import NextGCore.Sbi.Text

/-!
# Monitored resources of the UDR

`uri_covers` of `data_store.rs` compares the texts of two paths.  Segment by segment these
comparisons are equality, a prefix, and a suffix in both directions.
-/

namespace NextGCore.Udr

open Sbi List

def uriPath (uri : List Char) : List Char :=
  match (stripPrefix "https://".toList uri).or (stripPrefix "http://".toList uri) with
  | some rest =>
    match rest.dropWhile (· != '/') with
    | [] => ['/']
    | path => path
  | none => uri

def trimEndSlashes (path : List Char) : List Char := path.rdropWhile (· == '/')

def uriCovers (monitored changedPath : List Char) : Bool :=
  let mp := trimEndSlashes (uriPath monitored)
  let cp := trimEndSlashes changedPath
  if mp.isEmpty then false
  else mp == cp || (mp ++ ['/']).isPrefixOf cp || cp.isSuffixOf mp || mp.isSuffixOf cp

def segments (path : List Char) : List (List Char) :=
  ((trimEndSlashes path).splitOn '/').tail

/-- Without the segments of an apiRoot, the monitored resource is the changed one or above it. -/
def Covers (monitored changed : List (List Char)) : Prop :=
  ∃ rest ∈ monitored.tails, rest ≠ [] ∧ rest <+: changed

instance (monitored changed : List (List Char)) : Decidable (Covers monitored changed) :=
  inferInstanceAs (Decidable (∃ rest ∈ monitored.tails, rest ≠ [] ∧ rest <+: changed))

/-- The changed path ends with all of the monitored one, no end of which is above it. -/
def OnlySuffix (monitored changed : List (List Char)) : Prop :=
  monitored ≠ [] ∧ monitored <:+ changed ∧ ∀ rest ∈ monitored.tails, rest <+: changed → rest = []

/-- Under an apiRoot with a path, a resource above the changed one: neither path ends with the
other. -/
def AboveUnderRoot (monitored changed : List (List Char)) : Prop :=
  (∃ root rest, monitored = root ++ rest ∧ root ≠ [] ∧ rest ≠ [] ∧ rest <+: changed) ∧
    ¬monitored <+: changed ∧ ¬changed <:+ monitored ∧ ¬monitored <:+ changed

def pathText (parts : List (List Char)) : List Char := parts.flatMap ('/' :: ·)

/-- Empty, or from a slash on. -/
def Rooted (text : List Char) : Prop := text = [] ∨ ∃ rest, text = '/' :: rest

variable {text path scheme authority changed : List Char}
  {parts others monitored : List (List Char)}

lemma pathText_append (parts others : List (List Char)) :
  pathText (parts ++ others) = pathText parts ++ pathText others := flatMap_append

lemma pathText_cons (part : List Char) (parts : List (List Char)) :
  pathText (part :: parts) = '/' :: (part ++ pathText parts) := rfl

lemma splitOn_slash (text : List Char) :
  ('/' :: text).splitOn '/' = [] :: text.splitOn '/' := by
  have split := splitOn_append_cons_self (a := '/') [] text
  rwa [nil_append, splitOn_nil, singleton_append] at split

lemma splitOn_pathText (solid : ∀ part ∈ parts, '/' ∉ part) :
  (pathText parts).splitOn '/' = [] :: parts := by
  induction parts with
  | nil => rfl
  | cons part rest ih =>
    rw [forall_mem_cons] at solid
    rw [pathText_cons, splitOn_slash]
    congr 1
    cases rest with
    | nil => rw [pathText, flatMap_nil, append_nil, splitOn_eq_singleton solid.1]
    | cons next rest =>
      have after := ih solid.2
      rw [pathText_cons, splitOn_slash] at after
      rw [pathText_cons, splitOn_append_cons_self_of_not_mem solid.1, (List.cons.inj after).2]

lemma pathText_of_ne_nil (some : parts ≠ []) :
  pathText parts = '/' :: ['/'].intercalate parts := by
  induction parts with
  | nil => exact absurd rfl some
  | cons part rest ih =>
    cases rest with
    | nil => simp [pathText, intercalate]
    | cons next rest =>
      rw [pathText, flatMap_cons, ← pathText, ih (cons_ne_nil _ _)]
      simp [intercalate]

lemma solid_segments (path : List Char) : ∀ part ∈ segments path, '/' ∉ part :=
  fun _ among => notMem_of_mem_splitOn (mem_of_mem_tail among)

lemma rooted_trimEndSlashes (rooted : Rooted path) : Rooted (trimEndSlashes path) := by
  obtain ⟨rest, whole⟩ := rdropWhile_prefix (· == '/') path
  cases kept : trimEndSlashes path with
  | nil => exact .inl rfl
  | cons letter before =>
    rw [show path.rdropWhile (· == '/') = _ from kept] at whole
    rcases rooted with rfl | ⟨after, rfl⟩
    · cases whole
    · rw [cons_append] at whole
      exact .inr ⟨before, by rw [(List.cons.inj whole).1]⟩

lemma trimEndSlashes_eq (rooted : Rooted path) :
  trimEndSlashes path = pathText (segments path) := by
  rcases rooted_trimEndSlashes rooted with none | ⟨rest, whole⟩
  · rw [segments, none]
    rfl
  · rw [segments, whole, splitOn_slash, tail_cons, pathText_of_ne_nil (splitOn_ne_nil _ _),
      intercalate_splitOn]

section

variable (solid : ∀ part ∈ parts, '/' ∉ part) (otherSolid : ∀ part ∈ others, '/' ∉ part)

include solid otherSolid

lemma pathText_inj : pathText parts = pathText others ↔ parts = others := by
  constructor
  · intro same
    have split := congrArg (splitOn '/') same
    rw [splitOn_pathText solid, splitOn_pathText otherSolid] at split
    exact (List.cons.inj split).2
  · rintro rfl
    rfl

lemma pathText_suffix_iff : pathText parts <:+ pathText others ↔ parts <:+ others := by
  constructor
  · rintro ⟨before, whole⟩
    cases parts with
    | nil => exact nil_suffix
    | cons part rest =>
      have inner := splitOn_pathText solid
      have split := congrArg (splitOn '/') whole
      rw [pathText_cons, splitOn_slash] at inner
      rw [pathText_cons, splitOn_append_cons_self, (List.cons.inj inner).2,
        splitOn_pathText otherSolid] at split
      cases pieces : before.splitOn '/' with
      | nil => exact absurd pieces (splitOn_ne_nil _ _)
      | cons first more =>
        rw [pieces, cons_append] at split
        exact ⟨more, (List.cons.inj split).2⟩
  · rintro ⟨before, rfl⟩
    exact ⟨pathText before, (pathText_append _ _).symm⟩

lemma pathText_slash_prefix_iff :
  pathText parts ++ ['/'] <+: pathText others ↔ parts <+: others ∧ parts ≠ others := by
  constructor
  · rintro ⟨after, whole⟩
    have split := congrArg (splitOn '/') whole
    rw [append_assoc, singleton_append, splitOn_append_cons_self,
      splitOn_pathText solid, splitOn_pathText otherSolid, cons_append] at split
    have longer := (List.cons.inj split).2
    refine ⟨⟨_, longer⟩, fun same => splitOn_ne_nil '/' after ?_⟩
    rw [same] at longer
    simp at longer
  · rintro ⟨⟨after, rfl⟩, differ⟩
    cases after with
    | nil => exact absurd (append_nil _).symm differ
    | cons next rest =>
      refine ⟨next ++ pathText rest, ?_⟩
      rw [pathText_append, append_assoc, singleton_append]
      rfl

end

section

variable (web : scheme = "http://".toList ∨ scheme = "https://".toList) (host : '/' ∉ authority)
  (rooted : Rooted path)

include web host rooted

lemma uriPath_absolute :
  trimEndSlashes (uriPath (scheme ++ (authority ++ path))) = trimEndSlashes path := by
  have stripped : (stripPrefix "https://".toList (scheme ++ (authority ++ path))).or
      (stripPrefix "http://".toList (scheme ++ (authority ++ path))) =
        some (authority ++ path) := by
    rcases web with rfl | rfl <;> rfl
  have dropped : (authority ++ path).dropWhile (· != '/') = path := by
    rw [dropWhile_append_of_pos fun letter among => by
      simpa using fun same : letter = '/' => host (same ▸ among)]
    rcases rooted with rfl | ⟨rest, rfl⟩ <;> rfl
  unfold uriPath
  simp only [stripped, dropped]
  cases path with
  | nil => rfl
  | cons => rfl

lemma uriCovers_iff (changedRooted : Rooted changed) :
  uriCovers (scheme ++ (authority ++ path)) changed = true ↔
    segments path ≠ [] ∧ (segments path <+: segments changed ∨
      segments changed <:+ segments path ∨ segments path <:+ segments changed) := by
  have solid := solid_segments path
  have otherSolid := solid_segments changed
  have empty : (pathText (segments path)).isEmpty = true ↔ segments path = [] := by
    cases segments path <;> simp [pathText]
  simp only [uriCovers, uriPath_absolute web host rooted, trimEndSlashes_eq rooted,
    trimEndSlashes_eq changedRooted]
  split
  · next none => exact iff_of_false Bool.false_ne_true fun both => both.1 (empty.mp none)
  · next some =>
      rw [Bool.or_eq_true, Bool.or_eq_true, Bool.or_eq_true, beq_iff_eq,
        isPrefixOf_iff_prefix, isSuffixOf_iff_suffix, isSuffixOf_iff_suffix,
        pathText_inj solid otherSolid, pathText_slash_prefix_iff solid otherSolid,
        pathText_suffix_iff solid otherSolid, pathText_suffix_iff otherSolid solid,
        and_iff_right (fun none => some (empty.mpr none))]
      constructor
      · rintro (((same | above) | under) | ends)
        · exact .inl (same ▸ prefix_rfl)
        · exact .inl above.1
        · exact .inr (.inl under)
        · exact .inr (.inr ends)
      · rintro (above | under | ends)
        · by_cases same : segments path = segments changed
          · exact .inl (.inl (.inl same))
          · exact .inl (.inl (.inr ⟨above, same⟩))
        · exact .inl (.inr under)
        · exact .inr ends

end

/-- The answer is right unless the changed path only ends with the monitored one, or the monitored
resource is above the changed one, under an apiRoot with a path of its own. -/
theorem uriCovers_right_iff {scheme authority path changed : List Char}
  (web : scheme = "http://".toList ∨ scheme = "https://".toList) (host : '/' ∉ authority)
  (rooted : Rooted path) (changedRooted : Rooted changed) (named : segments changed ≠ []) :
  (uriCovers (scheme ++ (authority ++ path)) changed = true ↔
      Covers (segments path) (segments changed)) ↔
    ¬OnlySuffix (segments path) (segments changed) ∧
      ¬AboveUnderRoot (segments path) (segments changed) := by
  rw [uriCovers_iff web host rooted changedRooted]
  generalize segments path = monitored at *
  generalize segments changed = changed at *
  constructor
  · intro right
    refine ⟨fun ⟨nonempty, ends, noEnd⟩ => ?_, fun ⟨⟨root, rest, whole, _, more, starts⟩, no⟩ => ?_⟩
    · obtain ⟨rest, among, more, starts⟩ := right.mp ⟨nonempty, .inr (.inr ends)⟩
      exact more (noEnd rest among starts)
    · have covers : Covers monitored changed :=
        ⟨rest, (mem_tails _ _).mpr ⟨root, whole.symm⟩, more, starts⟩
      rcases (right.mpr covers).2 with above | under | ends
      · exact no.1 above
      · exact no.2.1 under
      · exact no.2.2 ends
  · rintro ⟨notSuffix, notUnder⟩
    constructor
    · rintro ⟨nonempty, above | under | ends⟩
      · exact ⟨monitored, (mem_tails _ _).mpr suffix_rfl, nonempty, above⟩
      · exact ⟨changed, (mem_tails _ _).mpr under, named, prefix_rfl⟩
      · by_contra covers
        exact notSuffix ⟨nonempty, ends, fun rest among starts =>
          by_contra fun more => covers ⟨rest, among, more, starts⟩⟩
    · rintro ⟨rest, among, more, starts⟩
      obtain ⟨root, whole⟩ := (mem_tails _ _).mp among
      have nonempty : monitored ≠ [] := by
        rintro rfl
        exact more (append_eq_nil_iff.mp whole).2
      refine ⟨nonempty, by_contra fun no => notUnder ?_⟩
      rw [not_or, not_or] at no
      refine ⟨⟨root, rest, whole.symm, ?_, more, starts⟩, no⟩
      rintro rfl
      exact no.1 (whole ▸ starts)

/-- A resource above the changed one, under the root of its API. -/
theorem uriCovers_sample :
  (uriCovers ("http://".toList ++ ("udr".toList ++ "/api/v2".toList)) "/v2/imsi-1".toList =
      true ↔
    Covers (segments "/api/v2".toList) (segments "/v2/imsi-1".toList)) ↔
    ¬OnlySuffix (segments "/api/v2".toList) (segments "/v2/imsi-1".toList) ∧
      ¬AboveUnderRoot (segments "/api/v2".toList) (segments "/v2/imsi-1".toList) :=
  uriCovers_right_iff (.inl rfl) (by decide) (.inr ⟨_, rfl⟩) (.inr ⟨_, rfl⟩) (by decide)

/-- A resource that is named like the last segment of the changed path. -/
theorem uriCovers_wrong :
  ¬∀ authority path changed : List Char, '/' ∉ authority → Rooted path → Rooted changed →
    segments changed ≠ [] → (uriCovers ("http://".toList ++ (authority ++ path)) changed = true ↔
        Covers (segments path) (segments changed)) := by
  intro right
  have wrong := right "udr".toList "/amf-3gpp-access".toList "/v2/imsi-1/amf-3gpp-access".toList
    (by decide) (.inr ⟨_, rfl⟩) (.inr ⟨_, rfl⟩) (by decide)
  revert wrong
  decide

end NextGCore.Udr
