import Mathlib.Data.List.AList

/-!
# Chains of nodes

A chain is searched from its head, and the first node with a key is the one that counts.  Nothing
keeps a key from standing in a chain twice; a node that is taken out then uncovers the next one.
-/

namespace NextGCore.Library.Chain

open List

universe u v

variable {Key : Type u} {Value : Type v} [DecidableEq Key]

def position (key : Key) (chain : List (Key × Value)) : Option ℕ :=
  chain.findIdx? fun node => node.1 = key

def find (key : Key) (chain : List (Key × Value)) : Option Value :=
  (chain.find? fun node => node.1 = key).map Prod.snd

variable {key other : Key} {value : Value} {chain : List (Key × Value)} {place : ℕ}

@[simp]
lemma find_nil : find key ([] : List (Key × Value)) = none := rfl

lemma find_cons (node : Key × Value) :
  find key (node :: chain) = if node.1 = key then some node.2 else find key chain := by
  unfold find
  by_cases same : node.1 = key <;> simp [same]

lemma position_cons (node : Key × Value) : position key (node :: chain) =
    if node.1 = key then some 0 else (position key chain).map (· + 1) := by
  simp [position, findIdx?_cons]

lemma position_eq_none_iff : position key chain = none ↔ find key chain = none := by
  induction chain with
  | nil => simp [position]
  | cons node rest ih =>
    rw [position_cons, find_cons]
    by_cases same : node.1 = key
    · simp [same]
    · simp [same, ih]

lemma find_eq_none_iff : find key chain = none ↔ key ∉ chain.map Prod.fst := by
  induction chain with
  | nil => simp
  | cons node rest ih =>
    rw [find_cons, map_cons, mem_cons, not_or, @eq_comm _ key]
    by_cases same : node.1 = key
    · simp [same]
    · simp [same, ih]

lemma find_eraseIdx_of_ne (differs : other ≠ key) (found : position key chain = some place) :
  find other (chain.eraseIdx place) = find other chain := by
  induction chain generalizing place with
  | nil => cases found
  | cons node rest ih =>
    rw [position_cons] at found
    split at found
    · rename_i same
      cases found
      rw [eraseIdx_zero, tail_cons, find_cons, same, if_neg differs.symm]
    · obtain ⟨before, foundLater, rfl⟩ := Option.map_eq_some_iff.mp found
      rw [eraseIdx_cons_succ, find_cons, find_cons, ih foundLater]

lemma find_eraseIdx_self (nodup : (chain.map Prod.fst).Nodup)
  (found : position key chain = some place) : find key (chain.eraseIdx place) = none := by
  induction chain generalizing place with
  | nil => cases found
  | cons node rest ih =>
    rw [map_cons, nodup_cons] at nodup
    rw [position_cons] at found
    split at found
    · rename_i same
      cases found
      rw [eraseIdx_zero, tail_cons]
      exact find_eq_none_iff.mpr (same ▸ nodup.1)
    · rename_i differs
      obtain ⟨before, foundLater, rfl⟩ := Option.map_eq_some_iff.mp found
      rw [eraseIdx_cons_succ, find_cons, if_neg differs]
      exact ih nodup.2 foundLater

omit [DecidableEq Key] in
lemma nodup_eraseIdx (nodup : (chain.map Prod.fst).Nodup) (place : ℕ) :
  ((chain.eraseIdx place).map Prod.fst).Nodup :=
  nodup.sublist ((eraseIdx_sublist chain place).map Prod.fst)

end NextGCore.Library.Chain
