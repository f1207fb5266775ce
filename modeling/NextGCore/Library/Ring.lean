import Mathlib.Data.List.Rotate
import Mathlib.Data.List.ReduceOption
import Mathlib.Data.Nat.ModEq

/-!
# Rings of cells

The items of a ring lie one after the other from its head on, around the end of the cells and up
to its tail; all other cells are empty.  Read from the head, they are the first cells.
-/

namespace NextGCore.Library.Ring

open List Nat

universe u

variable {Item : Type u}

/-- The cells hold the items, and no others, from the head to the tail. -/
structure Holds (cells : List (Option Item)) (head tail : ℕ) (items : List Item) : Prop where
  fromHead : cells.rotate head = items.map some ++ replicate (cells.length - items.length) none
  fits : items.length ≤ cells.length
  headIn : 0 < cells.length → head < cells.length
  tailIs : tail = (head + items.length) % cells.length

variable {cells : List (Option Item)} {head tail : ℕ} {items : List Item} {item : Item}

lemma rotate_set (cells : List (Option Item)) (head offset : ℕ) (content : Option Item)
  (within : offset < cells.length) :
  (cells.set ((head + offset) % cells.length) content).rotate head =
    (cells.rotate head).set offset content := by
  refine ext_getElem (by simp) fun place first second => ?_
  have inside : place < cells.length := by simpa using second
  rw [getElem_rotate, getElem_set, getElem_set, getElem_rotate]
  simp only [length_set]
  refine if_congr ?_ rfl rfl
  rw [add_comm head offset]
  constructor
  · intro same
    exact (Nat.ModEq.add_right_cancel' head same).eq_of_lt_of_lt within inside
  · rintro rfl
    rfl

lemma holds_full (items : List Item) : Holds (items.map some) 0 0 items := by
  constructor
  · simp
  · simp
  · simp
  · simp

lemma Holds.take (holds : Holds cells head tail (item :: items)) :
  cells[head]? = some (some item) ∧
    Holds (cells.set head none) ((head + 1) % cells.length) tail items := by
  have fits : items.length < cells.length := holds.fits
  have positive : 0 < cells.length := zero_lt_of_lt fits
  have inside := holds.headIn positive
  have fromHead := holds.fromHead
  constructor
  · rw [← List.head?_rotate inside, fromHead]
    rfl
  · constructor
    · have emptied := rotate_set cells head 0 none positive
      rw [add_zero, mod_eq_of_lt inside, fromHead] at emptied
      have length : (cells.set head none).length = cells.length := length_set
      have cut : cells.length - items.length = (cells.length - (item :: items).length) + 1 := by
        rw [length_cons]
        omega
      rw [← length, rotate_mod, ← rotate_rotate, emptied, length, cut,
        map_cons, cons_append, set_cons_zero, rotate_cons_succ,
        rotate_zero, replicate_succ', append_assoc]
    · rw [length_set]
      exact fits.le
    · rw [length_set]
      exact fun _ => mod_lt _ positive
    · rw [length_set, mod_add_mod, holds.tailIs, length_cons, add_assoc, add_comm 1]

lemma Holds.put (holds : Holds cells head tail items) (room : items.length < cells.length) :
  Holds (cells.set tail (some item)) head ((tail + 1) % cells.length) (items ++ [item]) := by
  have positive : 0 < cells.length := zero_lt_of_lt room
  constructor
  · rw [holds.tailIs, rotate_set cells head items.length _ room, holds.fromHead]
    have cut : cells.length - items.length = (cells.length - (items.length + 1)) + 1 := by omega
    simp [cut, replicate_succ, set_append_right]
  · simpa using succ_le_of_lt room
  · simpa using holds.headIn
  · rw [length_set, length_append, length_singleton, holds.tailIs, mod_add_mod, add_assoc]

lemma Holds.perm (holds : Holds cells head tail items) :
  cells.reduceOption.Perm items := by
  have rotated : (cells.rotate head).reduceOption = items := by
    rw [holds.fromHead, reduceOption_append, reduceOption_replicate_none, append_nil]
    simp [reduceOption]
  have turned := (rotate_perm cells head).filterMap id
  rw [reduceOption] at rotated
  rw [rotated] at turned
  exact turned.symm

end NextGCore.Library.Ring
