import Mathlib.Data.List.Basic

/-!
# Keystream ciphers

A stream cipher combines symbol `i` of a text with symbol `i` of a keystream
that does not depend on the text.  Only the first `bound` symbols need be
covered, as in ciphers that are told the length of the text separately.
-/

namespace NextGCore.Library

universe u

variable {Symbol : Type u}

/-- Combine the first `bound` symbols of a text with a keystream. -/
def mask (combine : Symbol → Symbol → Symbol) (stream : ℕ → Symbol) (bound : ℕ)
  (text : List Symbol) : List Symbol :=
  text.mapIdx fun index symbol =>
    if index < bound then combine symbol (stream index) else symbol

variable (combine : Symbol → Symbol → Symbol) (stream : ℕ → Symbol) (bound : ℕ)

@[simp]
lemma length_mask (text : List Symbol) :
  (mask combine stream bound text).length = text.length := by
  simp [mask]

@[simp]
lemma mask_nil : mask combine stream bound [] = [] := rfl

lemma mask_mask (cancel : ∀ symbol key, combine (combine symbol key) key = symbol)
  (text : List Symbol) :
  mask combine stream bound (mask combine stream bound text) = text := by
  apply List.ext_getElem
  · simp
  · intro index _ inText
    simp only [mask, List.getElem_mapIdx]
    split <;> simp [cancel]

end NextGCore.Library
