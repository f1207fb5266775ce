import Mathlib.Data.Option.Basic
import NextGCore.Library.Machine

/-!
# Registries and announcements
-/

/-!
## Registries

A registry keeps one holder for each slot.  Registering in a slot answers with
the holder it displaces, if that one belonged to another owner.
-/

open Function

namespace NextGCore.Library

universe u v w

variable {Slot : Type u} {Holder : Type v} {Owner : Type w}

inductive RegistryEvent (Slot : Type u) (Holder : Type v) where
  | register (slot : Slot) (holder : Holder)
  | clear (slot : Slot)

variable [DecidableEq Slot] [DecidableEq Owner] (owner : Holder → Owner)

def registry : Machine (Slot → Option Holder) (RegistryEvent Slot Holder) (Option Holder) where
  step holders event :=
    match event with
    | .register slot holder =>
      (update holders slot (some holder),
        (holders slot).filter fun old => owner old ≠ owner holder)
    | .clear slot => (update holders slot none, none)

lemma registry_register (holders : Slot → Option Holder) (slot : Slot) (holder : Holder) :
  (registry owner).step holders (.register slot holder) = (update holders slot (some holder),
      (holders slot).filter fun old => owner old ≠ owner holder) := rfl

end NextGCore.Library

/-!
## Slots that exchanges overwrite

Every party keeps one slot, with the last exchange that it took part in.  An exchange is complete
when the last of its parties has put it into its slot.  Slots of complete exchanges agree as long
as no exchange is completed while another party holds a different complete one.
-/

namespace NextGCore.Library.SharedSlots

variable {Party Number : Type} {held : Party → Option Number} {complete after : Number → Prop}
  {party : Party} {n : Number}

def Agree (held : Party → Option Number) (complete : Number → Prop) : Prop :=
  ∀ ⦃first second m n⦄, held first = some m → held second = some n → complete m → complete n → m = n

lemma agree_of_empty (empty : ∀ party, held party = none) : Agree held complete := by
  intro first second m n holdsFirst
  rw [empty first] at holdsFirst
  cases holdsFirst

lemma Agree.mono (agree : Agree held complete) (fewer : ∀ n, after n → complete n) :
  Agree held after :=
  fun _ _ m n holdsFirst holdsSecond completeM completeN =>
    agree holdsFirst holdsSecond (fewer m completeM) (fewer n completeN)

variable [DecidableEq Party]

lemma Agree.join (agree : Agree held complete) (incomplete : ¬ complete n) :
  Agree (update held party (some n)) complete := by
  have other {third : Party} {k : Number}
      (holds : update held party (some n) third = some k) (completeK : complete k) :
      held third = some k := by
    by_cases same : third = party
    · subst same
      rw [update_self] at holds
      cases holds
      exact absurd completeK incomplete
    · rwa [update_of_ne same] at holds
  intro first second k l holdsFirst holdsSecond completeK completeL
  exact agree (other holdsFirst completeK) (other holdsSecond completeL) completeK completeL

lemma Agree.finish (alone : ∀ other ≠ party, ∀ m, held other = some m → complete m → m = n)
  (only : ∀ m, after m → m = n ∨ complete m) :
  Agree (update held party (some n)) after := by
  have equal {third : Party} {k : Number}
      (holds : update held party (some n) third = some k) (completeK : after k) :
      k = n := by
    by_cases same : third = party
    · subst same
      rw [update_self] at holds
      cases holds
      rfl
    · rw [update_of_ne same] at holds
      rcases only k completeK with isN | before
      · exact isN
      · exact alone third same k holds before
  intro first second k l holdsFirst holdsSecond completeK completeL
  exact (equal holdsFirst completeK).trans (equal holdsSecond completeL).symm

end NextGCore.Library.SharedSlots

/-!
## Announced flags

A machine keeps a flag for each key and announces every change of one.  What it announces of a
key then alternates.
-/

namespace NextGCore.Library

universe u v w x

variable {State : Type u} {Input : Type v} {Output : Type w} {Key : Type x}

def Alternates : Bool → List Bool → Prop
  | _, [] => True
  | current, next :: rest => next = !current ∧ Alternates next rest

variable [DecidableEq Key]

def Announces (before after : Key → Bool) (announced : Option (Key × Bool)) : Prop :=
  (∀ key value, announced = some (key, value) → value = !before key) ∧
    after = (announced.elim before fun entry => update before entry.1 entry.2)

lemma announces_none {flags after : Key → Bool} (same : after = flags) :
  Announces flags after none :=
  ⟨fun _ _ announced => (by cases announced), same⟩

def announcedOf (key : Key) (announced : List (Key × Bool)) : List Bool :=
  (announced.filter fun entry => entry.1 = key).map Prod.snd

lemma alternates_announced (machine : Machine State Input Output) (flags : State → Key → Bool)
  (announced : State × Output → Option (Key × Bool)) {state : State} {inputs : List Input}
  (announces : machine.Along (fun state input => Announces (flags state)
    (flags (machine.step state input).1) (announced (machine.step state input))) state inputs)
  (key : Key) :
  Alternates (flags state key) (announcedOf key (machine.emitted announced state inputs)) := by
  induction inputs generalizing state with
  | nil => trivial
  | cons input rest ih =>
    have later := ih announces.2
    obtain ⟨flips, after⟩ := announces.1
    rw [Machine.emitted_cons]
    cases now : announced (machine.step state input) with
    | none =>
      rw [now, Option.elim_none] at after
      rw [after] at later
      exact later
    | some entry =>
      rw [now, Option.elim_some] at after
      rw [after] at later
      by_cases same : entry.1 = key
      · subst same
        rw [update_self] at later
        have flipped := flips entry.1 entry.2 now
        simpa [announcedOf, Alternates] using ⟨flipped, later⟩
      · rw [update_of_ne (Ne.symm same)] at later
        simpa [announcedOf, same] using later

end NextGCore.Library
