import NextGCore.Bsf.BindingIndices

/-!
# Additions that are refused

`sess_add_binding` indexes an address as soon as it has parsed it.  When a later one does not
parse it answers with no binding, and what it has indexed by then stays.
-/

namespace NextGCore.Bsf

open Crypt (Bytes)
open Library Sbi Option

namespace BsfContext

variable (context : BsfContext) {given : Option String} {sess : BsfSess}

structure SameTables (context next : BsfContext) : Prop where
  sessions : next.sessList.entries = context.sessList.entries
  ipv4 : next.ipv4addrHash.lookup = context.ipv4addrHash.lookup
  ipv6 : next.ipv6prefixHash.lookup = context.ipv6prefixHash.lookup
  mac : next.macHash.lookup = context.macHash.lookup

structure SameReach (context next : BsfContext) : Prop where
  ipv4 : next.sessFindByIpv4addr = context.sessFindByIpv4addr
  ipv6 : next.sessFindByIpv6Prefix = context.sessFindByIpv6Prefix
  mac : next.sessFindByMac = context.sessFindByMac

/-- An addition that answers with no binding changes nothing that a lookup goes by. -/
def AllOrNothing (ipv4addrString ipv6prefixString macAddr48 : Option String) : Prop :=
  ∀ next, context.sessAddBinding ipv4addrString ipv6prefixString macAddr48 = (next, none) →
    SameTables context next ∧ SameReach context next

def Redirects {Key : Type} (readKey : String → Option Key) (hash : Key → Option ℕ) (id : ℕ)
  (given : Option String) : Prop :=
  ∃ text ∈ given, ∃ key, readKey text = some key ∧ hash key ≠ some id

/-- There is room for a binding, and an address comes to lead to its number before a later
address is refused. -/
def LeavesBehind (ipv4addrString ipv6prefixString macAddr48 : Option String) : Prop :=
  context.sessList.size < context.maxNumOfSess ∧
    (Redirects parseIpv4 context.ipv4addrHash.lookup context.sessList.next ipv4addrString ∧
        (Refused readIpv6Key ipv6prefixString ∨ Refused normalizeMac macAddr48) ∨
      ¬ Refused parseIpv4 ipv4addrString ∧
        Redirects readIpv6Key context.ipv6prefixHash.lookup context.sessList.next
          ipv6prefixString ∧ Refused normalizeMac macAddr48)

lemma ipv4addr_setGiven {id : ℕ}
  (done : setGiven BsfSess.setIpv4addr (.new id) given = some sess) :
  sess.ipv4addr = given.bind parseIpv4 := by
  cases given with
  | none =>
    cases done
    rfl
  | some text =>
    obtain ⟨addr, parsed, rfl⟩ := map_eq_some_iff.mp done
    exact parsed.symm

lemma ipv6Key_setGiven {first : BsfSess} (without : first.ipv6Key = none)
  (done : setGiven BsfSess.setIpv6Prefix first given = some sess) :
  sess.ipv6Key = given.bind readIpv6Key := by
  cases given with
  | none =>
    cases done
    exact without
  | some text =>
    obtain ⟨ipv6Prefix, parsed, rfl⟩ := map_eq_some_iff.mp done
    simp [BsfSess.ipv6Key, readIpv6Key, parsed]

def indexed (ipv4addr : Option UInt32) (ipv6Key : Option Bytes) : BsfContext :=
  { context with
    sessList := context.sessList.skip
    ipv4addrHash := name context.ipv4addrHash context.sessList.next ipv4addr
    ipv6prefixHash := name context.ipv6prefixHash context.sessList.next ipv6Key }

section Refusals

variable {context next : BsfContext} {ipv4addrString ipv6prefixString macAddr48 : Option String}
  {Key : Type} {given : Option String} {readKey : String → Option Key} {hash : Key → Option ℕ}

lemma sessAddBinding_outcome (context : BsfContext)
  (ipv4addrString ipv6prefixString macAddr48 : Option String) :
  ((ipv4addrString = none ∧ ipv6prefixString = none ∧ macAddr48 = none ∨
      context.maxNumOfSess ≤ context.sessList.size) ∧
    context.sessAddBinding ipv4addrString ipv6prefixString macAddr48 = (context, none)) ∨
    context.sessList.size < context.maxNumOfSess ∧ ((Refused parseIpv4 ipv4addrString ∧
          context.sessAddBinding ipv4addrString ipv6prefixString macAddr48 =
            (context.indexed none none, none)) ∨
        ¬ Refused parseIpv4 ipv4addrString ∧ ((Refused readIpv6Key ipv6prefixString ∧
              context.sessAddBinding ipv4addrString ipv6prefixString macAddr48 =
                (context.indexed (ipv4addrString.bind parseIpv4) none, none)) ∨
            ¬ Refused readIpv6Key ipv6prefixString ∧ ((Refused normalizeMac macAddr48 ∧
                  context.sessAddBinding ipv4addrString ipv6prefixString macAddr48 =
                    (context.indexed (ipv4addrString.bind parseIpv4)
                      (ipv6prefixString.bind readIpv6Key), none)) ∨
                ¬ Refused normalizeMac macAddr48 ∧
                  (context.sessAddBinding ipv4addrString ipv6prefixString macAddr48).2 ≠
                    none))) := by
  unfold sessAddBinding
  split
  · exact .inl ⟨.inl ‹_›, rfl⟩
  · split
    · exact .inl ⟨.inr ‹_›, rfl⟩
    · rename_i room
      refine .inr ⟨Nat.not_le.mp room, ?_⟩
      have first := @setGiven_eq_none _ _ _ _ ipv4addrString
        (setIpv4addr_eq_none (.new context.sessList.next))
      simp only [← first]
      split
      · exact .inl ⟨‹_›, rfl⟩
      · rename_i withIpv4 isFirst
        have second := @setGiven_eq_none _ _ _ _ ipv6prefixString (setIpv6prefix_eq_none withIpv4)
        rw [isFirst, ipv4addr_setGiven isFirst]
        refine .inr ⟨some_ne_none withIpv4, ?_⟩
        simp only [← second]
        split
        · exact .inl ⟨‹_›, rfl⟩
        · rename_i withIpv6 isSecond
          have third := @setGiven_eq_none _ _ _ _ macAddr48 (setMacAddr48_eq_none withIpv6)
          have kept := setGiven_keeps ⟨rfl, rfl, rfl⟩ setIpv4addr_keeps isFirst
          rw [isSecond, ipv6Key_setGiven kept.2.1 isSecond]
          refine .inr ⟨some_ne_none withIpv6, ?_⟩
          simp only [← third]
          split
          · exact .inl ⟨‹_›, rfl⟩
          · rename_i withMac isThird
            rw [isThird]
            exact .inr ⟨some_ne_none withMac, some_ne_none withMac⟩

lemma assign_eq_self_iff [DecidableEq Key] {id : ℕ} :
  assign hash id (given.bind readKey) = hash ↔ ¬ Redirects readKey hash id given := by
  cases given with
  | none => simp [assign, Redirects]
  | some text =>
    cases parsed : readKey text with
    | none => simp [assign, Redirects, parsed]
    | some key =>
      simp only [bind_some, parsed, assign, Redirects, mem_def,
        Option.some.injEq, exists_eq_left', not_not, Function.update_eq_self_iff]
      exact eq_comm

lemma sameReach_of_sameTables (same : SameTables context next) : SameReach context next := by
  have found : next.sessFind = context.sessFind := by
    funext id
    simp only [sessFind, NumberedTable.lookup, same.sessions]
  constructor
  · funext text
    simp only [sessFindByIpv4addr, findBy, found, same.ipv4]
  · funext text
    simp only [sessFindByIpv6Prefix, findBy, found, same.ipv6]
  · funext text
    simp only [sessFindByMac, findBy, found, same.mac]

lemma sameTables_indexed_iff {ipv4addr : Option UInt32} {ipv6Key : Option Bytes} :
  SameTables context (context.indexed ipv4addr ipv6Key) ↔
    assign context.ipv4addrHash.lookup context.sessList.next ipv4addr =
        context.ipv4addrHash.lookup ∧
      assign context.ipv6prefixHash.lookup context.sessList.next ipv6Key =
        context.ipv6prefixHash.lookup := by
  rw [← lookup_name, ← lookup_name]
  exact ⟨fun same => ⟨same.ipv4, same.ipv6⟩, fun same => ⟨rfl, same.1, same.2, rfl⟩⟩

lemma Redirects.taken {id : ℕ} (redirects : Redirects readKey hash id given) :
  ¬ Refused readKey given := by
  obtain ⟨text, isGiven, key, parsed, -⟩ := redirects
  rintro ⟨other, isOther, refused⟩
  cases isGiven
  cases isOther
  exact nomatch parsed.symm.trans refused

end Refusals

/-- A refused addition leaves the session table, the three indexes and all that they find as they
were, unless there is room and an address before the refused one came to lead to the number that
was used up. -/
theorem allOrNothing_iff (context : BsfContext)
  (ipv4addrString ipv6prefixString macAddr48 : Option String) :
  context.AllOrNothing ipv4addrString ipv6prefixString macAddr48 ↔
    ¬ context.LeavesBehind ipv4addrString ipv6prefixString macAddr48 := by
  have same_of {ipv4addr : Option UInt32} {ipv6Key : Option Bytes}
      (answer : context.sessAddBinding ipv4addrString ipv6prefixString macAddr48 =
        (context.indexed ipv4addr ipv6Key, none)) :
      context.AllOrNothing ipv4addrString ipv6prefixString macAddr48 ↔
        SameTables context (context.indexed ipv4addr ipv6Key) := by
    constructor
    · exact fun whole => (whole _ answer).1
    · intro same next refused
      cases answer.symm.trans refused
      exact ⟨same, sameReach_of_sameTables same⟩
  rcases context.sessAddBinding_outcome ipv4addrString ipv6prefixString macAddr48 with
    ⟨idle, answer⟩ | ⟨room, ⟨ipv4, answer⟩ | ⟨ipv4, ⟨ipv6, answer⟩ | ⟨ipv6, ⟨mac, answer⟩ | ⟨mac,
      answer⟩⟩⟩⟩
  · refine iff_of_true ?_ ?_
    · intro next refused
      cases answer.symm.trans refused
      exact ⟨⟨rfl, rfl, rfl, rfl⟩, rfl, rfl, rfl⟩
    · rintro ⟨room, behind⟩
      rcases idle with ⟨rfl, rfl, rfl⟩ | full
      · simp [Redirects] at behind
      · exact absurd room (Nat.not_lt.mpr full)
  · rw [same_of answer, sameTables_indexed_iff]
    refine iff_of_true ⟨rfl, rfl⟩ ?_
    rintro ⟨-, ⟨redirects, -⟩ | ⟨taken, -⟩⟩
    · exact redirects.taken ipv4
    · exact taken ipv4
  · rw [same_of answer, sameTables_indexed_iff, assign_eq_self_iff]
    have later : ¬ Redirects readIpv6Key context.ipv6prefixHash.lookup context.sessList.next
        ipv6prefixString := fun redirects => redirects.taken ipv6
    simp [LeavesBehind, room, ipv6, later, assign]
  · rw [same_of answer, sameTables_indexed_iff, assign_eq_self_iff, assign_eq_self_iff]
    simp [LeavesBehind, room, ipv4, mac, not_or]
  · refine iff_of_true (fun next refused => absurd (congrArg Prod.snd refused) answer) ?_
    rintro ⟨-, ⟨-, later⟩ | ⟨-, -, later⟩⟩
    · exact later.elim ipv6 mac
    · exact mac later

/-- A second binding with the address of the first, and with a prefix that is none. -/
theorem not_allOrNothing :
  ¬ ∀ (context : BsfContext) (ipv4addrString ipv6prefixString macAddr48 : Option String),
    context.AllOrNothing ipv4addrString ipv6prefixString macAddr48 := by
  intro always
  let first := ((BsfContext.init 4).sessAddBinding (some "10.45.0.2") none none).1
  have refused : (first.sessAddBinding (some "10.45.0.2") (some "no prefix") none).2 = none := by
    decide
  have reach := (always first (some "10.45.0.2") (some "no prefix") none _
    (Prod.ext rfl refused)).2.ipv4
  have lost :
      ((first.sessAddBinding (some "10.45.0.2") (some "no prefix") none).1.sessFindByIpv4addr
        "10.45.0.2").isSome ≠ (first.sessFindByIpv4addr "10.45.0.2").isSome := by decide
  exact lost (congrArg isSome (congrFun reach "10.45.0.2"))

end BsfContext

end NextGCore.Bsf
