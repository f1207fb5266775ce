import NextGCore.Bsf.Context
import NextGCore.Library.EditedTable
import NextGCore.Library.Machine

/-!
# Coherence of the BSF hash maps

Beside the context an observer notes which binding each address was given to last and
which copies were given another address and are not stored yet.  The setters and the
removals delete an address whoever it leads to, an addition that fails leaves the
addresses that it has already indexed, and a copy can outlive its binding.
-/

namespace NextGCore.Bsf

open Crypt (Bytes)
open Library Sbi List Option Function EditedTable NumberedTable

structure BsfHistory where
  ipv4 : UInt32 → Option ℕ
  ipv6 : Bytes → Option ℕ
  mac : String → Option ℕ
  /-- The copies that a setter has changed and `sess_update` has not stored. -/
  edits : ℕ → Option BsfSess

namespace BsfHistory

variable (history : BsfHistory)

def start : BsfHistory := ⟨fun _ => none, fun _ => none, fun _ => none, fun _ => none⟩

def given (sess : BsfSess) : BsfHistory where
  ipv4 := assign history.ipv4 sess.id sess.ipv4addr
  ipv6 := assign history.ipv6 sess.id sess.ipv6Key
  mac := assign history.mac sess.id sess.macAddr48
  edits := Function.update history.edits sess.id none

def edited (copy : BsfSess) : BsfHistory :=
  { history with edits := Function.update history.edits copy.id (some copy) }

def without (ids : List ℕ) : BsfHistory :=
  { history with edits := fun id => if id ∈ ids then none else history.edits id }

def note (context : BsfContext) : BsfOperation → BsfHistory
  | .sessAddBinding ipv4addrString ipv6prefixString macAddr48 =>
    match (context.sessAddBinding ipv4addrString ipv6prefixString macAddr48).2 with
    | none => history
    | some sess => history.given sess
  | .sessRemove id => history.without [id]
  | .sweepExpired now => history.without (context.expired now)
  | .installLoadedBinding sess => history.given sess
  | .setUeIpv4 sess value =>
    let answer := context.setUeIpv4 sess value
    if answer.2.2 then
      { history.edited answer.2.1 with
        ipv4 := assign history.ipv4 answer.2.1.id answer.2.1.ipv4addr }
    else history
  | .setUeIpv6 sess value =>
    let answer := context.setUeIpv6 sess value
    if answer.2.2 then
      { history.edited answer.2.1 with
        ipv6 := assign history.ipv6 answer.2.1.id answer.2.1.ipv6Key }
    else history
  | .setUeMac sess value =>
    let answer := context.setUeMac sess value
    if answer.2.2 then
      { history.edited answer.2.1 with
        mac := assign history.mac answer.2.1.id answer.2.1.macAddr48 }
    else history
  | .sessUpdate sess =>
    match context.sessFind sess.id with
    | none => history
    | some _ => { history with edits := Function.update history.edits sess.id none }

end BsfHistory

structure SameAddresses (left right : BsfSess) : Prop where
  ipv4 : left.ipv4addr = right.ipv4addr
  ipv6 : left.ipv6Key = right.ipv6Key
  mac : left.macAddr48 = right.macAddr48

instance decidableSameAddresses (left right : BsfSess) : Decidable (SameAddresses left right) :=
  decidable_of_iff (left.ipv4addr = right.ipv4addr ∧ left.ipv6Key = right.ipv6Key ∧
      left.macAddr48 = right.macAddr48)
    ⟨fun same => ⟨same.1, same.2.1, same.2.2⟩, fun same => ⟨same.ipv4, same.ipv6, same.mac⟩⟩

def Refused {Key : Type} (readKey : String → Option Key) (given : Option String) : Prop :=
  ∃ text ∈ given, readKey text = none

instance decidableRefused {Key : Type} (readKey : String → Option Key) (given : Option String) :
  Decidable (Refused readKey given) :=
  match given with
  | none => isFalse fun ⟨_, membership, _⟩ => by cases membership
  | some text =>
    decidable_of_iff ((readKey text).isNone = true)
      ⟨fun refused => ⟨text, rfl, isNone_iff_eq_none.mp refused⟩,
        fun ⟨_, same, refused⟩ => by cases same; exact isNone_iff_eq_none.mpr refused⟩

def AddsWhole (ipv4addrString ipv6prefixString macAddr48 : Option String) : Prop :=
  Refused parseIpv4 ipv4addrString ∨ (ipv4addrString = none ∨
      ¬ Refused BsfContext.readIpv6Key ipv6prefixString ∧ ¬ Refused normalizeMac macAddr48) ∧
    (Refused BsfContext.readIpv6Key ipv6prefixString ∨ ipv6prefixString = none ∨
      ¬ Refused normalizeMac macAddr48)

instance decidableAddsWhole (ipv4addrString ipv6prefixString macAddr48 : Option String) :
  Decidable (AddsWhole ipv4addrString ipv6prefixString macAddr48) :=
  inferInstanceAs (Decidable (_ ∨ (_ ∨ ¬ _ ∧ ¬ _) ∧ (_ ∨ _ ∨ ¬ _)))

namespace BsfContext

variable (context : BsfContext)

def current (history : BsfHistory) : ℕ → Option BsfSess :=
  overlay context.sessFind history.edits

def IsCurrent (history : BsfHistory) (sess : BsfSess) : Prop :=
  ∀ current ∈ context.current history sess.id, SameAddresses current sess

def LeadsInto {Key : Type} (context : BsfContext) (hash : Key → Option ℕ) (ids : List ℕ)
  (address : Option Key) : Prop :=
  ∀ key ∈ address, ∀ found ∈ search context.sessFind hash key, found.id ∈ ids

def RemovesOwn (history : BsfHistory) (ids : List ℕ) (sess : BsfSess) : Prop :=
  context.IsCurrent history sess ∧ context.LeadsInto context.ipv4addrHash.lookup ids sess.ipv4addr ∧
    context.LeadsInto context.ipv6prefixHash.lookup ids sess.ipv6Key ∧
    context.LeadsInto context.macHash.lookup ids sess.macAddr48

/-- A setter that takes its value has a copy of a live binding with its present
addresses, and the address that it replaces leads to no other. -/
def EditsOwn {Key : Type} [DecidableEq Key] (context : BsfContext) (history : BsfHistory)
  (hash : Key → Option ℕ) (keyOf : BsfSess → Option Key) (sess : BsfSess)
  (answer : BsfContext × BsfSess × Bool) : Prop :=
  answer.2.2 = true → context.sessFind sess.id ≠ none ∧ context.IsCurrent history sess ∧
      (keyOf sess ≠ keyOf answer.2.1 → context.LeadsInto hash [sess.id] (keyOf sess))

/-- What the operation takes from an index is the session's own. -/
def TakesOwn (history : BsfHistory) : BsfOperation → Prop
  | .sessAddBinding ipv4addrString ipv6prefixString macAddr48 =>
    AddsWhole ipv4addrString ipv6prefixString macAddr48
  | .sessRemove id => ∀ sess ∈ context.sessFind id, context.RemovesOwn history [id] sess
  | .sweepExpired now =>
    ∀ id ∈ context.expired now, ∀ sess ∈ context.sessFind id,
      context.RemovesOwn history (context.expired now) sess
  | .installLoadedBinding sess => context.IsCurrent history sess
  | .setUeIpv4 sess value =>
    context.EditsOwn history context.ipv4addrHash.lookup BsfSess.ipv4addr sess
      (context.setUeIpv4 sess value)
  | .setUeIpv6 sess value =>
    context.EditsOwn history context.ipv6prefixHash.lookup BsfSess.ipv6Key sess
      (context.setUeIpv6 sess value)
  | .setUeMac sess value =>
    context.EditsOwn history context.macHash.lookup BsfSess.macAddr48 sess
      (context.setUeMac sess value)
  | .sessUpdate sess => context.IsCurrent history sess

instance decidableIsCurrent (context : BsfContext) (history : BsfHistory) (sess : BsfSess) :
  Decidable (context.IsCurrent history sess) :=
  inferInstanceAs (Decidable (∀ _ ∈ _, _))

instance decidableLeadsInto {Key : Type} (context : BsfContext) (hash : Key → Option ℕ)
  (ids : List ℕ) (address : Option Key) : Decidable (context.LeadsInto hash ids address) :=
  inferInstanceAs (Decidable (∀ _ ∈ _, ∀ _ ∈ _, _ ∈ _))

instance decidableRemovesOwn (context : BsfContext) (history : BsfHistory) (ids : List ℕ)
  (sess : BsfSess) : Decidable (context.RemovesOwn history ids sess) :=
  inferInstanceAs (Decidable (_ ∧ _ ∧ _ ∧ _))

instance decidableEditsOwn {Key : Type} [DecidableEq Key] (context : BsfContext)
  (history : BsfHistory) (hash : Key → Option ℕ) (keyOf : BsfSess → Option Key) (sess : BsfSess)
  (answer : BsfContext × BsfSess × Bool) :
  Decidable (context.EditsOwn history hash keyOf sess answer) :=
  inferInstanceAs (Decidable (_ → _ ∧ _ ∧ (_ → _)))

instance decidableTakesOwn (context : BsfContext) (history : BsfHistory) :
    (operation : BsfOperation) → Decidable (context.TakesOwn history operation)
  | .sessAddBinding _ _ _ => decidableAddsWhole _ _ _
  | .sessRemove _ => inferInstanceAs (Decidable (∀ _ ∈ _, _))
  | .sweepExpired _ => inferInstanceAs (Decidable (∀ _ ∈ _, ∀ _ ∈ _, _))
  | .installLoadedBinding _ | .sessUpdate _ => decidableIsCurrent _ _ _
  | .setUeIpv4 _ _ | .setUeIpv6 _ _ | .setUeMac _ _ => decidableEditsOwn _ _ _ _ _ _

/-- A lookup finds the owner of an address, and nothing but live bindings that carry
it; a binding with an edit that is not stored yet is left out. -/
structure Answers {Key : Type} (context : BsfContext) (history : BsfHistory)
  (readKey : String → Option Key) (keyOf : BsfSess → Option Key) (owner : Key → Option ℕ)
  (find : String → Option BsfSess) : Prop where
  finds : ∀ id sess text key, context.sessFind id = some sess → history.edits id = none →
    readKey text = some key → keyOf sess = some key → owner key = some id →
    find text = some sess
  live : ∀ text sess, find text = some sess → context.sessFind sess.id = some sess
  carries : ∀ text sess, find text = some sess → history.edits sess.id = none →
    readKey text = keyOf sess

/-- Each lookup answers as the history of its keys says. -/
structure Coherent (context : BsfContext) (history : BsfHistory) : Prop where
  ipv4 : Answers context history parseIpv4 BsfSess.ipv4addr history.ipv4 context.sessFindByIpv4addr
  ipv6 : Answers context history readIpv6Key BsfSess.ipv6Key history.ipv6
    context.sessFindByIpv6Prefix
  mac : Answers context history normalizeMac BsfSess.macAddr48 history.mac context.sessFindByMac

/-- The sessions that the operation is about. -/
def targets : BsfOperation → ℕ → Prop
  | .sessAddBinding _ _ _ => (· = context.sessList.next)
  | .sessRemove id => (· = id)
  | .sweepExpired now => (· ∈ context.expired now)
  | .installLoadedBinding sess | .setUeIpv4 sess _ | .setUeIpv6 sess _ | .setUeMac sess _
  | .sessUpdate sess => (· = sess.id)

structure SparesOthers (context next : BsfContext) (operation : BsfOperation) : Prop where
  ipv4 : Spares BsfSess.id (context.targets operation) context.sessFindByIpv4addr
    next.sessFindByIpv4addr
  ipv6 : Spares BsfSess.id (context.targets operation) context.sessFindByIpv6Prefix
    next.sessFindByIpv6Prefix
  mac : Spares BsfSess.id (context.targets operation) context.sessFindByMac next.sessFindByMac

section Adding

variable {context next : BsfContext} {sess : BsfSess}
  {ipv4addrString ipv6prefixString macAddr48 : Option String} {set : BsfSess}

lemma setGiven_keeps {kept : BsfSess → Prop} {given : Option String}
  {setter : BsfSess → String → Option BsfSess} (start : kept sess)
  (keeps : ∀ {text copy}, setter sess text = some copy → kept copy)
  (done : setGiven setter sess given = some set) : kept set := by
  cases given with
  | none =>
    obtain rfl : sess = set := Option.some.inj done
    exact start
  | some text => exact keeps done

lemma setIpv4addr_keeps {text : String} (taken : sess.setIpv4addr text = some set) :
  set.id = sess.id ∧ set.ipv6Key = sess.ipv6Key ∧ set.macAddr48 = sess.macAddr48 := by
  obtain ⟨addr, -, rfl⟩ := map_eq_some_iff.mp taken
  exact ⟨rfl, rfl, rfl⟩

lemma setIpv6Prefix_keeps {text : String} (taken : sess.setIpv6Prefix text = some set) :
  set.id = sess.id ∧ set.ipv4addr = sess.ipv4addr ∧ set.macAddr48 = sess.macAddr48 := by
  obtain ⟨ipv6Prefix, -, rfl⟩ := map_eq_some_iff.mp taken
  exact ⟨rfl, rfl, rfl⟩

lemma setMacAddr48_keeps {text : String} (taken : sess.setMacAddr48 text = some set) :
  set.id = sess.id ∧ set.ipv4addr = sess.ipv4addr ∧ set.ipv6Key = sess.ipv6Key := by
  obtain ⟨mac, -, rfl⟩ := map_eq_some_iff.mp taken
  exact ⟨rfl, rfl, rfl⟩

lemma sessAddBinding_added
  (added : context.sessAddBinding ipv4addrString ipv6prefixString macAddr48 = (next, some sess)) :
  sess.id = context.sessList.next ∧
    next = { context with
      ipv4addrHash := name context.ipv4addrHash sess.id sess.ipv4addr
      ipv6prefixHash := name context.ipv6prefixHash sess.id sess.ipv6Key
      macHash := name context.macHash sess.id sess.macAddr48
      sessList := context.sessList.skip.install sess } := by
  unfold sessAddBinding at added
  split at added
  · cases added
  · split at added
    · cases added
    · simp only at added
      split at added
      · cases added
      · rename_i first isFirst
        split at added
        · cases added
        · rename_i second isSecond
          split at added
          · cases added
          · rename_i third isThird
            obtain ⟨firstId, -, -⟩ := setGiven_keeps ⟨rfl, rfl, rfl⟩ setIpv4addr_keeps isFirst
            obtain ⟨secondId, ipv4, -⟩ :=
              setGiven_keeps ⟨rfl, rfl, rfl⟩ setIpv6Prefix_keeps isSecond
            obtain ⟨thirdId, ipv4', ipv6⟩ :=
              setGiven_keeps ⟨rfl, rfl, rfl⟩ setMacAddr48_keeps isThird
            have number : third.id = context.sessList.next := by
              rw [thirdId, secondId, firstId]
              rfl
            cases added
            exact ⟨number, by rw [number, ipv4', ipv4, ipv6]⟩

lemma setGiven_eq_none {Key : Type} {readKey : String → Option Key}
  {set : BsfSess → String → Option BsfSess} {given : Option String}
  (refuses : ∀ text, set sess text = none ↔ readKey text = none) :
  setGiven set sess given = none ↔ Refused readKey given := by
  cases given with
  | none => simp [setGiven, Refused]
  | some text => simp [setGiven, Refused, refuses]

lemma setIpv4addr_eq_none (sess : BsfSess) (text : String) :
  sess.setIpv4addr text = none ↔ parseIpv4 text = none := by
  simp [BsfSess.setIpv4addr]

lemma setIpv6prefix_eq_none (sess : BsfSess) (text : String) :
  sess.setIpv6Prefix text = none ↔ readIpv6Key text = none := by
  simp [BsfSess.setIpv6Prefix, readIpv6Key]

lemma setMacAddr48_eq_none (sess : BsfSess) (text : String) :
  sess.setMacAddr48 text = none ↔ normalizeMac text = none := by
  simp [BsfSess.setMacAddr48]

lemma sessAddBinding_refused (whole : AddsWhole ipv4addrString ipv6prefixString macAddr48)
  (refused : context.sessAddBinding ipv4addrString ipv6prefixString macAddr48 = (next, none)) :
  next.ipv4addrHash = context.ipv4addrHash ∧
    next.ipv6prefixHash = context.ipv6prefixHash ∧ next.macHash = context.macHash ∧
    next.sessFind = context.sessFind := by
  unfold sessAddBinding at refused
  split at refused
  · cases refused
    exact ⟨rfl, rfl, rfl, rfl⟩
  · split at refused
    · cases refused
      exact ⟨rfl, rfl, rfl, rfl⟩
    · simp only at refused
      split at refused
      · cases refused
        exact ⟨rfl, rfl, rfl, rfl⟩
      · rename_i first isFirst
        have accepted : ¬ Refused parseIpv4 ipv4addrString := by
          rw [← setGiven_eq_none (setIpv4addr_eq_none (.new context.sessList.next)), isFirst]
          exact some_ne_none first
        obtain ⟨noneBefore, noneBetween⟩ := whole.resolve_left accepted
        split at refused
        · rename_i isRefused
          have ipv6 := (setGiven_eq_none (setIpv6prefix_eq_none first)).mp isRefused
          obtain rfl := noneBefore.resolve_right fun both => both.1 ipv6
          cases isFirst
          cases refused
          exact ⟨rfl, rfl, rfl, rfl⟩
        · rename_i second isSecond
          split at refused
          · rename_i isRefused
            have mac := (setGiven_eq_none (setMacAddr48_eq_none second)).mp isRefused
            have acceptedToo : ¬ Refused readIpv6Key ipv6prefixString := by
              rw [← setGiven_eq_none (setIpv6prefix_eq_none first), isSecond]
              exact some_ne_none second
            obtain rfl := noneBefore.resolve_right fun both => both.2 mac
            obtain rfl :=
              (noneBetween.resolve_left acceptedToo).resolve_right fun taken => taken mac
            cases isFirst
            cases isSecond
            cases refused
            exact ⟨rfl, rfl, rfl, rfl⟩
          · cases refused

end Adding

lemma setUeIpv4_cases (sess : BsfSess) (value : Option String) :
  (context.setUeIpv4 sess value = (context, sess, false)) ∨ ∃ copy, context.setUeIpv4 sess value =
        ({ context with
            ipv4addrHash := name (unname context.ipv4addrHash sess.ipv4addr) sess.id
              copy.ipv4addr }, copy, true) ∧
      copy.id = sess.id ∧ copy.ipv6Key = sess.ipv6Key ∧ copy.macAddr48 = sess.macAddr48 := by
  cases value with
  | none =>
    exact .inr ⟨{ sess with ipv4addr := none, ipv4addrString := none, ipDomain := none },
      rfl, rfl, rfl, rfl⟩
  | some text =>
    simp only [setUeIpv4]
    cases taken : sess.setIpv4addr text with
    | none => exact .inl rfl
    | some copy => exact .inr ⟨copy, rfl, setIpv4addr_keeps taken⟩

lemma setUeIpv6_cases (sess : BsfSess) (value : Option String) :
  (context.setUeIpv6 sess value = (context, sess, false)) ∨ ∃ copy, context.setUeIpv6 sess value =
        ({ context with
            ipv6prefixHash := name (unname context.ipv6prefixHash sess.ipv6Key) sess.id
              copy.ipv6Key }, copy, true) ∧
      copy.id = sess.id ∧ copy.ipv4addr = sess.ipv4addr ∧ copy.macAddr48 = sess.macAddr48 := by
  cases value with
  | none =>
    exact .inr ⟨{ sess with ipv6Prefix := none, ipv6prefixString := none }, rfl, rfl, rfl, rfl⟩
  | some text =>
    simp only [setUeIpv6]
    cases taken : sess.setIpv6Prefix text with
    | none => exact .inl rfl
    | some copy => exact .inr ⟨copy, rfl, setIpv6Prefix_keeps taken⟩

lemma setUeMac_cases (sess : BsfSess) (value : Option String) :
  (context.setUeMac sess value = (context, sess, false)) ∨ ∃ copy, context.setUeMac sess value =
        ({ context with
            macHash := name (unname context.macHash sess.macAddr48) sess.id copy.macAddr48 },
          copy, true) ∧
      copy.id = sess.id ∧ copy.ipv4addr = sess.ipv4addr ∧ copy.ipv6Key = sess.ipv6Key := by
  cases value with
  | none => exact .inr ⟨{ sess with macAddr48 := none }, rfl, rfl, rfl, rfl⟩
  | some text =>
    simp only [setUeMac]
    cases taken : sess.setMacAddr48 text with
    | none => exact .inl rfl
    | some copy => exact .inr ⟨copy, rfl, setMacAddr48_keeps taken⟩

lemma removeEach_view {Key : Type} [DecidableEq Key] (hash : BsfContext → Key → Option ℕ)
  (keyOf : BsfSess → Option Key)
  (edits : ∀ context id, hash (context.sessRemove id).1 =
    forget (hash context) ((context.sessFind id).bind keyOf))
  (context : BsfContext) (ids : List ℕ) :
  ids.foldl (OwnedIndex.dropRecord keyOf) (context.sessFind, hash context) =
    ((context.removeEach ids).sessFind, hash (context.removeEach ids)) := by
  induction ids generalizing context with
  | nil => rfl
  | cons id ids ih =>
    have step : OwnedIndex.dropRecord keyOf (context.sessFind, hash context) id =
        ((context.sessRemove id).1.sessFind, hash (context.sessRemove id).1) := by
      rw [edits]
      unfold OwnedIndex.dropRecord
      cases found : context.sessFind id with
      | none => simp [sessRemove, found, forget]
      | some sess =>
        simp only [sessRemove, found, bind_some]
        exact congrArg (·, _) (NumberedTable.lookup_erase_eq context.sessList id).symm
    rw [foldl_cons, step, ih]
    rfl

lemma hashes_sessRemove (id : ℕ) :
  (context.sessRemove id).1.ipv4addrHash.lookup =
      forget context.ipv4addrHash.lookup ((context.sessFind id).bind BsfSess.ipv4addr) ∧
    (context.sessRemove id).1.ipv6prefixHash.lookup =
      forget context.ipv6prefixHash.lookup ((context.sessFind id).bind BsfSess.ipv6Key) ∧
    (context.sessRemove id).1.macHash.lookup =
      forget context.macHash.lookup ((context.sessFind id).bind BsfSess.macAddr48) := by
  unfold sessRemove
  cases context.sessFind id with
  | none => exact ⟨rfl, rfl, rfl⟩
  | some sess => exact ⟨lookup_unname _ _, lookup_unname _ _, lookup_unname _ _⟩

def byIpv4 (history : BsfHistory) : EditedTable BsfSess UInt32 :=
  ⟨context.sessFind, history.edits, context.ipv4addrHash.lookup, history.ipv4⟩

def byIpv6 (history : BsfHistory) : EditedTable BsfSess Bytes :=
  ⟨context.sessFind, history.edits, context.ipv6prefixHash.lookup, history.ipv6⟩

def byMac (history : BsfHistory) : EditedTable BsfSess String :=
  ⟨context.sessFind, history.edits, context.macHash.lookup, history.mac⟩

structure Indexed (context : BsfContext) (history : BsfHistory) : Prop where
  ipv4 : (context.byIpv4 history).Indexed BsfSess.id BsfSess.ipv4addr
  ipv6 : (context.byIpv6 history).Indexed BsfSess.id BsfSess.ipv6Key
  mac : (context.byMac history).Indexed BsfSess.id BsfSess.macAddr48

lemma indexed_init (maxSess : ℕ) : Indexed (.init maxSess) .start where
  ipv4 := indexed_empty _
  ipv6 := indexed_empty _
  mac := indexed_empty _

structure IndicesAfter (context next : BsfContext) (history history' : BsfHistory)
  (targets : ℕ → Prop) : Prop where
  ipv4 : After BsfSess.id BsfSess.ipv4addr targets (context.byIpv4 history)
    (next.byIpv4 history')
  ipv6 : After BsfSess.id BsfSess.ipv6Key targets (context.byIpv6 history)
    (next.byIpv6 history')
  mac : After BsfSess.id BsfSess.macAddr48 targets (context.byMac history)
    (next.byMac history')

namespace Indexed

variable {context next : BsfContext} {history : BsfHistory} {targets : ℕ → Prop} {sess : BsfSess}
  {value : Option String}

lemma same (indexed : Indexed context history)
  (unchanged : next.ipv4addrHash = context.ipv4addrHash ∧
    next.ipv6prefixHash = context.ipv6prefixHash ∧ next.macHash = context.macHash ∧
    next.sessFind = context.sessFind) :
  IndicesAfter context next history history targets := by
  obtain ⟨ipv4, ipv6, mac, table⟩ := unchanged
  constructor
  · exact .same indexed.ipv4 (by simp only [byIpv4, ipv4, table])
  · exact .same indexed.ipv6 (by simp only [byIpv6, ipv6, table])
  · exact .same indexed.mac (by simp only [byMac, mac, table])

lemma given (indexed : Indexed context history) (isCurrent : context.IsCurrent history sess)
  (isTarget : targets sess.id)
  (ipv4 : next.ipv4addrHash = name context.ipv4addrHash sess.id sess.ipv4addr)
  (ipv6 : next.ipv6prefixHash = name context.ipv6prefixHash sess.id sess.ipv6Key)
  (mac : next.macHash = name context.macHash sess.id sess.macAddr48)
  (table : next.sessFind = Function.update context.sessFind sess.id (some sess)) :
  IndicesAfter context next history (history.given sess) targets := by
  constructor
  · simp only [byIpv4, ipv4, table, lookup_name, BsfHistory.given]
    exact indexed.ipv4.store (fun current found => (isCurrent current found).ipv4) isTarget
  · simp only [byIpv6, ipv6, table, lookup_name, BsfHistory.given]
    exact indexed.ipv6.store (fun current found => (isCurrent current found).ipv6) isTarget
  · simp only [byMac, mac, table, lookup_name, BsfHistory.given]
    exact indexed.mac.store (fun current found => (isCurrent current found).mac) isTarget

lemma removed {ids : List ℕ} (indexed : Indexed context history)
  (own : ∀ id ∈ ids, ∀ sess ∈ context.sessFind id, context.RemovesOwn history ids sess)
  (areTargets : ∀ id ∈ ids, targets id) :
  IndicesAfter context (context.removeEach ids) history (history.without ids) targets := by
  have stillEdited : ∀ id, (history.without ids).edits id =
      if id ∈ ids then none else history.edits id := fun _ => rfl
  have isCurrent : ∀ {id sess current}, id ∈ ids → context.sessFind id = some sess →
      overlay context.sessFind history.edits id = some current → SameAddresses current sess := by
    intro id sess current gone found now
    obtain rfl : sess.id = id := number_eq found
    exact (own _ gone sess found).1 current now
  constructor
  · have after := indexed.ipv4.removeEach stillEdited (fun id gone sess found =>
      ⟨fun current now => (isCurrent gone found now).ipv4, (own id gone sess found).2.1⟩)
      areTargets
    rw [removeEach_view (fun context => context.ipv4addrHash.lookup) BsfSess.ipv4addr
      fun context id => (context.hashes_sessRemove id).1] at after
    exact after
  · have after := indexed.ipv6.removeEach stillEdited (fun id gone sess found =>
      ⟨fun current now => (isCurrent gone found now).ipv6, (own id gone sess found).2.2.1⟩)
      areTargets
    rw [removeEach_view (fun context => context.ipv6prefixHash.lookup) BsfSess.ipv6Key
      fun context id => (context.hashes_sessRemove id).2.1] at after
    exact after
  · have after := indexed.mac.removeEach stillEdited (fun id gone sess found =>
      ⟨fun current now => (isCurrent gone found now).mac, (own id gone sess found).2.2.2⟩)
      areTargets
    rw [removeEach_view (fun context => context.macHash.lookup) BsfSess.macAddr48
      fun context id => (context.hashes_sessRemove id).2.2] at after
    exact after

lemma present (isCurrent : context.IsCurrent history sess)
  (found : context.sessFind sess.id ≠ none) :
  ∃ stored current, context.sessFind sess.id = some stored ∧
    overlay context.sessFind history.edits sess.id = some current ∧
      SameAddresses current sess := by
  obtain ⟨stored, live⟩ := ne_none_iff_exists'.mp found
  have now : overlay context.sessFind history.edits sess.id =
      some ((history.edits sess.id).getD stored) := by
    simp [overlay, live]
  exact ⟨stored, _, live, now, isCurrent _ now⟩

lemma leadsHome {Key : Type} {hash : Key → Option ℕ} {keyOf : BsfSess → Option Key}
  {current copy : BsfSess} (same : keyOf current = keyOf sess) (sameId : copy.id = sess.id)
  (own : keyOf sess ≠ keyOf copy → context.LeadsInto hash [sess.id] (keyOf sess))
  (differs : keyOf current ≠ keyOf copy) :
  ∀ key ∈ keyOf current, ∀ other ∈ search context.sessFind hash key, other.id = copy.id := by
  intro key isKey other led
  have member := own (same ▸ differs) key (same ▸ isKey) other led
  rw [sameId]
  exact mem_singleton.mp member

section

variable (indexed : Indexed context history)

include indexed

lemma setUeIpv4 (takesOwn : context.TakesOwn history (.setUeIpv4 sess value))
  (isTarget : targets sess.id) :
  IndicesAfter context (context.setUeIpv4 sess value).1 history
    (history.note context (.setUeIpv4 sess value)) targets := by
  rcases setUeIpv4_cases context sess value with
    refused | ⟨copy, taken, sameId, sameIpv6, sameMac⟩
  · simp only [BsfHistory.note, refused]
    exact indexed.same ⟨rfl, rfl, rfl, rfl⟩
  · obtain ⟨live, isCurrent, own⟩ := takesOwn (by rw [taken])
    rw [taken] at own
    obtain ⟨stored, current, found, now, ⟨ipv4, ipv6, mac⟩⟩ := present isCurrent live
    simp only [BsfHistory.note, taken, if_true]
    rw [← sameId] at found now isTarget
    constructor
    · have after := indexed.ipv4.edit found now (leadsHome ipv4 sameId own) isTarget
      simp only [byIpv4, lookup_name, lookup_unname, ← ipv4, ← sameId]
      exact after
    · exact indexed.ipv6.keep found now (sameIpv6.trans ipv6.symm) isTarget
    · exact indexed.mac.keep found now (sameMac.trans mac.symm) isTarget

lemma setUeIpv6 (takesOwn : context.TakesOwn history (.setUeIpv6 sess value))
  (isTarget : targets sess.id) :
  IndicesAfter context (context.setUeIpv6 sess value).1 history
    (history.note context (.setUeIpv6 sess value)) targets := by
  rcases setUeIpv6_cases context sess value with
    refused | ⟨copy, taken, sameId, sameIpv4, sameMac⟩
  · simp only [BsfHistory.note, refused]
    exact indexed.same ⟨rfl, rfl, rfl, rfl⟩
  · obtain ⟨live, isCurrent, own⟩ := takesOwn (by rw [taken])
    rw [taken] at own
    obtain ⟨stored, current, found, now, ⟨ipv4, ipv6, mac⟩⟩ := present isCurrent live
    simp only [BsfHistory.note, taken, if_true]
    rw [← sameId] at found now isTarget
    constructor
    · exact indexed.ipv4.keep found now (sameIpv4.trans ipv4.symm) isTarget
    · have after := indexed.ipv6.edit found now (leadsHome ipv6 sameId own) isTarget
      simp only [byIpv6, lookup_name, lookup_unname, ← ipv6, ← sameId]
      exact after
    · exact indexed.mac.keep found now (sameMac.trans mac.symm) isTarget

lemma setUeMac (takesOwn : context.TakesOwn history (.setUeMac sess value))
  (isTarget : targets sess.id) :
  IndicesAfter context (context.setUeMac sess value).1 history
    (history.note context (.setUeMac sess value)) targets := by
  rcases setUeMac_cases context sess value with
    refused | ⟨copy, taken, sameId, sameIpv4, sameIpv6⟩
  · simp only [BsfHistory.note, refused]
    exact indexed.same ⟨rfl, rfl, rfl, rfl⟩
  · obtain ⟨live, isCurrent, own⟩ := takesOwn (by rw [taken])
    rw [taken] at own
    obtain ⟨stored, current, found, now, ⟨ipv4, ipv6, mac⟩⟩ := present isCurrent live
    simp only [BsfHistory.note, taken, if_true]
    rw [← sameId] at found now isTarget
    constructor
    · exact indexed.ipv4.keep found now (sameIpv4.trans ipv4.symm) isTarget
    · exact indexed.ipv6.keep found now (sameIpv6.trans ipv6.symm) isTarget
    · have after := indexed.mac.edit found now (leadsHome mac sameId own) isTarget
      simp only [byMac, lookup_name, lookup_unname, ← mac, ← sameId]
      exact after

lemma sessUpdate (isCurrent : context.IsCurrent history sess) (isTarget : targets sess.id) :
  IndicesAfter context (context.sessUpdate sess).1 history
    (history.note context (.sessUpdate sess)) targets := by
  cases found : context.sessFind sess.id with
  | none =>
    simp only [BsfHistory.note, found, BsfContext.sessUpdate, update_of_missing found]
    exact indexed.same ⟨rfl, rfl, rfl, rfl⟩
  | some stored =>
    obtain ⟨_, current, -, now, ⟨ipv4, ipv6, mac⟩⟩ :=
      present isCurrent (found ▸ some_ne_none stored)
    have table : (context.sessUpdate sess).1.sessFind =
        Function.update context.sessFind sess.id (some sess) :=
      lookup_update_eq found
    simp only [BsfHistory.note, found]
    constructor
    · simp only [byIpv4, table]
      exact indexed.ipv4.settle now ipv4.symm isTarget
    · simp only [byIpv6, table]
      exact indexed.ipv6.settle now ipv6.symm isTarget
    · simp only [byMac, table]
      exact indexed.mac.settle now mac.symm isTarget

end

lemma sessAddBinding {ipv4addrString ipv6prefixString macAddr48 : Option String}
  (indexed : Indexed context history)
  (whole : AddsWhole ipv4addrString ipv6prefixString macAddr48)
  (isTarget : targets context.sessList.next) :
  IndicesAfter context
    (context.sessAddBinding ipv4addrString ipv6prefixString macAddr48).1 history
    (history.note context (.sessAddBinding ipv4addrString ipv6prefixString macAddr48))
    targets := by
  simp only [BsfHistory.note]
  rcases added : context.sessAddBinding ipv4addrString ipv6prefixString macAddr48 with
    ⟨next, _ | sess⟩
  · exact indexed.same (sessAddBinding_refused whole added)
  · obtain ⟨number, rfl⟩ := sessAddBinding_added added
    have isNew : context.IsCurrent history sess := by
      intro current now
      obtain ⟨stored, found, -⟩ := of_overlay now
      rw [number] at found
      exact absurd found (by rw [sessFind, lookup_eq_none (Nat.le_refl _)]; simp)
    refine indexed.given isNew (number ▸ isTarget) rfl rfl rfl ?_
    exact lookup_install_eq context.sessList.skip sess

lemma operate {operation : BsfOperation} (indexed : Indexed context history)
  (takesOwn : context.TakesOwn history operation) :
  IndicesAfter context (context.operate operation) history (history.note context operation)
    (context.targets operation) := by
  cases operation with
  | sessAddBinding ipv4addrString ipv6prefixString macAddr48 =>
    exact indexed.sessAddBinding takesOwn rfl
  | sessRemove id =>
    refine Indexed.removed indexed (show ∀ other ∈ [id], _ from ?_) ?_
    · intro other gone
      obtain rfl := mem_singleton.mp gone
      exact takesOwn
    · exact fun other gone => mem_singleton.mp gone
  | sweepExpired now => exact indexed.removed takesOwn fun _ gone => gone
  | installLoadedBinding sess =>
    refine indexed.given takesOwn rfl rfl rfl rfl ?_
    exact lookup_install_eq context.sessList sess
  | setUeIpv4 sess value => exact indexed.setUeIpv4 takesOwn rfl
  | setUeIpv6 sess value => exact indexed.setUeIpv6 takesOwn rfl
  | setUeMac sess value => exact indexed.setUeMac takesOwn rfl
  | sessUpdate sess => exact indexed.sessUpdate takesOwn rfl

end Indexed

namespace IndicesAfter

variable {context next : BsfContext} {history history' : BsfHistory} {targets : ℕ → Prop}

lemma indexed (after : IndicesAfter context next history history' targets) :
  Indexed next history' :=
  ⟨after.ipv4.indexed, after.ipv6.indexed, after.mac.indexed⟩

lemma spares_findBy {Key : Type} {readKey : String → Option Key} {hash hash' : Key → Option ℕ}
  (spares : Spares BsfSess.id targets (search context.sessFind hash)
    (search next.sessFind hash')) :
  Spares BsfSess.id targets (context.findBy readKey hash) (next.findBy readKey hash') := by
  intro text sess found spared
  obtain ⟨key, isKey, led⟩ := bind_eq_some_iff.mp found
  obtain ⟨again, foundAgain, which⟩ := spares key sess led spared
  exact ⟨again, bind_eq_some_iff.mpr ⟨key, isKey, foundAgain⟩, which⟩

end IndicesAfter

namespace Indexed

variable {context : BsfContext} {history : BsfHistory}

lemma answers {Key : Type} {readKey : String → Option Key} {keyOf : BsfSess → Option Key}
  {hash owner : Key → Option ℕ}
  (indexed : (⟨context.sessFind, history.edits, hash, owner⟩ :
    EditedTable BsfSess Key).Indexed BsfSess.id keyOf) :
  Answers context history readKey keyOf owner (context.findBy readKey hash) where
  finds id sess text key live settled isKey carries owns :=
    bind_eq_some_iff.mpr
      ⟨key, isKey, indexed.answers.finds id sess key live settled carries owns⟩
  live text sess found := by
    obtain ⟨key, -, led⟩ := bind_eq_some_iff.mp found
    exact indexed.answers.stored key sess led
  carries text sess found settled := by
    obtain ⟨key, isKey, led⟩ := bind_eq_some_iff.mp found
    exact isKey.trans (indexed.answers.bears key sess led settled).symm

lemma coherent (indexed : Indexed context history) : context.Coherent history :=
  ⟨answers indexed.ipv4, answers indexed.ipv6, answers indexed.mac⟩

lemma sparesOthers {operation : BsfOperation} (indexed : Indexed context history)
  (takesOwn : context.TakesOwn history operation) :
  SparesOthers context (context.operate operation) operation :=
  have after := indexed.operate takesOwn
  ⟨IndicesAfter.spares_findBy after.ipv4.spares, IndicesAfter.spares_findBy after.ipv6.spares,
    IndicesAfter.spares_findBy after.mac.spares⟩

end Indexed

def bindingMachine : Machine (BsfContext × BsfHistory) BsfOperation Unit where
  step joint operation :=
    ((joint.1.operate operation, joint.2.note joint.1 operation), ())

/-- In every run of operations in order, each live binding whose edits are stored is
found by the addresses it was the last to be given, what is found is live and carries the
address, and no operation on one binding makes another unfindable. -/
theorem binding_indices_coherent (maxSess : ℕ) (operations : List BsfOperation)
  (along : bindingMachine.Along (fun joint operation => joint.1.TakesOwn joint.2 operation)
    (.init maxSess, .start) operations) :
  ∀ context history, bindingMachine.run (.init maxSess, .start) operations = (context, history) →
    context.Coherent history ∧ ∀ operation, context.TakesOwn history operation →
        context.SparesOthers (context.operate operation) operation := by
  have kept : ∀ (joint : BsfContext × BsfHistory) operation, Indexed joint.1 joint.2 →
      joint.1.TakesOwn joint.2 operation → Indexed (bindingMachine.step joint operation).1.1
          (bindingMachine.step joint operation).1.2 :=
    fun _ _ indexed takesOwn => (indexed.operate takesOwn).indexed
  intro context history reached
  have atEnd := bindingMachine.invariant_run kept (indexed_init maxSess) along
  rw [reached] at atEnd
  exact ⟨atEnd.coherent, fun _ takesOwn => atEnd.sparesOthers takesOwn⟩

/-- A binding with an IPv4 address, as `sess_add_binding` makes it. -/
def addressed (id : ℕ) (ipv4addrString : String) : BsfSess :=
  ((BsfSess.new id).setIpv4addr ipv4addrString).getD (.new id)

def ownAddresses : List BsfOperation :=
  [.sessAddBinding (some "10.45.0.2") none none,
    .setUeIpv4 (addressed 1 "10.45.0.2") (some "10.45.0.3"), .sessUpdate (addressed 1 "10.45.0.3"),
    .sessAddBinding (some "10.45.0.2") none (some "aa:bb:cc:dd:ee:ff"),
    .installLoadedBinding (addressed 7 "10.45.0.7"), .sessRemove 1, .sweepExpired 0]

theorem binding_indices_coherent_own_addresses :
  Coherent (bindingMachine.run (.init 4, .start) ownAddresses).1
    (bindingMachine.run (.init 4, .start) ownAddresses).2 :=
  (binding_indices_coherent 4 ownAddresses (by decide) _ _ rfl).1

def sharedIpv4 : List BsfOperation :=
  [.sessAddBinding (some "10.45.0.2") none none, .sessAddBinding (some "10.45.0.2") none none,
    .sessRemove 1]

def failedAddition : List BsfOperation :=
  [.sessAddBinding (some "10.45.0.2") none none,
    .sessAddBinding (some "10.45.0.2") (some "no prefix") none]

def outlived : List BsfOperation :=
  [.sessAddBinding (some "10.45.0.2") none none, .sessAddBinding (some "10.45.0.3") none none,
    .sessRemove 1]

/-- After the first two runs a live binding is not found by the address that it was the
last to be given; after the third a setter makes a live binding unfindable. -/
theorem binding_indices_incoherent : (∀ operations ∈ [sharedIpv4, failedAddition],
    ¬ Coherent (bindingMachine.run (.init 4, .start) operations).1
      (bindingMachine.run (.init 4, .start) operations).2) ∧
    ¬ SparesOthers (bindingMachine.run (.init 4, .start) outlived).1
      ((bindingMachine.run (.init 4, .start) outlived).1.operate
        (.setUeIpv4 (addressed 1 "10.45.0.2") (some "10.45.0.3")))
      (.setUeIpv4 (addressed 1 "10.45.0.2") (some "10.45.0.3")) := by
  refine ⟨?_, fun spares => ?_⟩
  · intro operations membership coherent
    rcases mem_cons.mp membership with rfl | later
    · have found := coherent.ipv4.finds 2 (addressed 2 "10.45.0.2") "10.45.0.2" 0x0A2D0002
        (by decide) (by decide) (by decide) (by decide)
        (by decide)
      exact absurd (congrArg isSome found) (by decide)
    · obtain rfl := mem_singleton.mp later
      have found := coherent.ipv4.finds 1 (addressed 1 "10.45.0.2") "10.45.0.2" 0x0A2D0002
        (by decide) (by decide) (by decide) (by decide)
        (by decide)
      exact absurd (congrArg isSome found) (by decide)
  · obtain ⟨found, again, -⟩ := spares.ipv4 "10.45.0.3" (addressed 2 "10.45.0.3")
      (by decide) (show ¬ 2 = 1 by decide)
    have isFound : isSome _ = true := congrArg isSome again
    exact absurd isFound (by decide)

end BsfContext

end NextGCore.Bsf
