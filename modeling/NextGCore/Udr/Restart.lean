import NextGCore.Udr.DataStore

/-!
# The data store across a restart

A store whose keys carry no separator in their first part is restored from its document as it
was.  What the state file holds at the end is the document of the store if no request renames an
outdated copy as the last one.
-/

namespace NextGCore.Udr

open Library Sbi List Option Function Nat Members TaskSystem

variable {mutation : Mutation} {process : Process} {task next : Task} {input : PoolInput Request}
  {index : ℕ}

def PlainKey (key : String × String) : Prop := unitSeparator ∉ key.1.toList

lemma splitKey_flattenKey {key : String × String} (plain : PlainKey key) :
  splitKey (flattenKey key) = some key := by
  have letters : (flattenKey key).toList = key.1.toList ++ unitSeparator :: key.2.toList := by
    simp [flattenKey]
  rw [splitKey, letters, splitOnce_of_notMem plain]
  simp

lemma flattenKey_injOn {first second : String × String} (plainFirst : PlainKey first)
  (plainSecond : PlainKey second) (same : flattenKey first = flattenKey second) :
  first = second := by
  have split := splitKey_flattenKey plainFirst
  rw [same, splitKey_flattenKey plainSecond] at split
  exact (Option.some.inj split).symm

lemma toString_injective : Injective (toString : ℕ → String) := by
  intro first second same
  have digits := congrArg (fun text => ofDigitChars 10 text.toList 0) same
  simpa using digits

structure UdrDataStore.Sound (store : UdrDataStore) : Prop where
  plainKeys : ∀ map, (Members.keys (store.plain map)).Nodup
  pairKeys : ∀ map, (Members.keys (store.pairs map)).Nodup
  authKeys : (Members.keys store.authStatus).Nodup
  subKeys : (Members.keys store.subs).Nodup
  pairsPlain : ∀ map, ∀ entry ∈ store.pairs map, PlainKey entry.1
  authPlain : ∀ entry ∈ store.authStatus, PlainKey entry.1
  authIssued : ∀ entry ∈ store.authStatus, entry.2.1 < store.nextAuthStatusSeq
  authDistinct : (store.authStatus.map fun entry => entry.2.1).Nodup
  subsKeyed : ∀ entry ∈ store.subs, entry.1 = entry.2.id
  subsIssued : ∀ entry ∈ store.subs, ∃ n < store.nextSubId, entry.1 = toString (n + 1)
  subIdSmall : store.nextSubId < 2 ^ 64
  authSeqSmall : store.nextAuthStatusSeq < 2 ^ 64

section Document

variable {Value : Type} {entries : List ((String × String) × Value)}

section

variable (distinct : (Members.keys entries).Nodup) (plain : ∀ entry ∈ entries, PlainKey entry.1)
  (write : Value → Json)

include distinct plain write

lemma nodup_flattened :
  (Members.keys (entries.map fun entry => (flattenKey entry.1, write entry.2))).Nodup := by
  have names : Members.keys (entries.map fun entry => (flattenKey entry.1, write entry.2)) =
      (Members.keys entries).map flattenKey := by
    simp [Members.keys]
  rw [names]
  refine Nodup.map_on ?_ distinct
  intro first isFirst second isSecond same
  obtain ⟨firstEntry, inFirst, rfl⟩ := List.mem_map.mp isFirst
  obtain ⟨secondEntry, inSecond, rfl⟩ := List.mem_map.mp isSecond
  exact flattenKey_injOn (plain _ inFirst) (plain _ inSecond) same

lemma filterMap_splitKey :
  ((collect (entries.map fun entry => (flattenKey entry.1, write entry.2))).filterMap
      fun member => (splitKey member.1).map fun key => (key, member.2)) =
    entries.map fun entry => (entry.1, write entry.2) := by
  rw [collect_of_nodup (nodup_flattened distinct plain write), filterMap_map]
  refine filterMap_eq_map_iff_forall_eq_some.mpr fun entry isEntry => ?_
  simp [splitKey_flattenKey (plain entry isEntry)]

end

end Document

namespace UdrDataStore

variable {store : UdrDataStore} {sub : StoredSub}

section

variable (sound : store.Sound)

include sound

lemma Sound.restore_plain (map : PlainMap) :
  (restoreFrom (snapshotDocument store) .empty).plain map = store.plain map := by
  cases map <;> exact collect_of_nodup (sound.plainKeys _)

lemma Sound.splitEntries_flattenPairs (map : PairMap) :
  ((store.flattenPairs map).members.filterMap fun member =>
    (splitKey member.1).map fun key => (key, member.2)) = store.pairs map := by
  have split := filterMap_splitKey (sound.pairKeys map) (sound.pairsPlain map) fun doc => doc
  exact split.trans (List.map_id _)

lemma Sound.restore_pairs (map : PairMap) :
  (restoreFrom (snapshotDocument store) .empty).pairs map = store.pairs map := by
  have entries : splitEntries (snapshotDocument store) map.member = store.pairs map := by
    cases map <;> exact sound.splitEntries_flattenPairs _
  exact (congrArg collect entries).trans (collect_of_nodup (sound.pairKeys map))

lemma Sound.authEntries_snapshotDocument :
  authEntries (snapshotDocument store) = store.authStatus := by
  have split := filterMap_splitKey sound.authKeys sound.authPlain
    fun value => Json.object [("seq", .ofNat value.1), ("event", value.2)]
  have entries : splitEntries (snapshotDocument store) "auth_status" =
      store.authStatus.map fun entry =>
        (entry.1, .object [("seq", .ofNat entry.2.1), ("event", entry.2.2)]) := split
  rw [authEntries, entries, List.map_map]
  refine (map_congr_left fun entry isEntry => ?_).trans (List.map_id _)
  have number := asU64_ofNat ((sound.authIssued entry isEntry).trans sound.authSeqSmall)
  have seq : (Json.object [("seq", .ofNat entry.2.1), ("event", entry.2.2)]).get "seq" =
      some (.ofNat entry.2.1) := rfl
  have event : (Json.object [("seq", .ofNat entry.2.1), ("event", entry.2.2)]).get "event" =
      some entry.2.2 := rfl
  have read : seqEvent (.object [("seq", .ofNat entry.2.1), ("event", entry.2.2)]) = entry.2 := by
    simp only [seqEvent, seq, event, bind_some, number]
  exact congrArg (Prod.mk entry.1) read

lemma Sound.restore_authStatus :
  (restoreFrom (snapshotDocument store) .empty).authStatus = store.authStatus :=
  (congrArg collect sound.authEntries_snapshotDocument).trans
    (collect_of_nodup sound.authKeys)

end

lemma readSub_subDocument (sub : StoredSub) : readSub (subDocument sub) = some (sub.id, sub) := by
  have id : (subDocument sub).getStr "id" = some sub.id := rfl
  have kind : (subDocument sub).getStr "kind" = some sub.kind.asTag := rfl
  have uri : (subDocument sub).getStr "notify_uri" = some sub.notifyUri := rfl
  have body : (subDocument sub).get "body" = some sub.body := rfl
  simp [readSub, id, kind, uri, body]

variable (sound : store.Sound)

include sound in
lemma Sound.restore_subs : (restoreFrom (snapshotDocument store) .empty).subs = store.subs := by
  have read : ((store.subs.map fun entry => subDocument entry.2).filterMap readSub) =
      store.subs := by
    rw [filterMap_map]
    refine (filterMap_eq_map_iff_forall_eq_some.mpr fun entry isEntry => ?_).trans
      (List.map_id _)
    rw [comp_apply, readSub_subDocument, ← sound.subsKeyed entry isEntry]
    rfl
  exact (congrArg collect read).trans (collect_of_nodup sound.subKeys)

include sound in
lemma Sound.restore_nextSubId :
  (restoreFrom (snapshotDocument store) .empty).nextSubId = store.nextSubId := by
  have number : (Json.ofNat store.nextSubId).asU64.getD empty.nextSubId = store.nextSubId := by
    rw [asU64_ofNat sound.subIdSmall, getD_some]
  exact number

include sound in
lemma Sound.le_restore_nextAuthStatusSeq : store.nextAuthStatusSeq ≤
    (restoreFrom (snapshotDocument store) .empty).nextAuthStatusSeq := by
  have number : store.nextAuthStatusSeq ≤
      max ((Json.ofNat store.nextAuthStatusSeq).asU64.getD (maxSeq (snapshotDocument store) + 1))
        (maxSeq (snapshotDocument store) + 1) := by
    rw [asU64_ofNat sound.authSeqSmall, getD_some]
    exact le_max_left _ _
  exact number

/-- The restored store has all that the store has, and counters that are no smaller. -/
structure Kept (store restored : UdrDataStore) : Prop where
  plain : ∀ map, restored.plain map = store.plain map
  pairs : ∀ map, restored.pairs map = store.pairs map
  authStatus : restored.authStatus = store.authStatus
  subs : restored.subs = store.subs
  nextSubId : store.nextSubId ≤ restored.nextSubId
  nextAuthStatusSeq : store.nextAuthStatusSeq ≤ restored.nextAuthStatusSeq

include sound in
lemma Sound.kept : Kept store (load (.json (snapshotDocument store))) where
  plain := sound.restore_plain
  pairs := sound.restore_pairs
  authStatus := sound.restore_authStatus
  subs := sound.restore_subs
  nextSubId := sound.restore_nextSubId.ge
  nextAuthStatusSeq := sound.le_restore_nextAuthStatusSeq

/-- The identifier of the subscription that is created after `count` others. -/
def subIdAfter (store : UdrDataStore) (count : ℕ) : String :=
  toString (fetchAdd^[count] store.nextSubId + 1)

/-- The number of the authentication event that is stored after `count` others. -/
def authSeqAfter (store : UdrDataStore) (count : ℕ) : ℕ :=
  fetchAdd^[count] store.nextAuthStatusSeq

lemma iterate_fetchAdd {start count : ℕ} (small : start + count < 2 ^ 64) :
  fetchAdd^[count] start = start + count := by
  induction count with
  | zero => rfl
  | succ count ih =>
    rw [iterate_succ_apply', ih (by omega), fetchAdd,
      mod_eq_of_lt (by omega)]
    rfl

/-- The same content and answers; what is handed out next is new, until a counter of 64 bits has
gone round. -/
structure Survives (store restored : UdrDataStore) : Prop where
  plain : ∀ map key, Members.get (restored.plain map) key = Members.get (store.plain map) key
  pairs : ∀ map key, Members.get (restored.pairs map) key = Members.get (store.pairs map) key
  authStatus : ∀ key, Members.get restored.authStatus key = Members.get store.authStatus key
  subs : ∀ id, Members.get restored.subs id = Members.get store.subs id
  latest : ∀ supi before after, before.Perm store.authStatus → after.Perm restored.authStatus →
    authStatusLatestForSupi after supi = authStatusLatestForSupi before supi
  subIds : ∀ count, restored.nextSubId + count < 2 ^ 64 →
    ∀ id, (Members.get restored.subs id).isSome → id ≠ subIdAfter restored count
  authSeqs : ∀ count, restored.nextAuthStatusSeq + count < 2 ^ 64 →
    ∀ key entry, Members.get restored.authStatus key = some entry →
      entry.1 ≠ authSeqAfter restored count

lemma argmax_perm {Value : Type} {weight : Value → ℕ} {first second : List Value}
  (same : first.Perm second) (distinct : (second.map weight).Nodup) :
  first.argmax weight = second.argmax weight := by
  cases isFirst : first.argmax weight with
  | none =>
    rw [argmax_eq_none] at isFirst
    subst isFirst
    rw [nil_perm.mp same, argmax_nil]
  | some best =>
    cases isSecond : second.argmax weight with
    | none =>
      rw [argmax_eq_none] at isSecond
      subst isSecond
      rw [perm_nil.mp same, argmax_nil] at isFirst
      cases isFirst
    | some other =>
      have inFirst : best ∈ second := same.mem_iff.mp (argmax_mem isFirst)
      have inSecond : other ∈ second := argmax_mem isSecond
      have below := le_of_mem_argmax inFirst isSecond
      have above := le_of_mem_argmax (same.mem_iff.mpr inSecond) isFirst
      rw [inj_on_of_nodup_map distinct inFirst inSecond (le_antisymm below above)]

lemma authStatusLatestForSupi_perm {before after : List ((String × String) × (ℕ × Json))}
  (same : after.Perm before) (distinct : (before.map fun entry => entry.2.1).Nodup)
  (supi : String) :
  authStatusLatestForSupi after supi = authStatusLatestForSupi before supi := by
  have reversed := ((after.filter fun entry => entry.1.1 = supi).reverse_perm.trans
    (same.filter _)).trans (before.filter fun entry => entry.1.1 = supi).reverse_perm.symm
  have numbers : (((before.filter fun entry => entry.1.1 = supi).reverse).map
      fun entry => entry.2.1).Nodup := by
    rw [map_reverse, nodup_reverse]
    exact distinct.sublist (filter_sublist.map _)
  unfold authStatusLatestForSupi
  rw [argmax_perm reversed numbers]

lemma Kept.survives {restored : UdrDataStore} (kept : Kept store restored)
  (sound : store.Sound) : Survives store restored := by
  constructor
  · intro map key
    rw [kept.plain map]
  · intro map key
    rw [kept.pairs map]
  · intro key
    rw [kept.authStatus]
  · intro id
    rw [kept.subs]
  · intro supi before after isBefore isAfter
    refine authStatusLatestForSupi_perm ?_ ?_ supi
    · rw [kept.authStatus] at isAfter
      exact isAfter.trans isBefore.symm
    · exact (isBefore.map _).nodup_iff.mpr sound.authDistinct
  · intro count small id there
    rw [kept.subs] at there
    obtain ⟨sub, found⟩ := isSome_iff_exists.mp there
    obtain ⟨n, issued, isId⟩ := sound.subsIssued _ (mem_of_get_eq_some found)
    have fewer := kept.nextSubId
    rw [subIdAfter, iterate_fetchAdd small]
    intro equal
    have numbers := toString_injective (isId.symm.trans equal)
    omega
  · intro count small key entry found
    rw [kept.authStatus] at found
    have issued : entry.1 < store.nextAuthStatusSeq :=
      sound.authIssued _ (mem_of_get_eq_some found)
    have fewer := kept.nextAuthStatusSeq
    rw [authSeqAfter, iterate_fetchAdd small]
    omega

include sound

lemma Sound.setPlain {map : PlainMap} {entries : List (String × Json)}
  (distinct : (Members.keys entries).Nodup) : (store.setPlain map entries).Sound := by
  refine { sound with plainKeys := fun other => ?_ }
  by_cases same : other = map
  · subst same
    exact (congrArg (fun entries => (Members.keys entries).Nodup)
      (update_self other entries store.plain)).mpr distinct
  · exact (congrArg (fun entries => (Members.keys entries).Nodup)
      (update_of_ne same entries store.plain)).mpr (sound.plainKeys other)

lemma Sound.setPairs {map : PairMap}
  {entries : List ((String × String) × Json)} (distinct : (Members.keys entries).Nodup)
  (plain : ∀ entry ∈ entries, PlainKey entry.1) : (store.setPairs map entries).Sound := by
  have each : ∀ other, (Members.keys ((store.setPairs map entries).pairs other)).Nodup ∧
      ∀ entry ∈ (store.setPairs map entries).pairs other, PlainKey entry.1 := by
    intro other
    unfold UdrDataStore.setPairs
    by_cases same : other = map
    · subst same
      simp only [update_self]
      exact ⟨distinct, plain⟩
    · simp only [update_of_ne same]
      exact ⟨sound.pairKeys other, sound.pairsPlain other⟩
  exact { sound with
    pairKeys := fun other => (each other).1
    pairsPlain := fun other => (each other).2 }

omit sound

def Issued (store : UdrDataStore) (id : String) : Prop :=
  ∃ n < store.nextSubId, id = toString (n + 1)

include sound

lemma Sound.insertSub (issued : store.Issued sub.id) : (store.setSub sub.id sub).Sound :=
  { sound with
    subKeys := nodup_keys_insert sound.subKeys _ _
    subsKeyed := fun entry isEntry => by
      rcases mem_or_eq_of_mem_insert isEntry with old | rfl
      · exact sound.subsKeyed entry old
      · rfl
    subsIssued := fun entry isEntry => by
      rcases mem_or_eq_of_mem_insert isEntry with old | rfl
      · exact sound.subsIssued entry old
      · exact issued }

lemma Sound.replaceSub {id : String} {changed : StoredSub}
  (found : Members.get store.subs id = some sub) (same : changed.id = sub.id) :
  (store.setSub id changed).Sound := by
  have isEntry := mem_of_get_eq_some found
  have isId : id = changed.id := (sound.subsKeyed _ isEntry).trans same.symm
  subst isId
  exact sound.insertSub (sound.subsIssued _ isEntry)

lemma Sound.subReplace (id : String) (kind : SubKind)
  (notifyUri : String) (body : Json) : (store.subReplace id kind notifyUri body).store.Sound := by
  unfold UdrDataStore.subReplace
  split
  · rename_i sub found
    split
    · exact sound.replaceSub found rfl
    · exact sound
  · exact sound

lemma Sound.subSetBody (id : String) (body : Json)
  (notifyUri : Option String) : (store.subSetBody id body notifyUri).store.Sound := by
  unfold UdrDataStore.subSetBody
  split
  · rename_i sub found
    exact sound.replaceSub found rfl
  · exact sound

omit sound

lemma subReplace_eq (id : String) (kind : SubKind) (notifyUri : String) (body : Json) :
  (store.subReplace id kind notifyUri body).store.nextSubId = store.nextSubId ∧
    ((store.subReplace id kind notifyUri body).persists = false →
      (store.subReplace id kind notifyUri body).store = store) := by
  unfold UdrDataStore.subReplace
  split
  · split
    · exact ⟨rfl, Bool.noConfusion⟩
    · exact ⟨rfl, fun _ => rfl⟩
  · exact ⟨rfl, fun _ => rfl⟩

lemma subSetBody_eq (id : String) (body : Json) (notifyUri : Option String) :
  (store.subSetBody id body notifyUri).store.nextSubId = store.nextSubId ∧
    ((store.subSetBody id body notifyUri).persists = false →
      (store.subSetBody id body notifyUri).store = store) := by
  unfold UdrDataStore.subSetBody
  split
  · exact ⟨rfl, Bool.noConfusion⟩
  · exact ⟨rfl, fun _ => rfl⟩

end UdrDataStore

/-- The first part of a new key has no separator, and the counter of authentication events has
room. -/
def Mutation.Orderly (store : UdrDataStore) : Mutation → Prop
  | .pairPut _ first _ _ => unitSeparator ∉ first.toList
  | .authStatusPut supi _ _ =>
    unitSeparator ∉ supi.toList ∧ store.nextAuthStatusSeq + 1 < 2 ^ 64
  | _ => True

variable {store : UdrDataStore}

lemma nextSubId_apply (mutation : Mutation) :
  (mutation.apply store).store.nextSubId = store.nextSubId := by
  cases mutation with
  | subReplace subId kind notifyUri body =>
    exact (UdrDataStore.subReplace_eq subId kind notifyUri body).1
  | subSetBody subId body notifyUri => exact (UdrDataStore.subSetBody_eq subId body notifyUri).1
  | _ => rfl

lemma filter_eq_self_of_length {Value : Type} {keep : Value → Bool} {values : List Value}
  (none : ¬ 0 < values.length - (values.filter keep).length) : values.filter keep = values := by
  refine filter_sublist.eq_of_length_le ?_
  omega

lemma store_apply_of_not_persists (idle : (mutation.apply store).persists = false) :
  (mutation.apply store).store = store := by
  cases mutation with
  | smfRegistrationsRemoveBySupi supi =>
    have same := filter_eq_self_of_length (of_decide_eq_false idle)
    exact (congrArg (store.setPairs .smfRegistrations) same).trans
      (congrArg (fun pairs => { store with pairs := pairs }) (update_eq_self _ _))
  | authStatusRemoveAllForSupi supi =>
    have same := filter_eq_self_of_length (of_decide_eq_false idle)
    exact congrArg (fun entries => { store with authStatus := entries }) same
  | subsRemoveByUe ueId =>
    have same := filter_eq_self_of_length (of_decide_eq_false idle)
    exact congrArg (fun entries => { store with subs := entries }) same
  | subReplace subId kind notifyUri body =>
    exact (UdrDataStore.subReplace_eq subId kind notifyUri body).2 idle
  | subSetBody subId body notifyUri =>
    exact (UdrDataStore.subSetBody_eq subId body notifyUri).2 idle
  | _ => cases idle

abbrev Pool := TaskPool Process Task

variable {pool : Pool}

def Orderly (process : Process) : Task → Prop
  | .update (.edit mutation) => mutation.Orderly process.store
  | .update (.subCreate _ _ _) => process.store.nextSubId + 1 < 2 ^ 64
  | _ => True

def Task.WillWrite : Task → Prop
  | .update (.edit mutation) => ∀ store, (mutation.apply store).persists = true
  | .rename _ => False
  | _ => True

/-- The file that is renamed is the document of the store, unless another request has still to
write the file. -/
def RenamesCurrent (pool : Pool) : PoolInput Request → Prop
  | .start _ => True
  | .advance index => ∀ answer, pool.tasks[index]? = some (.rename answer) →
      ∀ doc, pool.shared.temp = some doc → doc = snapshotDocument pool.shared.store ∨
        ∃ other ≠ index, ∃ task, pool.tasks[other]? = some task ∧ task.WillWrite

def Careful (pool : Pool) (input : PoolInput Request) : Prop :=
  OnAdvance Orderly pool input ∧ RenamesCurrent pool input

def TaskSound (process : Process) : Task → Prop
  | .insertSub sub => process.store.Issued sub.id
  | _ => True

lemma issued_of_le {first second : UdrDataStore} (grows : first.nextSubId ≤ second.nextSubId)
  {id : String} : first.Issued id → second.Issued id := by
  rintro ⟨n, issued, rfl⟩
  exact ⟨n, issued.trans_le grows, rfl⟩

lemma store_rename (process : Process) : process.rename.store = process.store := by
  unfold Process.rename
  split <;> rfl

lemma nextSubId_advance (orderly : Orderly process task) :
  process.store.nextSubId ≤ (advance process task).1.store.nextSubId := by
  cases task with
  | update request =>
    cases request with
    | edit mutation => exact (nextSubId_apply mutation).ge
    | subCreate kind notifyUri body =>
      exact (le_succ _).trans_eq (mod_eq_of_lt orderly).symm
  | insertSub sub => exact le_refl _
  | snapshot rest copy answer => cases rest <;> exact le_refl _
  | rename answer => exact (congrArg UdrDataStore.nextSubId (store_rename process)).ge

lemma taskSound_stable {other : Task} (orderly : Orderly process task)
  (sound : TaskSound process other) : TaskSound (advance process task).1 other := by
  cases other with
  | insertSub sub => exact issued_of_le (nextSubId_advance orderly) sound
  | _ => trivial

def Stores (pool : Pool) : Prop :=
  TaskSystem.Sound (fun process => process.store.Sound) TaskSound pool

def Covered (pool : Pool) : Prop :=
  UdrDataStore.Kept pool.shared.store (load pool.shared.file) ∨
    (∃ task ∈ pool.tasks, task.WillWrite) ∨
    (pool.shared.temp ≠ none ∧ ∃ task ∈ pool.tasks, ∃ answer, task = .rename answer)

lemma covered_of_waiting (found : pool.tasks[index]? = some task)
  (advanced : advance pool.shared task = (process, .waiting next)) (writes : next.WillWrite) :
  Covered (dataStore.machine.step pool (.advance index)).1 := by
  rw [step_waiting found advanced]
  obtain ⟨inside, -⟩ := List.getElem?_eq_some_iff.mp found
  exact .inr (.inl ⟨next, mem_set inside _, writes⟩)

lemma covered_edit (covered : Covered pool)
  (found : pool.tasks[index]? = some (.update (.edit mutation))) :
  Covered (dataStore.machine.step pool (.advance index)).1 := by
  cases persists : (mutation.apply pool.shared.store).persists with
  | true =>
    have advanced : advance pool.shared (.update (.edit mutation)) =
        ({ pool.shared with store := (mutation.apply pool.shared.store).store },
          .waiting (persist (mutation.apply pool.shared.store).answer)) := by
      simp [advance, Updated.next, persists]
    exact covered_of_waiting found advanced trivial
  | false =>
    have advanced : advance pool.shared (.update (.edit mutation)) =
        (pool.shared, .finished (mutation.apply pool.shared.store).answer) := by
      simp [advance, Updated.next, persists, store_apply_of_not_persists persists]
    rw [step_finished found advanced]
    rcases covered with kept | writes | ⟨temp, renames⟩
    · exact .inl kept
    · refine .inr (.inl (exists_mem_eraseIdx found ?_ writes))
      intro always
      rw [always] at persists
      cases persists
    · refine .inr (.inr ⟨temp, exists_mem_eraseIdx found ?_ renames⟩)
      rintro ⟨answer, isRename⟩
      cases isRename

lemma covered_rename {answer : Answer} (stores : Stores pool) (covered : Covered pool)
  (found : pool.tasks[index]? = some (.rename answer))
  (current : RenamesCurrent pool (.advance index)) :
  Covered (dataStore.machine.step pool (.advance index)).1 := by
  have notWrites : ¬ (Task.rename answer).WillWrite := id
  rw [step_finished found rfl]
  cases temp : pool.shared.temp with
  | none =>
    have same : pool.shared.rename = pool.shared := by
      simp [Process.rename, temp]
    rw [same]
    rcases covered with kept | writes | ⟨isTemp, -⟩
    · exact .inl kept
    · exact .inr (.inl (exists_mem_eraseIdx found notWrites writes))
    · exact absurd temp isTemp
  | some doc =>
    have renamed : pool.shared.rename = { pool.shared with temp := none, file := .json doc } := by
      simp [Process.rename, temp]
    rw [renamed]
    rcases current answer found doc temp with rfl | ⟨other, apart, task, there, writes⟩
    · exact .inl stores.shared.kept
    · exact .inr (.inl ⟨task, mem_eraseIdx_iff_getElem?.mpr ⟨other, apart, there⟩, writes⟩)

lemma covered_step (stores : Stores pool) (covered : Covered pool)
  (careful : Careful pool input) : Covered (dataStore.machine.step pool input).1 := by
  cases input with
  | start request =>
    have old {task : Task} (isTask : task ∈ pool.tasks) :
        task ∈ pool.tasks ++ [.update request] := mem_append_left _ isTask
    rcases covered with kept | ⟨task, isTask, writes⟩ | ⟨temp, task, isTask, renames⟩
    · exact .inl kept
    · exact .inr (.inl ⟨task, old isTask, writes⟩)
    · exact .inr (.inr ⟨temp, task, old isTask, renames⟩)
  | advance index =>
    cases found : pool.tasks[index]? with
    | none =>
      have same : (dataStore.machine.step pool (.advance index)).1 = pool := by
        simp [machine, found]
      rw [same]
      exact covered
    | some task =>
      cases task with
      | update request =>
        cases request with
        | edit mutation => exact covered_edit covered found
        | subCreate kind notifyUri body => exact covered_of_waiting found rfl trivial
      | insertSub sub => exact covered_of_waiting found rfl trivial
      | snapshot rest copy answer =>
        cases rest with
        | nil =>
          rw [step_waiting found rfl]
          obtain ⟨inside, -⟩ := List.getElem?_eq_some_iff.mp found
          exact .inr (.inr ⟨some_ne_none _, _, mem_set inside _, answer, rfl⟩)
        | cons field rest => exact covered_of_waiting found rfl trivial
      | rename answer => exact covered_rename stores covered found careful.2

def OneAtATime (pool : Pool) (input : PoolInput Request) : Prop :=
  match input with
  | .start _ => pool.tasks.isEmpty = true
  | .advance _ => True

instance decidableOrderly (process : Process) : (task : Task) → Decidable (Orderly process task)
  | .update (.edit (.pairPut _ first _ _)) =>
    inferInstanceAs (Decidable (unitSeparator ∉ first.toList))
  | .update (.edit (.authStatusPut supi _ _)) =>
    inferInstanceAs (Decidable (unitSeparator ∉ supi.toList ∧
      process.store.nextAuthStatusSeq + 1 < 2 ^ 64))
  | .update (.subCreate _ _ _) =>
    inferInstanceAs (Decidable (process.store.nextSubId + 1 < 2 ^ 64))
  | .update (.edit (.plainPut ..)) | .update (.edit (.plainRemove ..))
  | .update (.edit (.pairRemove ..)) | .update (.edit (.smfRegistrationsRemoveBySupi _))
  | .update (.edit (.authStatusRemove ..)) | .update (.edit (.authStatusRemoveAllForSupi _))
  | .update (.edit (.subReplace ..)) | .update (.edit (.subSetBody ..))
  | .update (.edit (.subRemove _)) | .update (.edit (.subsRemoveByUe _))
  | .insertSub _ | .snapshot .. | .rename _ => .isTrue trivial

instance decidableOneAtATime (pool : Pool) :
    (input : PoolInput Request) → Decidable (OneAtATime pool input)
  | .start _ => inferInstanceAs (Decidable (_ = true))
  | .advance _ => .isTrue trivial

/-- Two requests change the store before the first takes its copy; when the first has renamed
its file, the second has still to copy. -/
def firstRequest : List (PoolInput Request) :=
  [.start (.edit (.authStatusPut "imsi-1" "5G:mnc001.mcc001" .null)),
    .start (.edit (.amf3gppPut "imsi-2" .null)), .advance 0, .advance 1] ++
    replicate 15 (.advance 0)

def requests : List (PoolInput Request) :=
  firstRequest ++ replicate 15 (.advance 0)

end NextGCore.Udr
