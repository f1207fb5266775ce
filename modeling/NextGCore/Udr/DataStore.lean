import Mathlib.Data.List.MinMax
import NextGCore.Library.Tasks
import NextGCore.Sbi.Json

/-!
# The data store of the UDR

`data_store.rs`: the maps of the store, the operations that change them, and the state file.
Every operation that changes something then copies the store map by map, writes the copy to the
temporary file and renames that file; operations of several requests interleave in between.
-/

namespace NextGCore.Udr

open Library Sbi

inductive SubKind where
  | subscriptionData
  | exposureData
  | appInfluence
  | appData
  deriving DecidableEq

namespace SubKind

def asTag : SubKind → String
  | subscriptionData => "SubscriptionData"
  | exposureData => "ExposureData"
  | appInfluence => "AppInfluence"
  | appData => "AppData"

def fromTag (tag : String) : Option SubKind :=
  if tag = "SubscriptionData" then some subscriptionData
  else if tag = "ExposureData" then some exposureData
  else if tag = "AppInfluence" then some appInfluence
  else if tag = "AppData" then some appData
  else none

@[simp]
lemma fromTag_asTag (kind : SubKind) : fromTag kind.asTag = some kind := by
  cases kind <;> rfl

end SubKind

structure StoredSub where
  id : String
  kind : SubKind
  notifyUri : String
  body : Json

inductive PlainMap where
  | amf3gpp
  | exposureAm
  | pfds
  | influence
  | policyAm
  | policySm
  | policyUe
  deriving DecidableEq

inductive PairMap where
  | exposureSm
  | smfRegistrations
  deriving DecidableEq

def PlainMap.member : PlainMap → String
  | amf3gpp => "amf_3gpp"
  | exposureAm => "exposure_am"
  | pfds => "pfds"
  | influence => "influence"
  | policyAm => "policy_am"
  | policySm => "policy_sm"
  | policyUe => "policy_ue"

def PairMap.member : PairMap → String
  | exposureSm => "exposure_sm"
  | smfRegistrations => "smf_registrations"

structure UdrDataStore where
  plain : PlainMap → List (String × Json)
  pairs : PairMap → List ((String × String) × Json)
  /-- By SUPI and serving network: the number of the insertion, and the event. -/
  authStatus : List ((String × String) × (ℕ × Json))
  nextAuthStatusSeq : ℕ
  subs : List (String × StoredSub)
  nextSubId : ℕ

namespace UdrDataStore

def empty : UdrDataStore where
  plain _ := []
  pairs _ := []
  authStatus := []
  nextAuthStatusSeq := 0
  subs := []
  nextSubId := 0

/-- `auth_status_latest_for_supi`, for the order in which the map lists its entries; among equal
numbers `max_by_key` takes the last. -/
def authStatusLatestForSupi (entries : List ((String × String) × (ℕ × Json))) (supi : String) :
  Option Json :=
  ((entries.filter fun entry => entry.1.1 = supi).reverse.argmax fun entry => entry.2.1).map
    fun entry => entry.2.2

end UdrDataStore

def unitSeparator : Char := '\x1f'

def flattenKey (key : String × String) : String :=
  key.1 ++ String.singleton unitSeparator ++ key.2

def splitKey (text : String) : Option (String × String) :=
  (splitOnce [unitSeparator] text.toList).map fun parts =>
    (String.ofList parts.1, String.ofList parts.2)

namespace UdrDataStore

variable (store : UdrDataStore)

def flattenPairs (map : PairMap) : Json :=
  .object (Members.collect ((store.pairs map).map fun entry => (flattenKey entry.1, entry.2)))

def authStatusDocument : Json :=
  .object (Members.collect (store.authStatus.map fun entry =>
    (flattenKey entry.1, .object [("seq", .ofNat entry.2.1), ("event", entry.2.2)])))

end UdrDataStore

def subDocument (sub : StoredSub) : Json :=
  .object [("id", .string sub.id), ("kind", .string sub.kind.asTag),
      ("notify_uri", .string sub.notifyUri), ("body", sub.body)]

def snapshotDocument (copy : UdrDataStore) : Json :=
  .object [("version", .ofNat 1), ("next_sub_id", .ofNat copy.nextSubId),
      ("amf_3gpp", .object (copy.plain .amf3gpp)),
      ("exposure_am", .object (copy.plain .exposureAm)),
      ("exposure_sm", copy.flattenPairs .exposureSm),
      ("pfds", .object (copy.plain .pfds)),
      ("influence", .object (copy.plain .influence)),
      ("smf_registrations", copy.flattenPairs .smfRegistrations),
      ("policy_am", .object (copy.plain .policyAm)),
      ("policy_sm", .object (copy.plain .policySm)),
      ("policy_ue", .object (copy.plain .policyUe)),
      ("auth_status", copy.authStatusDocument),
      ("next_auth_status_seq", .ofNat copy.nextAuthStatusSeq),
      ("subs", .array (copy.subs.map fun entry => subDocument entry.2))]

section Restore

variable (doc : Json) (name : String)

def memberObject : List (String × Json) :=
  ((doc.get name).map Json.members).getD []

def objMap : List (String × Json) :=
  Members.collect (memberObject doc name)

def splitEntries : List ((String × String) × Json) :=
  (memberObject doc name).filterMap fun member =>
    (splitKey member.1).map fun key => (key, member.2)

def seqEvent (value : Json) : ℕ × Json :=
  match (value.get "seq").bind Json.asU64, value.get "event" with
  | some seq, some event => (seq, event)
  | _, _ => (0, value)

def authEntries : List ((String × String) × (ℕ × Json)) :=
  (splitEntries doc "auth_status").map fun entry => (entry.1, seqEvent entry.2)

def maxSeq : ℕ :=
  (authEntries doc).foldl (fun largest entry => max largest entry.2.1) 0

def readSub (value : Json) : Option (String × StoredSub) := do
  let id ← value.getStr "id"
  let kind ← (value.getStr "kind").bind SubKind.fromTag
  let uri ← value.getStr "notify_uri"
  return (id, ⟨id, kind, uri, (value.get "body").getD .null⟩)

def memberArray : List Json :=
  match doc.get name with
  | some (.array items) => items
  | _ => []

def restoreFrom (store : UdrDataStore) : UdrDataStore where
  plain map := objMap doc map.member
  pairs map := Members.collect (splitEntries doc map.member)
  authStatus := Members.collect (authEntries doc)
  nextAuthStatusSeq :=
    max (((doc.get "next_auth_status_seq").bind Json.asU64).getD (maxSeq doc + 1)) (maxSeq doc + 1)
  subs := Members.collect ((memberArray doc "subs").filterMap readSub)
  nextSubId := ((doc.get "next_sub_id").bind Json.asU64).getD store.nextSubId

end Restore

def load : Content → UdrDataStore
  | .json doc => restoreFrom doc .empty
  | _ => .empty

inductive Answer where
  | created (isNew : Bool)
  | removed (doc : Option Json)
  | removedSub (sub : Option StoredSub)
  | removedMany (count : ℕ)
  | changed (done : Bool)
  | sub (sub : StoredSub)

inductive Mutation where
  | plainPut (map : PlainMap) (key : String) (doc : Json)
  | plainRemove (map : PlainMap) (key : String)
  | pairPut (map : PairMap) (first second : String) (doc : Json)
  | pairRemove (map : PairMap) (first second : String)
  | smfRegistrationsRemoveBySupi (supi : String)
  | authStatusPut (supi servingNetworkName : String) (doc : Json)
  | authStatusRemove (supi servingNetworkName : String)
  | authStatusRemoveAllForSupi (supi : String)
  | subReplace (subId : String) (kind : SubKind) (notifyUri : String) (body : Json)
  | subSetBody (subId : String) (body : Json) (notifyUri : Option String)
  | subRemove (subId : String)
  | subsRemoveByUe (ueId : String)

namespace Mutation

variable (supi : String) (ueId : String)

def amf3gppPut (doc : Json) : Mutation := .plainPut .amf3gpp supi doc

def amf3gppRemove : Mutation := .plainRemove .amf3gpp supi

def exposureAmRemove : Mutation := .plainRemove .exposureAm ueId

def exposureSmRemove (psi : String) : Mutation := .pairRemove .exposureSm ueId psi

def pfdPut (appId : String) (doc : Json) : Mutation := .plainPut .pfds appId doc

def pfdRemove (appId : String) : Mutation := .plainRemove .pfds appId

def influencePut (influenceId : String) (doc : Json) : Mutation :=
  .plainPut .influence influenceId doc

def influenceRemove (influenceId : String) : Mutation := .plainRemove .influence influenceId

def smfRegistrationPut (psi : String) (doc : Json) : Mutation :=
  .pairPut .smfRegistrations supi psi doc

def smfRegistrationRemove (psi : String) : Mutation :=
  .pairRemove .smfRegistrations supi psi

def policyAmPut (doc : Json) : Mutation := .plainPut .policyAm supi doc

def policySmPut (doc : Json) : Mutation := .plainPut .policySm supi doc

def policyUePut (doc : Json) : Mutation := .plainPut .policyUe supi doc

end Mutation

/-- The store after an update under the lock, and whether the request goes on to `persist`. -/
structure Updated where
  store : UdrDataStore
  persists : Bool
  answer : Answer

namespace UdrDataStore

variable (store : UdrDataStore)

def setPlain (map : PlainMap) (entries : List (String × Json)) : UdrDataStore :=
  { store with plain := Function.update store.plain map entries }

def setPairs (map : PairMap) (entries : List ((String × String) × Json)) : UdrDataStore :=
  { store with pairs := Function.update store.pairs map entries }

def setSub (id : String) (sub : StoredSub) : UdrDataStore :=
  { store with subs := Members.insert store.subs id sub }

def subReplace (subId : String) (kind : SubKind) (notifyUri : String) (body : Json) : Updated :=
  match Members.get store.subs subId with
  | some sub =>
    if sub.kind = kind then
      ⟨store.setSub subId { sub with notifyUri := notifyUri, body := body }, true, .changed true⟩
    else ⟨store, false, .changed false⟩
  | none => ⟨store, false, .changed false⟩

def subSetBody (subId : String) (body : Json) (notifyUri : Option String) : Updated :=
  match Members.get store.subs subId with
  | some sub =>
    ⟨store.setSub subId { sub with notifyUri := notifyUri.getD sub.notifyUri, body := body },
      true, .changed true⟩
  | none => ⟨store, false, .changed false⟩

end UdrDataStore

def fetchAdd (counter : ℕ) : ℕ := (counter + 1) % 2 ^ 64

open Members in
def Mutation.apply (store : UdrDataStore) : Mutation → Updated
  | .plainPut map key doc =>
    ⟨store.setPlain map (insert (store.plain map) key doc), true,
      .created (get (store.plain map) key).isNone⟩
  | .plainRemove map key =>
    ⟨store.setPlain map (remove (store.plain map) key), true, .removed (get (store.plain map) key)⟩
  | .pairPut map first second doc =>
    ⟨store.setPairs map (insert (store.pairs map) (first, second) doc), true,
      .created (get (store.pairs map) (first, second)).isNone⟩
  | .pairRemove map first second =>
    ⟨store.setPairs map (remove (store.pairs map) (first, second)), true,
      .removed (get (store.pairs map) (first, second))⟩
  | .smfRegistrationsRemoveBySupi supi =>
    let kept := (store.pairs .smfRegistrations).filter fun entry => entry.1.1 ≠ supi
    let removed := (store.pairs .smfRegistrations).length - kept.length
    ⟨store.setPairs .smfRegistrations kept, 0 < removed, .removedMany removed⟩
  | .authStatusPut supi network doc =>
    ⟨{ store with
        authStatus :=
          insert store.authStatus (supi, network) (store.nextAuthStatusSeq, doc)
        nextAuthStatusSeq := fetchAdd store.nextAuthStatusSeq },
      true, .created (get store.authStatus (supi, network)).isNone⟩
  | .authStatusRemove supi network =>
    ⟨{ store with authStatus := remove store.authStatus (supi, network) }, true,
      .removed ((get store.authStatus (supi, network)).map Prod.snd)⟩
  | .authStatusRemoveAllForSupi supi =>
    let kept := store.authStatus.filter fun entry => entry.1.1 ≠ supi
    let removed := store.authStatus.length - kept.length
    ⟨{ store with authStatus := kept }, 0 < removed, .removedMany removed⟩
  | .subReplace subId kind notifyUri body => store.subReplace subId kind notifyUri body
  | .subSetBody subId body notifyUri => store.subSetBody subId body notifyUri
  | .subRemove subId =>
    ⟨{ store with subs := remove store.subs subId }, true, .removedSub (get store.subs subId)⟩
  | .subsRemoveByUe ueId =>
    let kept := store.subs.filter fun entry =>
      ¬ (entry.2.kind = .subscriptionData ∧ entry.2.body.getStr "ueId" = some ueId)
    let removed := store.subs.length - kept.length
    ⟨{ store with subs := kept }, 0 < removed, .removedMany removed⟩

inductive Request where
  | edit (mutation : Mutation)
  | subCreate (kind : SubKind) (notifyUri : String) (body : Json)

inductive Field where
  | plain (map : PlainMap)
  | pairs (map : PairMap)
  | authStatus
  | subs
  | nextSubId
  | nextAuthStatusSeq

def Field.order : List Field :=
  [.plain .amf3gpp, .plain .exposureAm, .pairs .exposureSm, .authStatus, .plain .pfds,
    .plain .influence, .pairs .smfRegistrations, .plain .policyAm, .plain .policySm,
    .plain .policyUe, .subs, .nextSubId, .nextAuthStatusSeq]

def UdrDataStore.copyField (store copy : UdrDataStore) : Field → UdrDataStore
  | .plain map => copy.setPlain map (store.plain map)
  | .pairs map => copy.setPairs map (store.pairs map)
  | .authStatus => { copy with authStatus := store.authStatus }
  | .subs => { copy with subs := store.subs }
  | .nextSubId => { copy with nextSubId := store.nextSubId }
  | .nextAuthStatusSeq => { copy with nextAuthStatusSeq := store.nextAuthStatusSeq }

inductive Task where
  | update (request : Request)
  | insertSub (sub : StoredSub)
  | snapshot (rest : List Field) (copy : UdrDataStore) (answer : Answer)
  | rename (answer : Answer)

def persist (answer : Answer) : Task := .snapshot Field.order .empty answer

structure Process where
  store : UdrDataStore
  temp : Option Json
  file : Content

/-- When another request has renamed the file already, the failure is only logged. -/
def Process.rename (process : Process) : Process :=
  match process.temp with
  | some doc => { process with temp := none, file := .json doc }
  | none => process

def Updated.next (updated : Updated) : Progress Task Answer :=
  if updated.persists then .waiting (persist updated.answer) else .finished updated.answer

def advance (process : Process) : Task → Process × Progress Task Answer
  | .update (.edit mutation) =>
    let updated := mutation.apply process.store
    ({ process with store := updated.store }, updated.next)
  | .update (.subCreate kind notifyUri body) =>
    let store := process.store
    ({ process with store := { store with nextSubId := fetchAdd store.nextSubId } },
      .waiting (.insertSub ⟨toString (store.nextSubId + 1), kind, notifyUri, body⟩))
  | .insertSub sub =>
    ({ process with store := process.store.setSub sub.id sub }, .waiting (persist (.sub sub)))
  | .snapshot (field :: rest) copy answer =>
    (process, .waiting (.snapshot rest (process.store.copyField copy field) answer))
  | .snapshot [] copy answer =>
    ({ process with temp := some (snapshotDocument copy) }, .waiting (.rename answer))
  | .rename answer => (process.rename, .finished answer)

def dataStore : TaskSystem Process Request Task Answer where
  start request := .waiting (.update request)
  advance := advance

end NextGCore.Udr
