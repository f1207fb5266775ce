import NextGCore.Library.Machine
import NextGCore.Library.RoutedIndex
import NextGCore.Upf.Context

/-!
# Coherence of the UPF's indices

Beside the context an observer notes which session each framed route was given to last.  A
session that is removed takes the entries under its keys and its recorded routes with it, whoever
they lead to, and leaves what is not recorded; the other operations never take an entry out.
-/

namespace NextGCore.Upf

open Library List Option Function RoutedIndex PrefixTrie IpWords AList RouteTrie

structure AddressFamily (Address Key : Type) where
  key : Address → Key
  bits : Address → List Bool
  keyBits : Key → List Bool
  keyBits_prefix : ∀ addr, keyBits (key addr) <+: bits addr
  ueKey : UpfSess → Option Key
  recorded : UpfSess → List (List Bool)
  hash : UpfContext → AList fun _ : Key => UInt64
  trie : UpfContext → RouteTrie

def routePath (subnet : IpSubnet) (isIpv6 : Bool) : List Bool :=
  RouteTrie.path subnet.sub (subnet.prefixLen isIpv6) isIpv6

def recordedPaths (routes : Option (List IpSubnet)) (isIpv6 : Bool) : List (List Bool) :=
  (routes.getD []).map fun subnet => routePath subnet isIpv6

namespace AddressFamily

def ipv4 : AddressFamily UInt32 UInt32 where
  key := id
  bits addr := RouteTrie.path ⟨addr, 0, 0, 0⟩ 32 false
  keyBits addr := RouteTrie.path ⟨addr, 0, 0, 0⟩ 32 false
  keyBits_prefix _ := prefix_rfl
  ueKey sess := sess.ipv4.map first
  recorded sess := recordedPaths sess.ipv4FramedRoutes false
  hash := UpfContext.ipv4Hash
  trie := UpfContext.ipv4FramedRoutes

lemma network_prefix (addr : IpWords) :
  wordBits addr.first ++ wordBits addr.second <+: path addr 128 true := by
  have all : path addr 128 true = addr.bits := by
    apply take_of_length_le
    simp [IpWords.bits, length_wordBits, totalBits]
  rw [all, IpWords.bits, append_assoc]
  exact prefix_append _ _

def ipv6 : AddressFamily IpWords (UInt32 × UInt32) where
  key := network
  bits addr := RouteTrie.path addr 128 true
  keyBits key := wordBits key.1 ++ wordBits key.2
  keyBits_prefix := network_prefix
  ueKey sess := sess.ipv6.map network
  recorded sess := recordedPaths sess.ipv6FramedRoutes true
  hash := UpfContext.ipv6Hash
  trie := UpfContext.ipv6FramedRoutes

variable {Address Key : Type} [DecidableEq Key] (family : AddressFamily Address Key)

def index (context : UpfContext) : RoutedIndex UInt64 UpfSess Key Bool where
  records := context.sessFindById
  hash := (family.hash context).lookup
  routes := (family.trie context).lookup

def find (context : UpfContext) (addr : Address) : Option UpfSess :=
  (family.index context).find (family.key addr) (family.bits addr)

end AddressFamily

open AddressFamily

lemma sessFindByIpv4_eq (context : UpfContext) : context.sessFindByIpv4 = ipv4.find context := by
  funext addr
  rw [UpfContext.sessFindByIpv4, RouteTrie.find, find_eq]
  rfl

lemma sessFindByIpv6_eq (context : UpfContext) : context.sessFindByIpv6 = ipv6.find context := by
  funext addr
  rw [UpfContext.sessFindByIpv6, RouteTrie.find, find_eq]
  rfl

structure RouteHistory where
  ipv4 : List Bool → Option UInt64
  ipv6 : List Bool → Option UInt64

namespace RouteHistory

def start : RouteHistory := ⟨fun _ => none, fun _ => none⟩

def without (given : List Bool → Option UInt64) (id : UInt64) (path : List Bool) :
  Option UInt64 :=
  if given path = some id then none else given path

def note (history : RouteHistory) (context : UpfContext) : ContextOp → RouteHistory
  | .sessAddFramedRoute sessId subnet isIpv6 =>
    if context.sessFindById sessId = none then history
    else if isIpv6 then
      { history with
        ipv6 := update history.ipv6 (routePath subnet true) (some sessId) }
    else
      { history with
        ipv4 := update history.ipv4 (routePath subnet false) (some sessId) }
  | .sessRemove id =>
    if context.sessFindById id = none then history
    else ⟨without history.ipv4 id, without history.ipv6 id⟩
  | .sessAdd _ => history
  | .sessSetUeIp _ _ _ => history
  | .sessUpdate _ => history

end RouteHistory

/-- A session is found by the address of its UE, and by the addresses whose longest route was given
to it last, unless they are the addresses of UEs. -/
structure AddressFamily.Finds {Address Key : Type} (family : AddressFamily Address Key)
  (context : UpfContext) (given : List Bool → Option UInt64)
  (find : Address → Option UpfSess) : Prop where
  ueIp : ∀ id sess addr, context.sessFindById id = some sess →
    family.ueKey sess = some (family.key addr) → find addr = some sess
  framedRoute : ∀ id sess addr path, context.sessFindById id = some sess →
    LongestWith given (family.bits addr) path → given path = some id →
    (∀ other found, context.sessFindById other = some found →
      family.ueKey found ≠ some (family.key addr)) →
    find addr = some sess

/-- Each session is found under its SEIDs, and by its addresses as the history says. -/
structure UpfContext.Coherent (context : UpfContext) (history : RouteHistory) : Prop where
  upfN4Seid : ∀ id sess, context.sessFindById id = some sess →
    context.sessFindByUpfN4Seid sess.upfN4Seid = some sess
  smfN4FSeid : ∀ id sess, context.sessFindById id = some sess →
    context.sessFindBySmfN4FSeid sess.smfN4FSeid = some sess
  ipv4 : AddressFamily.ipv4.Finds context history.ipv4 context.sessFindByIpv4
  ipv6 : AddressFamily.ipv6.Finds context history.ipv6 context.sessFindByIpv6

/-- A lookup that does not return the session any more, and returns any other that it did. -/
def ForgetsOnly {Key : Type} (id : UInt64) (find next : Key → Option UpfSess) : Prop :=
  ∀ key sess, (next key = some sess → sess.id ≠ id) ∧
    (find key = some sess → sess.id ≠ id → next key = some sess)

lemma ForgetsOnly.refl {Key : Type} {id : UInt64} {find : Key → Option UpfSess}
  (absent : ∀ key sess, find key = some sess → sess.id ≠ id) : ForgetsOnly id find find :=
  fun key sess => ⟨absent key sess, fun isFound _ => isFound⟩

structure UpfContext.Forgets (context next : UpfContext) (id : UInt64) : Prop where
  byId : ForgetsOnly id context.sessFindById next.sessFindById
  bySmfN4Seid : ForgetsOnly id context.sessFindBySmfN4Seid next.sessFindBySmfN4Seid
  bySmfN4FSeid : ForgetsOnly id context.sessFindBySmfN4FSeid next.sessFindBySmfN4FSeid
  byUpfN4Seid : ForgetsOnly id context.sessFindByUpfN4Seid next.sessFindByUpfN4Seid
  byIpv4 : ForgetsOnly id context.sessFindByIpv4 next.sessFindByIpv4
  byIpv6 : ForgetsOnly id context.sessFindByIpv6 next.sessFindByIpv6

def upfContext : Machine (UpfContext × RouteHistory) ContextOp Unit :=
  Machine.observed ⟨fun context op => (op.apply context, ())⟩
    fun history context op _ => history.note context op

structure KeepsIndices (state : UpfContext × RouteHistory) (op : ContextOp) : Prop where
  coherent : (op.apply state.1).Coherent (state.2.note state.1 op)
  forgets : ∀ id, op = .sessRemove id → state.1.Forgets (op.apply state.1) id

namespace AddressFamily

variable {Address Key : Type} [DecidableEq Key] (family : AddressFamily Address Key)
  (context : UpfContext)

def Unnamed (id : UInt64) : Prop :=
  ∀ entry ∈ (family.hash context).entries, entry.2 ≠ id

/-- An address that is given is no other session's, and the one that it replaces lies on no
route. -/
def GivesOwn (id : UInt64) (sess : UpfSess) (given : Option Key) : Prop :=
  ∀ key ∈ given,
    (∀ entry ∈ context.sessList.entries, family.ueKey entry.2 = some key → entry.1 = id) ∧
      ∀ old ∈ family.ueKey sess, old = key ∨
        ∀ route ∈ (family.trie context).entries, ¬ Overlap route.1 (family.keyBits old)

def RoutesOwn (path : List Bool) : Prop :=
  ∀ entry ∈ (family.hash context).entries, Overlap path (family.keyBits entry.1) →
    ∀ sess ∈ context.sessFindById entry.2, family.ueKey sess = some entry.1

/-- The routes that lead to the session are the ones that it has recorded, and they lead to no
other. -/
def RecordsOwn (id : UInt64) (sess : UpfSess) : Prop :=
  (∀ path ∈ family.recorded sess, ∀ owner ∈ (family.trie context).lookup path, owner = id) ∧
    ∀ route ∈ (family.trie context).entries, route.2 = id → route.1 ∈ family.recorded sess

end AddressFamily

structure SameKeys (old new : UpfSess) : Prop where
  upfN4Seid : new.upfN4Seid = old.upfN4Seid
  smfN4FSeid : new.smfN4FSeid = old.smfN4FSeid
  ipv4 : ipv4.ueKey new = ipv4.ueKey old
  ipv6 : ipv6.ueKey new = ipv6.ueKey old

namespace UpfContext

/-- The counters have not come round to what is still in use, and no session has the F-SEID. -/
def AddsNew (context : UpfContext) (fSeid : FSeid) : Prop :=
  (∀ entry ∈ context.sessList.entries, entry.1 ≠ context.nextSessId ∧
      entry.2.upfN4Seid ≠ context.n4SeidGenerator ∧ entry.2.smfN4FSeid ≠ fSeid) ∧
    ipv4.Unnamed context context.nextSessId ∧ ipv6.Unnamed context context.nextSessId

def Keeps (context : UpfContext) : ContextOp → Prop
  | .sessAdd fSeid => context.full = false → context.AddsNew fSeid
  | .sessSetUeIp sessId addr4 addr6 => ∀ sess ∈ context.sessFindById sessId,
      ipv4.GivesOwn context sessId sess addr4 ∧
        ipv6.GivesOwn context sessId sess (addr6.map network)
  | .sessAddFramedRoute sessId subnet isIpv6 => context.sessFindById sessId ≠ none →
      if isIpv6 then ipv6.RoutesOwn context (routePath subnet true)
      else ipv4.RoutesOwn context (routePath subnet false)
  | .sessUpdate sess => ∀ old ∈ context.sessFindById sess.id, SameKeys old sess
  | .sessRemove id => ∀ sess ∈ context.sessFindById id,
      (∀ other ∈ context.sessFindBySmfN4Seid sess.smfN4FSeid.seid, other.id = id) ∧
        ipv4.RecordsOwn context id sess ∧ ipv6.RecordsOwn context id sess

end UpfContext

section Decidable

variable {Address Key : Type} [DecidableEq Key] (family : AddressFamily Address Key)

instance (context : UpfContext) (id : UInt64) : Decidable (family.Unnamed context id) :=
  decidableBAll _ _

instance (context : UpfContext) (id : UInt64) (sess : UpfSess) (given : Option Key) :
  Decidable (family.GivesOwn context id sess given) :=
  have (key : Key) : Decidable (∀ entry ∈ context.sessList.entries,
      family.ueKey entry.2 = some key → entry.1 = id) := decidableBAll _ _
  have (old : Key) : Decidable (∀ route ∈ (family.trie context).entries,
      ¬ Overlap route.1 (family.keyBits old)) := decidableBAll _ _
  have (key : Key) : Decidable (∀ old ∈ family.ueKey sess, old = key ∨
      ∀ route ∈ (family.trie context).entries, ¬ Overlap route.1 (family.keyBits old)) :=
    decidableForallMem _
  decidableForallMem _

instance (context : UpfContext) (path : List Bool) : Decidable (family.RoutesOwn context path) :=
  have (entry : Sigma fun _ : Key => UInt64) : Decidable (∀ sess ∈ context.sessFindById entry.2,
      family.ueKey sess = some entry.1) := decidableForallMem _
  decidableBAll _ _

instance (context : UpfContext) (id : UInt64) (sess : UpfSess) :
  Decidable (family.RecordsOwn context id sess) :=
  have (path : List Bool) : Decidable (∀ owner ∈ (family.trie context).lookup path, owner = id) :=
    decidableForallMem _
  have : Decidable (∀ path ∈ family.recorded sess,
      ∀ owner ∈ (family.trie context).lookup path, owner = id) := decidableBAll _ _
  have : Decidable (∀ route ∈ (family.trie context).entries,
      route.2 = id → route.1 ∈ family.recorded sess) := decidableBAll _ _
  inferInstanceAs (Decidable (_ ∧ _))

instance (old new : UpfSess) : Decidable (SameKeys old new) :=
  decidable_of_iff (new.upfN4Seid = old.upfN4Seid ∧ new.smfN4FSeid = old.smfN4FSeid ∧
      ipv4.ueKey new = ipv4.ueKey old ∧ ipv6.ueKey new = ipv6.ueKey old)
    ⟨fun same => ⟨same.1, same.2.1, same.2.2.1, same.2.2.2⟩,
      fun same => ⟨same.upfN4Seid, same.smfN4FSeid, same.ipv4, same.ipv6⟩⟩

instance (context : UpfContext) (fSeid : FSeid) : Decidable (context.AddsNew fSeid) :=
  have : Decidable (∀ entry ∈ context.sessList.entries, entry.1 ≠ context.nextSessId ∧
      entry.2.upfN4Seid ≠ context.n4SeidGenerator ∧ entry.2.smfN4FSeid ≠ fSeid) :=
    decidableBAll _ _
  inferInstanceAs (Decidable (_ ∧ _))

instance (context : UpfContext) (op : ContextOp) : Decidable (context.Keeps op) :=
  match op with
  | .sessAdd fSeid => inferInstanceAs (Decidable (_ → context.AddsNew fSeid))
  | .sessSetUeIp _ _ _ => decidableForallMem _
  | .sessAddFramedRoute _ subnet true =>
    inferInstanceAs (Decidable (_ → ipv6.RoutesOwn context (routePath subnet true)))
  | .sessAddFramedRoute _ subnet false =>
    inferInstanceAs (Decidable (_ → ipv4.RoutesOwn context (routePath subnet false)))
  | .sessUpdate _ => decidableForallMem _
  | .sessRemove _ =>
    have (id : UInt64) (sess : UpfSess) :
        Decidable (∀ other ∈ context.sessFindBySmfN4Seid sess.smfN4FSeid.seid, other.id = id) :=
      decidableForallMem _
    decidableForallMem _

end Decidable

namespace AddressFamily

variable {Address Key : Type} [DecidableEq Key] {family : AddressFamily Address Key}
  {context next : UpfContext} {given : List Bool → Option UInt64} {id : UInt64} {sess : UpfSess}
  {old : UpfSess}

structure Tracks (family : AddressFamily Address Key) (context : UpfContext)
  (given : List Bool → Option UInt64) : Prop where
  coherent : (family.index context).Coherent family.ueKey family.keyBits
  given : given = (family.trie context).lookup

lemma Tracks.finds (tracks : family.Tracks context given) :
  family.Finds context given (family.find context) where
  ueIp _ _ addr stored bears := find_of_key tracks.coherent stored bears _
  framedRoute _ _ addr path stored longest routed free := by
    rw [tracks.given] at longest routed
    exact find_of_route tracks.coherent (family.keyBits_prefix addr) longest routed
      stored free

lemma sessFindById_insert (list : next.sessList = context.sessList.insert id sess) :
  next.sessFindById = update context.sessFindById id (some sess) := by
  unfold UpfContext.sessFindById
  rw [list]
  exact lookup_insert_update _ _ _

lemma sessFindById_erase (list : next.sessList = context.sessList.erase id) :
  next.sessFindById = update context.sessFindById id none := by
  unfold UpfContext.sessFindById
  rw [list]
  exact lookup_erase_update _ _

lemma index_insert (list : next.sessList = context.sessList.insert id sess)
  (sameHash : family.hash next = family.hash context)
  (sameTrie : family.trie next = family.trie context) :
  family.index next = { family.index context with
    records := update (family.index context).records id (some sess) } := by
  simp only [index, sessFindById_insert list, sameHash, sameTrie]

section

variable (tracks : family.Tracks context given)

include tracks

lemma Tracks.add (unnamed : family.Unnamed context id) (keyless : family.ueKey sess = none)
  (list : next.sessList = context.sessList.insert id sess)
  (sameHash : family.hash next = family.hash context)
  (sameTrie : family.trie next = family.trie context) : family.Tracks next given := by
  refine ⟨?_, sameTrie ▸ tracks.given⟩
  rw [index_insert list sameHash sameTrie]
  refine tracks.coherent.add (fun key entry => ?_) keyless
  exact unnamed ⟨key, id⟩ (mem_lookup_iff.mp entry) rfl

lemma Tracks.replace (stored : context.sessFindById id = some old)
  (list : next.sessList = context.sessList.insert id sess)
  (sameKey : family.ueKey sess = family.ueKey old)
  (sameHash : family.hash next = family.hash context)
  (sameTrie : family.trie next = family.trie context) : family.Tracks next given := by
  refine ⟨?_, sameTrie ▸ tracks.given⟩
  rw [index_insert list sameHash sameTrie]
  exact tracks.coherent.replace stored sameKey

lemma Tracks.give {key : Option Key} (stored : context.sessFindById id = some old)
  (list : next.sessList = context.sessList.insert id sess)
  (gives : family.GivesOwn context id old key)
  (keys : family.ueKey sess = key.or (family.ueKey old))
  (hash : family.hash next = insertKey (family.hash context) key id)
  (sameTrie : family.trie next = family.trie context) : family.Tracks next given := by
  cases key with
  | none => exact tracks.replace stored list keys hash sameTrie
  | some key =>
    refine ⟨?_, sameTrie ▸ tracks.given⟩
    obtain ⟨own, off⟩ := gives key rfl
    have after : family.index next = { family.index context with
        records := update (family.index context).records id (some sess)
        hash := update (family.index context).hash key (some id) } := by
      have lookups : (family.hash next).lookup =
          update (family.hash context).lookup key (some id) := by
        rw [hash]
        exact lookup_insert_update _ _ _
      simp only [index, sessFindById_insert list, lookups, sameTrie]
    rw [after]
    refine tracks.coherent.rekey stored keys ?_ ?_
    · intro other found isFound bears
      exact own ⟨other, found⟩ (mem_lookup_iff.mp isFound) bears
    · intro oldKey had differs path present
      obtain ⟨owner, routed⟩ := ne_none_iff_exists'.mp present
      rcases off oldKey had with same | away
      · exact absurd same differs
      · exact away ⟨path, owner⟩ (mem_entries.mpr routed)

lemma Tracks.route {path : List Bool} (stored : context.sessFindById id = some old)
  (list : next.sessList = context.sessList.insert id sess)
  (sameKey : family.ueKey sess = family.ueKey old) (routes : family.RoutesOwn context path)
  (sameHash : family.hash next = family.hash context)
  (trie : family.trie next = insert (family.trie context) path id) :
  family.Tracks next (update given path (some id)) := by
  have lookups : (family.trie next).lookup =
      update (family.trie context).lookup path (some id) := by
    funext other
    rw [trie, lookup_insert, update_apply]
  have after : family.index next =
      { ({ family.index context with
          routes := update (family.index context).routes path (some id) } :
          RoutedIndex UInt64 UpfSess Key Bool) with
        records := update (family.index context).records id (some sess) } := by
    simp only [index, sessFindById_insert list, sameHash, lookups]
  refine ⟨?_, ?_⟩
  · rw [after]
    have present : (family.index context).records id ≠ none :=
      fun missing => nomatch stored.symm.trans missing
    refine (tracks.coherent.route present ?_).replace stored sameKey
    · intro key other found entry isFound overlap
      exact routes ⟨key, other⟩ (mem_lookup_iff.mp entry) overlap found isFound
  · rw [lookups, tracks.given]

end

lemma lookup_eraseKey (hash : AList fun _ : Key => UInt64) (key : Option Key) (other : Key) :
  (eraseKey hash key).lookup other = if key = some other then none else hash.lookup other := by
  cases key with
  | none => rfl
  | some key =>
    by_cases same : key = other
    · subst same
      rw [if_pos rfl]
      exact lookup_erase key hash
    · rw [if_neg fun equal => same (Option.some.inj equal)]
      exact lookup_erase_ne (Ne.symm same)

omit [DecidableEq Key] in
lemma lookup_recorded (records : family.RecordsOwn context id sess) (path : List Bool) :
  ((family.recorded sess).foldl remove (family.trie context)).lookup path =
    if (family.trie context).lookup path = some id then none
    else (family.trie context).lookup path := by
  rw [lookup_foldl_remove]
  by_cases recorded : path ∈ family.recorded sess
  · rw [if_pos recorded]
    cases routed : (family.trie context).lookup path with
    | none => exact (ite_self none).symm
    | some owner => rw [records.1 path recorded owner routed, if_pos rfl]
  · rw [if_neg recorded, if_neg fun routed => recorded ?_]
    exact records.2 ⟨path, id⟩ (mem_entries.mpr routed) rfl

lemma index_drop (records : family.RecordsOwn context id sess)
  (list : next.sessList = context.sessList.erase id)
  (hash : family.hash next = eraseKey (family.hash context) (family.ueKey sess))
  (trie : family.trie next = (family.recorded sess).foldl remove (family.trie context)) :
  family.index next = (family.index context).drop id (family.ueKey sess) := by
  refine RoutedIndex.ext (sessFindById_erase list) (funext fun key => ?_) (funext fun path => ?_)
  · change (family.hash next).lookup key = _
    rw [hash]
    exact lookup_eraseKey _ _ key
  · change (family.trie next).lookup path = _
    rw [trie]
    exact lookup_recorded records path

lemma Tracks.drop (tracks : family.Tracks context given)
  (stored : context.sessFindById id = some sess)
  (dropped : family.index next = (family.index context).drop id (family.ueKey sess)) :
  family.Tracks next (RouteHistory.without given id) := by
  refine ⟨dropped ▸ tracks.coherent.drop stored, ?_⟩
  change _ = (family.index next).routes
  rw [dropped, tracks.given]
  rfl

lemma Tracks.forgets (tracks : family.Tracks context given)
  (numbered : ∀ id sess, context.sessFindById id = some sess → sess.id = id)
  (stored : context.sessFindById id = some sess)
  (gone : ∀ other found, next.sessFindById other = some found → found.id ≠ id)
  (dropped : family.index next = (family.index context).drop id (family.ueKey sess)) :
  ForgetsOnly id (family.find context) (family.find next) := by
  intro addr found
  constructor
  · intro isFound
    obtain ⟨other, isStored⟩ := records_of_find isFound
    exact gone other found isStored
  · intro isFound differs
    rw [find, dropped]
    exact find_drop tracks.coherent numbered stored isFound differs

end AddressFamily

namespace UpfContext

variable {context next : UpfContext} {history : RouteHistory} {id : UInt64} {sess : UpfSess}
  {op : ContextOp}

def Held {Key : Type} [DecidableEq Key] (context : UpfContext) (keyOf : UpfSess → Key)
  (hash : AList fun _ : Key => UInt64) : Prop :=
  ∀ id sess, context.sessFindById id = some sess → hash.lookup (keyOf sess) = some id

structure Invariant (context : UpfContext) (history : RouteHistory) : Prop where
  numbered : ∀ id sess, context.sessFindById id = some sess → sess.id = id
  upfN4Seid : context.Held UpfSess.upfN4Seid context.upfN4SeidHash
  smfN4FSeid : context.Held UpfSess.smfN4FSeid context.smfN4FSeidHash
  ipv4 : AddressFamily.ipv4.Tracks context history.ipv4
  ipv6 : AddressFamily.ipv6.Tracks context history.ipv6

section Held

variable {Key : Type} [DecidableEq Key] {keyOf : UpfSess → Key}
  {hash hash' : AList fun _ : Key => UInt64} {key : Key}

section

variable (held : context.Held keyOf hash)

include held

lemma Held.find (stored : context.sessFindById id = some sess) :
  (hash.lookup (keyOf sess)).bind context.sessFindById = some sess := by
  rw [held id sess stored, bind_some, stored]

lemma Held.add (bears : keyOf sess = key)
  (own : ∀ other found, context.sessFindById other = some found → keyOf found ≠ key)
  (list : next.sessList = context.sessList.insert id sess) :
  next.Held keyOf (hash.insert key id) := by
  intro other found isFound
  rw [sessFindById_insert list] at isFound
  rcases of_update_some isFound with ⟨rfl, rfl⟩ | ⟨-, before⟩
  · rw [bears]
    exact lookup_insert hash
  · exact (lookup_insert_ne (own other found before)).trans (held other found before)

lemma Held.replace {old : UpfSess} (stored : context.sessFindById id = some old)
  (list : next.sessList = context.sessList.insert id sess) (sameKey : keyOf sess = keyOf old) :
  next.Held keyOf hash := by
  intro other found isFound
  rw [sessFindById_insert list] at isFound
  rcases of_update_some isFound with ⟨rfl, rfl⟩ | ⟨-, before⟩
  · rw [sameKey]
    exact held other old stored
  · exact held other found before

lemma Held.drop (stored : context.sessFindById id = some sess)
  (list : next.sessList = context.sessList.erase id) :
  next.Held keyOf (hash.erase (keyOf sess)) := by
  intro other found isFound
  rw [sessFindById_erase list] at isFound
  obtain ⟨differs, before⟩ := of_update_none isFound
  refine (lookup_erase_ne fun same => differs ?_).trans (held other found before)
  have entry := held id sess stored
  rw [← same, held other found before] at entry
  exact Option.some.inj entry

end

lemma forgetsOnly_erase
  (gone : ∀ other found, next.sessFindById other = some found → found.id ≠ id)
  (kept : ∀ other found, context.sessFindById other = some found → found.id ≠ id →
    next.sessFindById other = some found)
  (own : ∀ found, (hash.lookup key).bind context.sessFindById = some found → found.id = id) :
  ForgetsOnly id (fun key => (hash.lookup key).bind context.sessFindById)
    fun other => ((hash.erase key).lookup other).bind next.sessFindById := by
  intro other found
  constructor
  · intro isFound
    obtain ⟨number, -, stored⟩ := bind_eq_some_iff.mp isFound
    exact gone number found stored
  · intro isFound differs
    have another : other ≠ key := by
      rintro rfl
      exact differs (own found isFound)
    obtain ⟨number, entry, stored⟩ := bind_eq_some_iff.mp isFound
    exact bind_eq_some_iff.mpr ⟨number, (lookup_erase_ne another).trans entry,
      kept number found stored differs⟩

end Held

section

variable (invariant : context.Invariant history)

include invariant

lemma Invariant.coherent : context.Coherent history where
  upfN4Seid _ _ stored := invariant.upfN4Seid.find stored
  smfN4FSeid _ _ stored := invariant.smfN4FSeid.find stored
  ipv4 := sessFindByIpv4_eq context ▸ invariant.ipv4.finds
  ipv6 := sessFindByIpv6_eq context ▸ invariant.ipv6.finds

lemma Invariant.numbered_insert (list : next.sessList = context.sessList.insert id sess)
  (own : sess.id = id) :
  ∀ other found, next.sessFindById other = some found → found.id = other := by
  intro other found isFound
  rw [sessFindById_insert list] at isFound
  rcases of_update_some isFound with ⟨rfl, rfl⟩ | ⟨-, before⟩
  · exact own
  · exact invariant.numbered other found before

lemma sessAdd_invariant {fSeid : FSeid} (adds : context.full = false → context.AddsNew fSeid) :
  (context.sessAdd fSeid).1.Invariant history := by
  cases isFull : context.full with
  | true => simpa only [sessAdd, isFull, if_true] using invariant
  | false =>
    obtain ⟨unused, unnamed4, unnamed6⟩ := adds isFull
    have unused (other : UInt64) (found : UpfSess)
        (stored : context.sessFindById other = some found) :=
      unused ⟨other, found⟩ (mem_lookup_iff.mp stored)
    rw [sessAdd, isFull, if_neg Bool.false_ne_true]
    exact {
      numbered := invariant.numbered_insert rfl rfl
      upfN4Seid := invariant.upfN4Seid.add rfl (fun _ _ stored => (unused _ _ stored).2.1) rfl
      smfN4FSeid := invariant.smfN4FSeid.add rfl (fun _ _ stored => (unused _ _ stored).2.2) rfl
      ipv4 := invariant.ipv4.add unnamed4 rfl rfl rfl rfl
      ipv6 := invariant.ipv6.add unnamed6 rfl rfl rfl rfl
    }

lemma sessUpdate_invariant {sess : UpfSess}
  (same : ∀ old ∈ context.sessFindById sess.id, SameKeys old sess) :
  (context.sessUpdate sess).1.Invariant history := by
  unfold sessUpdate
  cases stored : context.sessList.lookup sess.id with
  | none => exact invariant
  | some old =>
    obtain ⟨upfN4Seid, smfN4FSeid, ipv4, ipv6⟩ := same old stored
    exact {
      numbered := invariant.numbered_insert rfl rfl
      upfN4Seid := invariant.upfN4Seid.replace stored rfl upfN4Seid
      smfN4FSeid := invariant.smfN4FSeid.replace stored rfl smfN4FSeid
      ipv4 := invariant.ipv4.replace stored rfl ipv4 rfl rfl
      ipv6 := invariant.ipv6.replace stored rfl ipv6 rfl rfl
    }

lemma sessSetUeIp_invariant {addr4 : Option UInt32} {addr6 : Option IpWords}
  (gives : ∀ sess ∈ context.sessFindById id, ipv4.GivesOwn context id sess addr4 ∧
    ipv6.GivesOwn context id sess (addr6.map network)) :
  (context.sessSetUeIp id addr4 addr6).1.Invariant history := by
  unfold sessSetUeIp
  cases stored : context.sessList.lookup id with
  | none => exact invariant
  | some old =>
    obtain ⟨gives4, gives6⟩ := gives old stored
    have own := invariant.numbered id old stored
    have keys : ∀ sess, sess = addr6.elim (addr4.elim old old.setIpv4)
          (addr4.elim old old.setIpv4).setIpv6 →
        sess.id = id ∧ sess.upfN4Seid = old.upfN4Seid ∧ sess.smfN4FSeid = old.smfN4FSeid ∧
          ipv4.ueKey sess = addr4.or (ipv4.ueKey old) ∧
          ipv6.ueKey sess = (addr6.map network).or (ipv6.ueKey old) := by
      rintro sess rfl
      cases addr4 <;> cases addr6 <;> exact ⟨own, rfl, rfl, rfl, rfl⟩
    obtain ⟨sameId, upfN4Seid, smfN4FSeid, keys4, keys6⟩ := keys _ rfl
    exact {
      numbered := invariant.numbered_insert rfl sameId
      upfN4Seid := invariant.upfN4Seid.replace stored rfl upfN4Seid
      smfN4FSeid := invariant.smfN4FSeid.replace stored rfl smfN4FSeid
      ipv4 := invariant.ipv4.give stored rfl gives4 keys4 rfl rfl
      ipv6 := invariant.ipv6.give stored rfl gives6 keys6 rfl rfl
    }

lemma sessAddFramedRoute_invariant {subnet : IpSubnet} {isIpv6 : Bool}
  (keeps : context.Keeps (.sessAddFramedRoute id subnet isIpv6)) :
  (context.sessAddFramedRoute id subnet isIpv6).1.Invariant
    (history.note context (.sessAddFramedRoute id subnet isIpv6)) := by
  have noted : history.note context (.sessAddFramedRoute id subnet isIpv6) =
      if context.sessFindById id = none then history
      else if isIpv6 then
        { history with ipv6 := update history.ipv6 (routePath subnet true) (some id) }
      else
        { history with ipv4 := update history.ipv4 (routePath subnet false) (some id) } :=
    rfl
  rw [noted]
  cases stored : context.sessFindById id with
  | none =>
    have missing : context.sessList.lookup id = none := stored
    simpa only [sessAddFramedRoute, missing, if_true] using invariant
  | some old =>
    have isStored : context.sessList.lookup id = some old := stored
    have present : context.sessFindById id ≠ none :=
      fun missing => nomatch stored.symm.trans missing
    have routes := keeps present
    have own := invariant.numbered id old stored
    rw [← stored, if_neg present]
    simp only [sessAddFramedRoute, isStored]
    cases isIpv6 with
    | false =>
      exact {
        numbered := invariant.numbered_insert rfl own
        upfN4Seid := invariant.upfN4Seid.replace stored rfl rfl
        smfN4FSeid := invariant.smfN4FSeid.replace stored rfl rfl
        ipv4 := invariant.ipv4.route stored rfl rfl routes rfl rfl
        ipv6 := invariant.ipv6.replace stored rfl rfl rfl rfl
      }
    | true =>
      exact {
        numbered := invariant.numbered_insert rfl own
        upfN4Seid := invariant.upfN4Seid.replace stored rfl rfl
        smfN4FSeid := invariant.smfN4FSeid.replace stored rfl rfl
        ipv4 := invariant.ipv4.replace stored rfl rfl rfl rfl
        ipv6 := invariant.ipv6.route stored rfl rfl routes rfl rfl
      }

end

section Removing

variable (stored : context.sessFindById id = some sess)

include stored

lemma sessFindById_sessRemove (other : UInt64) (found : UpfSess) :
  (context.sessRemove id).1.sessFindById other = some found ↔
    other ≠ id ∧ context.sessFindById other = some found := by
  have isStored : context.sessList.lookup id = some sess := stored
  have after : (context.sessRemove id).1.sessList = context.sessList.erase id := by
    simp only [sessRemove, isStored]
  rw [sessFindById_erase after]
  constructor
  · exact of_update_none
  · rintro ⟨differs, before⟩
    rwa [update_of_ne differs]

lemma index_sessRemove (records4 : ipv4.RecordsOwn context id sess)
  (records6 : ipv6.RecordsOwn context id sess) :
  ipv4.index (context.sessRemove id).1 = (ipv4.index context).drop id (ipv4.ueKey sess) ∧
    ipv6.index (context.sessRemove id).1 = (ipv6.index context).drop id (ipv6.ueKey sess) := by
  have isStored : context.sessList.lookup id = some sess := stored
  simp only [sessRemove, isStored]
  exact ⟨index_drop records4 rfl rfl (foldl_map ..).symm,
    index_drop records6 rfl rfl (foldl_map ..).symm⟩

lemma sessRemove_stored_invariant (invariant : context.Invariant history)
  (records4 : ipv4.RecordsOwn context id sess) (records6 : ipv6.RecordsOwn context id sess) :
  (context.sessRemove id).1.Invariant
    ⟨RouteHistory.without history.ipv4 id, RouteHistory.without history.ipv6 id⟩ := by
  obtain ⟨index4, index6⟩ := index_sessRemove stored records4 records6
  have left := sessFindById_sessRemove stored
  have isStored : context.sessList.lookup id = some sess := stored
  refine ⟨?_, ?_, ?_, invariant.ipv4.drop stored index4, invariant.ipv6.drop stored index6⟩
  · exact fun other found after => invariant.numbered other found ((left other found).mp after).2
  · simp only [sessRemove, isStored]
    exact invariant.upfN4Seid.drop stored rfl
  · simp only [sessRemove, isStored]
    exact invariant.smfN4FSeid.drop stored rfl

lemma sessRemove_forgets (invariant : context.Invariant history)
  (ownSeid : ∀ other ∈ context.sessFindBySmfN4Seid sess.smfN4FSeid.seid, other.id = id)
  (records4 : ipv4.RecordsOwn context id sess) (records6 : ipv6.RecordsOwn context id sess) :
  context.Forgets (context.sessRemove id).1 id := by
  obtain ⟨index4, index6⟩ := index_sessRemove stored records4 records6
  have left := sessFindById_sessRemove stored
  have gone (other : UInt64) (found : UpfSess)
      (after : (context.sessRemove id).1.sessFindById other = some found) : found.id ≠ id := by
    obtain ⟨differs, before⟩ := (left other found).mp after
    rwa [invariant.numbered other found before]
  have kept (other : UInt64) (found : UpfSess) (before : context.sessFindById other = some found)
      (differs : found.id ≠ id) : (context.sessRemove id).1.sessFindById other = some found := by
    rw [invariant.numbered other found before] at differs
    exact (left other found).mpr ⟨differs, before⟩
  have isStored : context.sessList.lookup id = some sess := stored
  have own {found : UpfSess} (same : some sess = some found) : found.id = id := by
    obtain rfl := Option.some.inj same
    exact invariant.numbered id sess stored
  refine ⟨fun other found => ⟨gone other found, kept other found⟩, ?_, ?_, ?_, ?_, ?_⟩
  · have after : (context.sessRemove id).1.sessFindBySmfN4Seid = fun other =>
        ((context.smfN4SeidHash.erase sess.smfN4FSeid.seid).lookup other).bind
          (context.sessRemove id).1.sessFindById := by
      funext other
      simp only [sessFindBySmfN4Seid, sessRemove, isStored]
    rw [after]
    exact forgetsOnly_erase gone kept ownSeid
  · have after : (context.sessRemove id).1.sessFindBySmfN4FSeid = fun other =>
        ((context.smfN4FSeidHash.erase sess.smfN4FSeid).lookup other).bind
          (context.sessRemove id).1.sessFindById := by
      funext other
      simp only [sessFindBySmfN4FSeid, sessRemove, isStored]
    rw [after]
    refine forgetsOnly_erase gone kept fun found isFound => own ?_
    exact (invariant.smfN4FSeid.find stored).symm.trans isFound
  · have after : (context.sessRemove id).1.sessFindByUpfN4Seid = fun other =>
        ((context.upfN4SeidHash.erase sess.upfN4Seid).lookup other).bind
          (context.sessRemove id).1.sessFindById := by
      funext other
      simp only [sessFindByUpfN4Seid, sessRemove, isStored]
    rw [after]
    refine forgetsOnly_erase gone kept fun found isFound => own ?_
    exact (invariant.upfN4Seid.find stored).symm.trans isFound
  · rw [sessFindByIpv4_eq, sessFindByIpv4_eq]
    exact invariant.ipv4.forgets invariant.numbered stored gone index4
  · rw [sessFindByIpv6_eq, sessFindByIpv6_eq]
    exact invariant.ipv6.forgets invariant.numbered stored gone index6

end Removing

lemma forgets_of_absent
  (absent : ∀ other found, context.sessFindById other = some found → found.id ≠ id) :
  context.Forgets context id := by
  have through {Key : Type} [DecidableEq Key] (hash : AList fun _ : Key => UInt64) (key : Key)
      (found : UpfSess) (isFound : (hash.lookup key).bind context.sessFindById = some found) :
      found.id ≠ id := by
    obtain ⟨number, -, stored⟩ := bind_eq_some_iff.mp isFound
    exact absent number found stored
  refine ⟨.refl absent, .refl (through _), .refl (through _), .refl (through _), .refl ?_, .refl ?_⟩
  · rw [sessFindByIpv4_eq]
    intro addr found isFound
    obtain ⟨number, stored⟩ := records_of_find isFound
    exact absent number found stored
  · rw [sessFindByIpv6_eq]
    intro addr found isFound
    obtain ⟨number, stored⟩ := records_of_find isFound
    exact absent number found stored

lemma sessRemove_invariant (invariant : context.Invariant history)
  (keeps : context.Keeps (.sessRemove id)) :
  (context.sessRemove id).1.Invariant (history.note context (.sessRemove id)) ∧
    context.Forgets (context.sessRemove id).1 id := by
  have noted : history.note context (.sessRemove id) =
      if context.sessFindById id = none then history
      else ⟨RouteHistory.without history.ipv4 id, RouteHistory.without history.ipv6 id⟩ := rfl
  rw [noted]
  cases stored : context.sessFindById id with
  | none =>
    have missing : context.sessList.lookup id = none := stored
    simp only [sessRemove, missing, if_true]
    refine ⟨invariant, forgets_of_absent fun other found isFound same => ?_⟩
    rw [invariant.numbered other found isFound] at same
    subst same
    cases stored.symm.trans isFound
  | some sess =>
    obtain ⟨ownSeid, records4, records6⟩ := keeps sess stored
    exact ⟨sessRemove_stored_invariant stored invariant records4 records6,
      sessRemove_forgets stored invariant ownSeid records4 records6⟩

lemma step_invariant (invariant : context.Invariant history) (keeps : context.Keeps op) :
  (op.apply context).Invariant (history.note context op) := by
  cases op with
  | sessAdd fSeid => exact sessAdd_invariant invariant keeps
  | sessSetUeIp sessId addr4 addr6 => exact sessSetUeIp_invariant invariant keeps
  | sessAddFramedRoute sessId subnet isIpv6 => exact sessAddFramedRoute_invariant invariant keeps
  | sessUpdate sess => exact sessUpdate_invariant invariant keeps
  | sessRemove id => exact (sessRemove_invariant invariant keeps).1

lemma step_keepsIndices (invariant : context.Invariant history) (keeps : context.Keeps op) :
  KeepsIndices (context, history) op where
  coherent := (step_invariant invariant keeps).coherent
  forgets := by
    rintro id rfl
    exact (sessRemove_invariant invariant keeps).2

lemma sessFindById_init (maxSess : ℕ) (id : UInt64) (sess : UpfSess) :
  (init maxSess).sessFindById id ≠ some sess :=
  fun stored => nomatch (lookup_empty id).symm.trans stored

lemma tracks_init {Address Key : Type} [DecidableEq Key] (family : AddressFamily Address Key)
  (maxSess : ℕ) (empty : family.trie (init maxSess) = .empty) :
  family.Tracks (init maxSess) fun _ => none := by
  have nowhere : (family.trie (init maxSess)).lookup = fun _ => none := by
    rw [empty]
    exact funext lookup_empty
  refine ⟨⟨?_, ?_, ?_⟩, nowhere.symm⟩
  · intro id sess _ stored
    exact absurd stored (sessFindById_init maxSess id sess)
  · intro path id routed
    exact nomatch (congrFun nowhere path).symm.trans routed
  · intro _ id sess _ _ stored
    exact absurd stored (sessFindById_init maxSess id sess)

lemma init_invariant (maxSess : ℕ) : (init maxSess).Invariant .start where
  numbered id sess stored := absurd stored (sessFindById_init maxSess id sess)
  upfN4Seid id sess stored := absurd stored (sessFindById_init maxSess id sess)
  smfN4FSeid id sess stored := absurd stored (sessFindById_init maxSess id sess)
  ipv4 := tracks_init ipv4 maxSess rfl
  ipv6 := tracks_init ipv6 maxSess rfl

/-- In a run each session is found by what it is looked up by, and one that is removed is
forgotten without another, as long as SEIDs and addresses are not shared, an address that is given
up lies on no framed route, a whole update changes none of them, and a session is removed that has
recorded the routes that lead to it, and those lead to no other. -/
theorem context_indices_coherent (maxSess : ℕ) (ops : List ContextOp)
  (keeps : upfContext.Along (fun state => state.1.Keeps) (init maxSess, .start) ops) :
  upfContext.Along KeepsIndices (init maxSess, .start) ops := by
  have preserved (state : UpfContext × RouteHistory) (op : ContextOp)
      (invariant : state.1.Invariant state.2) (keeps : state.1.Keeps op) :
      (upfContext.step state op).1.1.Invariant (upfContext.step state op).1.2 :=
    step_invariant invariant keeps
  exact upfContext.along_of_invariant preserved
    (fun _ _ invariant keeps => step_keepsIndices invariant keeps) (init_invariant maxSess) keeps

def framed : IpSubnet := ⟨⟨0x0A010000, 0, 0, 0⟩, ⟨0xFFFF0000, 0, 0, 0⟩⟩

def smfSession (seid : UInt64) : ContextOp := .sessAdd ⟨seid, some 0x0A000001, none⟩

theorem indices_coherent_two_sessions : upfContext.Along KeepsIndices (init 0, .start)
    [smfSession 7, .sessSetUeIp 1 (some 0x0A2D0002) none, .sessAddFramedRoute 1 framed false,
      smfSession 8, .sessSetUeIp 2 (some 0x0A2D0003) none, .sessRemove 1] :=
  context_indices_coherent 0 _ (by decide)

/-- Two sessions share a framed route, and the first goes; an F-SEID is added again. -/
theorem shared_route_lost : ¬ upfContext.Along KeepsIndices (init 0, .start)
      [smfSession 7, smfSession 8, .sessAddFramedRoute 1 framed false,
        .sessAddFramedRoute 2 framed false, .sessRemove 1] ∧
    ¬ upfContext.Along KeepsIndices (init 0, .start) [smfSession 7, smfSession 7] := by
  constructor
  · rintro ⟨-, -, -, -, removed, -⟩
    have kept := ((removed.forgets 1 rfl).byIpv4 0x0A010001
      { id := 2, upfN4Seid := 2, smfN4FSeid := ⟨8, some 0x0A000001, none⟩
        ipv4FramedRoutes := some [framed] }).2 (by decide) (by decide)
    exact absurd kept (by decide)
  · rintro ⟨-, again, -⟩
    have found := again.coherent.smfN4FSeid 1
      { id := 1, upfN4Seid := 1, smfN4FSeid := ⟨7, some 0x0A000001, none⟩ } (by decide)
    exact absurd found (by decide)

end UpfContext

end NextGCore.Upf
