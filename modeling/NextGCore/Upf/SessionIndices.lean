import NextGCore.Upf.SessionManager

/-!
# The indices of the data plane

A session is live when its SEID leads to it.  The maps by TEID and by address lead to live
sessions, and to the one that was added last, as long as a SEID is only given again with the keys
it is found by, and a session is only removed when its keys lead to no other.
-/

namespace NextGCore.Upf

open Library Option Function List

namespace SessionManager

variable {manager : SessionManager} {arc : ℕ} {session : DataPlaneSession} {shared : SharedSession}

def teidOf (session : DataPlaneSession) : Option UInt32 := some session.ulTeid

def Live (manager : SessionManager) (shared : SharedSession) : Prop :=
  manager.findBySeid shared.session.upfSeid = some shared

def LastWith (manager : SessionManager) (keyOf : DataPlaneSession → Option UInt32)
  (shared : SharedSession) : Prop :=
  ∀ later session, shared.arc < later → manager.arcs[later]? = some session →
    keyOf session ≠ keyOf shared.session

/-- What is found is live, and a live session that was added last with its key is found. -/
structure FindsLive (manager : SessionManager) (keyOf : DataPlaneSession → Option UInt32)
  (find : UInt32 → Option SharedSession) : Prop where
  live : ∀ key shared, find key = some shared → manager.Live shared
  finds : ∀ key shared, manager.Live shared → keyOf shared.session = some key →
    manager.LastWith keyOf shared → find key = some shared

structure Coherent (manager : SessionManager) : Prop where
  ulTeid : manager.FindsLive teidOf manager.findByUlTeid
  ueIp : manager.FindsLive DataPlaneSession.ueIpv4 manager.findByUeIp

def live (manager : SessionManager) (arc : ℕ) : Option DataPlaneSession :=
  manager.arcs[arc]?.filter fun session => manager.seidMap.lookup session.upfSeid = some arc

lemma live_eq_some_iff : manager.live arc = some session ↔
    manager.arcs[arc]? = some session ∧ manager.seidMap.lookup session.upfSeid = some arc := by
  rw [live, filter_eq_some_iff, decide_eq_true_eq]

lemma share_eq_some_iff : manager.share arc = some shared ↔
    shared.arc = arc ∧ manager.arcs[arc]? = some shared.session := by
  rw [share, map_eq_some_iff]
  constructor
  · rintro ⟨session, found, rfl⟩
    exact ⟨rfl, found⟩
  · rintro ⟨rfl, found⟩
    exact ⟨shared.session, found, rfl⟩

lemma live_iff : manager.Live shared ↔ manager.live shared.arc = some shared.session := by
  rw [live_eq_some_iff, Live, findBySeid, bind_eq_some_iff]
  constructor
  · rintro ⟨arc, found, isShared⟩
    obtain ⟨rfl, held⟩ := share_eq_some_iff.mp isShared
    exact ⟨held, found⟩
  · rintro ⟨held, found⟩
    exact ⟨shared.arc, found, share_eq_some_iff.mpr ⟨rfl, held⟩⟩

lemma findBySeid_of_live (stored : manager.live arc = some session) :
  manager.findBySeid session.upfSeid = some ⟨arc, session⟩ := by
  have isLive : manager.Live ⟨arc, session⟩ := live_iff.mpr stored
  exact isLive

lemma found_of_live {map : AList fun _ : UInt32 => ℕ} {key : UInt32}
  (stored : manager.live arc = some session) (entry : map.lookup key = some arc) :
  (map.lookup key).bind manager.share = some ⟨arc, session⟩ :=
  bind_eq_some_iff.mpr
    ⟨arc, entry, share_eq_some_iff.mpr ⟨rfl, (live_eq_some_iff.mp stored).1⟩⟩

structure Indexed (manager : SessionManager) (keyOf : DataPlaneSession → Option UInt32)
  (index : UInt32 → Option ℕ) : Prop where
  coherent : OwnedIndex manager.live keyOf index (lastBearer (manager.arcs.map keyOf))
  leads : ∀ key arc, index key = some arc → manager.live arc ≠ none

structure Invariant (manager : SessionManager) : Prop where
  numbered : ∀ seid arc, manager.seidMap.lookup seid = some arc →
    ∃ session, manager.arcs[arc]? = some session ∧ session.upfSeid = seid
  ulTeid : manager.Indexed teidOf manager.ulTeidMap.lookup
  ueIp : manager.Indexed DataPlaneSession.ueIpv4 manager.ueIpMap.lookup

section

variable {manager next : SessionManager} {keyOf : DataPlaneSession → Option UInt32}
  {index : UInt32 → Option ℕ}

namespace Indexed

lemma found (indexed : manager.Indexed keyOf index) {key : UInt32} {arc : ℕ}
  (entry : index key = some arc) :
  ∃ session, manager.live arc = some session ∧ keyOf session = some key := by
  obtain ⟨session, stored⟩ := ne_none_iff_exists'.mp (indexed.leads key arc entry)
  exact ⟨session, stored, indexed.coherent.held entry stored⟩

lemma findsLive (indexed : manager.Indexed keyOf index) :
  manager.FindsLive keyOf fun key => (index key).bind manager.share where
  live key shared isFound := by
    obtain ⟨arc, entry, isShared⟩ := bind_eq_some_iff.mp isFound
    obtain ⟨rfl, held⟩ := share_eq_some_iff.mp isShared
    obtain ⟨session, stored, -⟩ := indexed.found entry
    rw [live_iff, stored]
    exact (live_eq_some_iff.mp stored).1.symm.trans held
  finds key shared isLive bears last := by
    have stored := live_iff.mp isLive
    have held := (live_eq_some_iff.mp stored).1
    have owns : lastBearer (manager.arcs.map keyOf) key = some shared.arc := by
      rw [lastBearer_eq_some_iff, getElem?_map, held, map_some, bears]
      refine ⟨rfl, fun later isLater same => ?_⟩
      rw [getElem?_map] at same
      obtain ⟨session, isSession, sameKey⟩ := map_eq_some_iff.mp same
      exact last later session isLater isSession (sameKey.trans bears.symm)
    exact bind_eq_some_iff.mpr ⟨shared.arc, indexed.coherent.finds stored bears owns,
      share_eq_some_iff.mpr ⟨rfl, held⟩⟩

lemma congr {index' : UInt32 → Option ℕ} (indexed : manager.Indexed keyOf index)
  (sameLive : next.live = manager.live) (sameKeys : next.arcs.map keyOf = manager.arcs.map keyOf)
  (sameIndex : index' = index) : next.Indexed keyOf index' where
  coherent := by
    rw [sameLive, sameKeys, sameIndex]
    exact indexed.coherent
  leads := by
    rw [sameLive, sameIndex]
    exact indexed.leads

end Indexed

end

lemma Invariant.coherent (invariant : manager.Invariant) : manager.Coherent :=
  ⟨invariant.ulTeid.findsLive, invariant.ueIp.findsLive⟩

def LeadsTo (find : UInt32 → Option SharedSession) (key : Option UInt32)
  (shared : SharedSession) : Prop :=
  ∀ name ∈ key, ∀ found ∈ find name, found = shared

def Overwrites (find : UInt32 → Option SharedSession) (old new : Option UInt32)
  (shared : SharedSession) : Prop :=
  ∀ name ∈ old, find name = some shared → new = some name

def Keeps (manager : SessionManager) : SessionOp → Prop
  | .addSession session =>
    ∀ old ∈ manager.findBySeid session.upfSeid,
      Overwrites manager.findByUlTeid (teidOf old.session) (teidOf session) old ∧
        Overwrites manager.findByUeIp old.session.ueIpv4 session.ueIpv4 old
  | .removeSessionBySeid seid =>
    ∀ gone ∈ manager.findBySeid seid, LeadsTo manager.findByUlTeid (teidOf gone.session) gone ∧
        LeadsTo manager.findByUeIp gone.session.ueIpv4 gone
  | .removeSession ulTeid =>
    ∀ gone ∈ manager.findByUlTeid ulTeid, LeadsTo manager.findByUeIp gone.session.ueIpv4 gone
  | .updateSessionFromPfcp _ _ _ => True

section

variable {manager : SessionManager} {keyOf : DataPlaneSession → Option UInt32}
  {index : UInt32 → Option ℕ} {session : DataPlaneSession} {gone : SharedSession} {seid : UInt64}
  {teid : UInt32} {old : SharedSession} {op : SessionOp}

lemma live_addSession (manager : SessionManager) (session : DataPlaneSession) :
  (manager.addSession session).live = update
      (fun arc => (manager.live arc).filter fun other => other.upfSeid ≠ session.upfSeid)
      manager.arcs.length (some session) := by
  funext arc
  have seids (seid : UInt64) : (manager.addSession session).seidMap.lookup seid =
      assign manager.seidMap.lookup manager.arcs.length (some session.upfSeid) seid :=
    congrFun (lookup_insert_eq _ _ _) seid
  refine ext fun found => ?_
  rw [live_eq_some_iff, seids]
  by_cases new : arc = manager.arcs.length
  · subst new
    rw [update_self]
    change (manager.arcs ++ [session])[manager.arcs.length]? = some found ∧ _ ↔ _
    rw [getElem?_concat_length]
    constructor
    · exact fun both => both.1
    · intro same
      obtain rfl := Option.some.inj same
      exact ⟨rfl, assign_self _ _ _⟩
  · rw [update_of_ne new, filter_eq_some_iff, live_eq_some_iff, decide_eq_true_eq]
    have place : (manager.addSession session).arcs[arc]? = manager.arcs[arc]? := by
      change (manager.arcs ++ [session])[arc]? = _
      rw [getElem?_append]
      split
      · rfl
      · next beyond =>
          rw [getElem?_eq_none (Nat.le_of_not_lt beyond), getElem?_eq_none]
          rw [length_singleton]
          omega
    rw [place]
    by_cases own : found.upfSeid = session.upfSeid
    · rw [own, assign_self]
      constructor
      · exact fun both => absurd (Option.some.inj both.2).symm new
      · exact fun both => absurd rfl both.2
    · rw [assign_of_ne fun same => own (Option.some.inj same).symm]
      exact ⟨fun both => ⟨both, own⟩, fun both => both.1⟩

lemma Indexed.addSession (indexed : manager.Indexed keyOf index)
  (overwrites : ∀ arc old, manager.live arc = some old → old.upfSeid = session.upfSeid →
    ∀ key, keyOf old = some key → index key = some arc → keyOf session = some key) :
  (manager.addSession session).Indexed keyOf
    (assign index manager.arcs.length (keyOf session)) := by
  have keys : (manager.addSession session).arcs.map keyOf =
      manager.arcs.map keyOf ++ [keyOf session] := map_append
  have old_place {key : UInt32} {arc : ℕ} (entry : index key = some arc) :
      arc < manager.arcs.length := by
    have last := lt_length_of_lastBearer (indexed.coherent.owned entry)
    rwa [length_map] at last
  constructor
  · rw [live_addSession, keys, lastBearer_append, length_map]
    apply OwnedIndex.give
    · exact indexed.coherent.shrink (fun found => (filter_eq_some_iff.mp found).1) id
        (fun entry _ => entry)
    · intro key entry
      exact absurd (old_place entry) (Nat.lt_irrefl _)
  · intro key arc entry
    rw [live_addSession]
    rcases of_assign entry with ⟨-, rfl⟩ | ⟨other, before⟩
    · rw [update_self]
      exact some_ne_none session
    · obtain ⟨old, stored, bears⟩ := indexed.found before
      rw [update_of_ne (Nat.ne_of_lt (old_place before)), stored]
      by_cases same : old.upfSeid = session.upfSeid
      · exact absurd (overwrites arc old stored same key bears before) other
      · simp [same]

lemma addSession_invariant (invariant : manager.Invariant)
  (keeps : manager.Keeps (.addSession session)) : (manager.addSession session).Invariant := by
  refine ⟨?_, ?_, ?_⟩
  · intro seid arc entry
    change (manager.seidMap.insert session.upfSeid manager.arcs.length).lookup seid = _ at entry
    change ∃ found, (manager.arcs ++ [session])[arc]? = some found ∧ _
    rcases of_assign ((congrFun (lookup_insert_eq _ _ _) seid).symm.trans entry) with
      ⟨own, rfl⟩ | ⟨-, before⟩
    · exact ⟨session, getElem?_concat_length, Option.some.inj own⟩
    · obtain ⟨found, held, own⟩ := invariant.numbered seid arc before
      exact ⟨found, getElem?_append_left (List.getElem?_eq_some_iff.mp held).1 ▸ held, own⟩
  · refine (invariant.ulTeid.addSession ?_).congr rfl rfl (lookup_insert_eq _ _ _)
    intro arc old stored same key bears entry
    have isOld := same ▸ findBySeid_of_live stored
    exact (keeps ⟨arc, old⟩ isOld).1 key bears (found_of_live stored entry)
  · refine (invariant.ueIp.addSession ?_).congr rfl rfl (lookup_name _ _ _)
    intro arc old stored same key bears entry
    have isOld := same ▸ findBySeid_of_live stored
    exact (keeps ⟨arc, old⟩ isOld).2 key bears (found_of_live stored entry)

def drop (manager : SessionManager) (gone : SharedSession) : SessionManager :=
  { manager with
    seidMap := manager.seidMap.erase gone.session.upfSeid
    ulTeidMap := manager.ulTeidMap.erase gone.session.ulTeid
    ueIpMap := unname manager.ueIpMap gone.session.ueIpv4 }

lemma live_drop (stored : manager.Live gone) :
  (manager.drop gone).live = update manager.live gone.arc none := by
  obtain ⟨held, entry⟩ := live_eq_some_iff.mp (live_iff.mp stored)
  funext arc
  refine ext fun other => ?_
  have seids : (manager.drop gone).seidMap.lookup other.upfSeid =
      forget manager.seidMap.lookup (some gone.session.upfSeid) other.upfSeid :=
    congrFun (lookup_erase_eq _ _) _
  rw [live_eq_some_iff, seids]
  change manager.arcs[arc]? = _ ∧ _ ↔ _
  by_cases same : arc = gone.arc
  · subst same
    rw [update_self]
    constructor
    · rintro ⟨alsoHeld, entry⟩
      obtain rfl := Option.some.inj (held.symm.trans alsoHeld)
      exact absurd rfl (of_forget entry).1
    · intro nothing
      cases nothing
  · rw [update_of_ne same, live_eq_some_iff]
    by_cases named : other.upfSeid = gone.session.upfSeid
    · rw [named, forget_self, entry]
      constructor
      · exact fun both => absurd both.2 (some_ne_none arc).symm
      · exact fun both => absurd (Option.some.inj both.2).symm same
    · rw [forget_of_ne fun same => named (Option.some.inj same).symm]

lemma Indexed.drop (indexed : manager.Indexed keyOf index) (stored : manager.Live gone)
  (own : ∀ key arc, keyOf gone.session = some key → index key = some arc → arc = gone.arc) :
  (manager.drop gone).Indexed keyOf (forget index (keyOf gone.session)) := by
  constructor
  · rw [live_drop stored]
    exact indexed.coherent.remove fun key arc bears entry => .inl (own key arc bears entry)
  · intro key arc entry
    obtain ⟨stays, before⟩ := of_forget entry
    rw [live_drop stored]
    by_cases same : arc = gone.arc
    · subst same
      exact absurd (indexed.coherent.held before (live_iff.mp stored)) stays
    · rw [update_of_ne same]
      exact indexed.leads key arc before

section

variable (invariant : manager.Invariant)

include invariant

lemma findBySeid_live (found : manager.findBySeid seid = some gone) :
  manager.Live gone ∧ gone.session.upfSeid = seid := by
  obtain ⟨arc, entry, isShared⟩ := bind_eq_some_iff.mp found
  obtain ⟨rfl, held⟩ := share_eq_some_iff.mp isShared
  obtain ⟨session, alsoHeld, own⟩ := invariant.numbered seid gone.arc entry
  obtain rfl := Option.some.inj (held.symm.trans alsoHeld)
  exact ⟨(congrArg manager.findBySeid own).trans found, own⟩

lemma findByUlTeid_live (found : manager.findByUlTeid teid = some gone) :
  manager.Live gone ∧ gone.session.ulTeid = teid := by
  refine ⟨invariant.coherent.ulTeid.live teid gone found, ?_⟩
  obtain ⟨arc, entry, isShared⟩ := bind_eq_some_iff.mp found
  obtain ⟨rfl, held⟩ := share_eq_some_iff.mp isShared
  obtain ⟨session, stored, bears⟩ := invariant.ulTeid.found entry
  obtain rfl := Option.some.inj (held.symm.trans (live_eq_some_iff.mp stored).1)
  exact Option.some.inj bears

lemma removeSessionBySeid_eq (found : manager.findBySeid seid = some gone) :
  manager.removeSessionBySeid seid = manager.drop gone := by
  simp only [removeSessionBySeid, found, drop, (findBySeid_live invariant found).2]

lemma removeSession_eq (found : manager.findByUlTeid teid = some gone) :
  manager.removeSession teid = manager.drop gone := by
  simp only [removeSession, found, drop, (findByUlTeid_live invariant found).2]

lemma drop_invariant (stored : manager.Live gone)
  (teidOwn : LeadsTo manager.findByUlTeid (teidOf gone.session) gone)
  (ipOwn : LeadsTo manager.findByUeIp gone.session.ueIpv4 gone) :
  (manager.drop gone).Invariant := by
  refine ⟨?_, ?_, ?_⟩
  · intro seid arc entry
    change (manager.seidMap.erase gone.session.upfSeid).lookup seid = _ at entry
    exact invariant.numbered seid arc
      (of_forget ((congrFun (lookup_erase_eq _ _) seid).symm.trans entry)).2
  · refine (invariant.ulTeid.drop stored ?_).congr rfl rfl (lookup_erase_eq _ _)
    intro key arc bears entry
    obtain ⟨session, isLive, -⟩ := invariant.ulTeid.found entry
    exact congrArg SharedSession.arc (teidOwn key bears _ (found_of_live isLive entry))
  · refine (invariant.ueIp.drop stored ?_).congr rfl rfl (lookup_unname _ _)
    intro key arc bears entry
    obtain ⟨session, isLive, -⟩ := invariant.ueIp.found entry
    exact congrArg SharedSession.arc (ipOwn key bears _ (found_of_live isLive entry))

lemma write_invariant {arc : ℕ} {old : DataPlaneSession} (held : manager.arcs[arc]? = some old)
  (sameSeid : session.upfSeid = old.upfSeid) (sameTeid : session.ulTeid = old.ulTeid)
  (sameIp : session.ueIpv4 = old.ueIpv4) : (manager.write arc session).Invariant := by
  have place (other : ℕ) : (manager.write arc session).arcs[other]? =
      if other = arc then some session else manager.arcs[other]? := by
    change (manager.arcs.set arc session)[other]? = _
    by_cases same : other = arc
    · rw [if_pos same, same, getElem?_set_self (List.getElem?_eq_some_iff.mp held).1]
    · rw [if_neg same, getElem?_set_ne (Ne.symm same)]
  have relabel (keyOf : DataPlaneSession → Option UInt32) (same : keyOf session = keyOf old)
      {index : UInt32 → Option ℕ} (indexed : manager.Indexed keyOf index) :
      (manager.write arc session).Indexed keyOf index := by
    have keys (other : ℕ) : ((manager.write arc session).live other).map keyOf =
        (manager.live other).map keyOf := by
      unfold live
      rw [place]
      by_cases own : other = arc
      · rw [if_pos own, own, held, filter_some, filter_some]
        change Option.map keyOf
          (if decide (manager.seidMap.lookup session.upfSeid = some arc) = true
            then some session else none) = _
        rw [sameSeid]
        split
        · exact congrArg some same
        · rfl
      · rw [if_neg own]
        rfl
    have allKeys : (manager.write arc session).arcs.map keyOf = manager.arcs.map keyOf := by
      refine ext_getElem? fun other => ?_
      rw [getElem?_map, getElem?_map, place]
      split
      · next own => rw [own, held, map_some, map_some, same]
      · rfl
    constructor
    · rw [allKeys]
      exact indexed.coherent.relabel keys
    · intro key other entry gone
      have nothing := keys other
      rw [gone, map_none] at nothing
      exact indexed.leads key other entry (map_eq_none_iff.mp nothing.symm)
  refine ⟨?_, relabel _ (congrArg some sameTeid) invariant.ulTeid, relabel _ sameIp invariant.ueIp⟩
  intro seid other entry
  obtain ⟨found, isFound, own⟩ := invariant.numbered seid other entry
  rw [place]
  split
  · next same =>
      subst same
      obtain rfl := Option.some.inj (held.symm.trans isFound)
      exact ⟨session, rfl, sameSeid.trans own⟩
  · exact ⟨found, isFound, own⟩

lemma readd_invariant (stored : manager.Live old)
  (sameSeid : session.upfSeid = old.session.upfSeid)
  (sameTeid : session.ulTeid = old.session.ulTeid)
  (sameIp : session.ueIpv4 = old.session.ueIpv4) :
  ((manager.drop old).addSession session).Invariant := by
  have added : (manager.addSession session).Invariant := by
    apply addSession_invariant invariant
    intro displaced isDisplaced
    have same : displaced = old := by
      rw [sameSeid, mem_def, stored] at isDisplaced
      exact (Option.some.inj isDisplaced).symm
    subst same
    exact ⟨fun _ isKey _ => (congrArg some sameTeid).trans isKey,
      fun _ isKey _ => sameIp.trans isKey⟩
  have sameLive : ((manager.drop old).addSession session).live =
      (manager.addSession session).live := by
    rw [live_addSession, live_addSession, live_drop stored]
    congr 1
    funext arc
    by_cases same : arc = old.arc
    · subst same
      rw [update_self, live_iff.mp stored, filter_none, filter_some]
      simp [sameSeid]
    · rw [update_of_ne same]
  refine ⟨?_, added.ulTeid.congr sameLive rfl ?_, added.ueIp.congr sameLive rfl ?_⟩
  · intro seid arc entry
    apply added.numbered seid arc
    change ((manager.seidMap.erase old.session.upfSeid).insert _ _).lookup seid = _ at entry
    change (manager.seidMap.insert _ _).lookup seid = _
    rw [congrFun (lookup_insert_eq _ _ _) seid, lookup_erase_eq, ← sameSeid,
      assign_forget_self] at entry
    exact (congrFun (lookup_insert_eq _ _ _) seid).trans entry
  · change ((manager.ulTeidMap.erase old.session.ulTeid).insert _ _).lookup =
      (manager.ulTeidMap.insert _ _).lookup
    rw [lookup_insert_eq, lookup_insert_eq, lookup_erase_eq, ← sameTeid, assign_forget_self]
    rfl
  · change (name (unname manager.ueIpMap old.session.ueIpv4) _ _).lookup =
      (name manager.ueIpMap _ _).lookup
    rw [lookup_name, lookup_name, lookup_unname, ← sameIp, assign_forget_self]
    rfl

lemma updateSession_invariant (upfSeid : UInt64) (dlTeid : Option UInt32)
  (gnbAddr : Option SocketAddr) :
  (manager.updateSessionFromPfcp upfSeid dlTeid gnbAddr).Invariant := by
  unfold updateSessionFromPfcp
  cases found : manager.findBySeid upfSeid with
  | none => exact invariant
  | some old =>
    obtain ⟨stored, rfl⟩ := findBySeid_live invariant found
    obtain ⟨held, entry⟩ := live_eq_some_iff.mp (live_iff.mp stored)
    have taken : (manager.write old.arc old.session.taken).Invariant :=
      write_invariant invariant held rfl rfl rfl
    have place : (manager.arcs.set old.arc old.session.taken)[old.arc]? = some old.session.taken :=
      getElem?_set_self (List.getElem?_eq_some_iff.mp held).1
    have isLive : (manager.write old.arc old.session.taken).live old.arc =
        some old.session.taken := live_eq_some_iff.mpr ⟨place, entry⟩
    have still : (manager.write old.arc old.session.taken).findBySeid old.session.upfSeid =
        some ⟨old.arc, old.session.taken⟩ := findBySeid_of_live isLive
    change (((manager.write old.arc old.session.taken).removeSessionBySeid _).addSession
      _).Invariant
    rw [removeSessionBySeid_eq taken still]
    exact readd_invariant taken (findBySeid_live taken still).1 rfl rfl rfl

lemma step_invariant (keeps : manager.Keeps op) : (op.apply manager).Invariant := by
  cases op with
  | addSession session => exact addSession_invariant invariant keeps
  | removeSessionBySeid seid =>
    cases found : manager.findBySeid seid with
    | none =>
      change (manager.removeSessionBySeid seid).Invariant
      rwa [removeSessionBySeid, found]
    | some gone =>
      change (manager.removeSessionBySeid seid).Invariant
      rw [removeSessionBySeid_eq invariant found]
      obtain ⟨teidOwn, ipOwn⟩ := keeps gone found
      exact drop_invariant invariant (findBySeid_live invariant found).1 teidOwn ipOwn
  | removeSession ulTeid =>
    cases found : manager.findByUlTeid ulTeid with
    | none =>
      change (manager.removeSession ulTeid).Invariant
      rwa [removeSession, found]
    | some gone =>
      change (manager.removeSession ulTeid).Invariant
      rw [removeSession_eq invariant found]
      obtain ⟨stored, rfl⟩ := findByUlTeid_live invariant found
      refine drop_invariant invariant stored ?_ (keeps gone found)
      rintro name isName other isOther
      obtain rfl := Option.some.inj isName
      exact Option.some.inj (isOther.symm.trans found)
  | updateSessionFromPfcp upfSeid dlTeid gnbAddr =>
    exact updateSession_invariant invariant upfSeid dlTeid gnbAddr

end

lemma overwrites_of_live {map : AList fun _ : UInt32 => ℕ} {map' : UInt32 → Option ℕ}
  (invariant : manager.Invariant) (isOld : manager.findBySeid session.upfSeid = some old)
  (others : ∀ key, keyOf session ≠ some key → map' key = map.lookup key)
  (allLive : ∀ key shared, (map' key).bind (manager.addSession session).share = some shared →
    (manager.addSession session).Live shared) :
  Overwrites (fun key => (map.lookup key).bind manager.share) (keyOf old.session)
    (keyOf session) old := by
  intro key bears found
  by_contra differs
  obtain ⟨arc, entry, isShared⟩ := bind_eq_some_iff.mp found
  obtain ⟨rfl, held⟩ := share_eq_some_iff.mp isShared
  have before := (List.getElem?_eq_some_iff.mp held).1
  have place : (manager.arcs ++ [session])[old.arc]? = some old.session :=
    (getElem?_append_left before).trans held
  have still : (map' key).bind (manager.addSession session).share = some old :=
    bind_eq_some_iff.mpr
      ⟨old.arc, (others key differs).trans entry, share_eq_some_iff.mpr ⟨rfl, place⟩⟩
  have isLive := live_iff.mp (allLive key old still)
  rw [live_addSession, update_of_ne (Nat.ne_of_lt before)] at isLive
  have other := of_decide_eq_true (filter_eq_some_iff.mp isLive).2
  exact other (findBySeid_live invariant isOld).2

lemma leadsTo_of_finds {map : AList fun _ : UInt32 => ℕ} {find : UInt32 → Option SharedSession}
  (indexed : manager.Indexed keyOf map.lookup) (stored : manager.Live gone)
  (nowhere : ∀ key, keyOf gone.session = some key → find key = none)
  (finds : (manager.drop gone).FindsLive keyOf find) :
  LeadsTo (fun key => (map.lookup key).bind manager.share) (keyOf gone.session) gone := by
  intro key bears found isFound
  by_contra differs
  obtain ⟨arc, entry, isShared⟩ := bind_eq_some_iff.mp isFound
  obtain ⟨rfl, held⟩ := share_eq_some_iff.mp isShared
  obtain ⟨session, isLive, alsoBears⟩ := indexed.found entry
  obtain rfl := Option.some.inj (held.symm.trans (live_eq_some_iff.mp isLive).1)
  have elsewhere : found.arc ≠ gone.arc := by
    intro same
    have isGone := live_iff.mp stored
    rw [← same, isLive] at isGone
    exact differs (by cases found; cases gone; cases same; cases isGone; rfl)
  have stays : (manager.drop gone).Live found := by
    rw [live_iff, live_drop stored, update_of_ne elsewhere, isLive]
  have last : (manager.drop gone).LastWith keyOf found := by
    intro later session isLater isSession same
    obtain ⟨-, isLast⟩ := lastBearer_eq_some_iff.mp (indexed.coherent.owned entry)
    apply isLast later isLater
    have isSession : manager.arcs[later]? = some session := isSession
    rw [getElem?_map, isSession, map_some, same, alsoBears]
  have isFound := finds.finds key found stays alsoBears last
  rw [nowhere key bears] at isFound
  cases isFound

lemma drop_needs (invariant : manager.Invariant) (stored : manager.Live gone)
  (coherent : (manager.drop gone).Coherent) :
  LeadsTo manager.findByUlTeid (teidOf gone.session) gone ∧
    LeadsTo manager.findByUeIp gone.session.ueIpv4 gone := by
  refine ⟨leadsTo_of_finds invariant.ulTeid stored ?_ coherent.ulTeid,
    leadsTo_of_finds invariant.ueIp stored ?_ coherent.ueIp⟩
  · intro key bears
    obtain rfl := Option.some.inj bears
    change ((manager.ulTeidMap.erase gone.session.ulTeid).lookup _).bind _ = none
    rw [AList.lookup_erase]
    rfl
  · intro key bears
    change ((unname manager.ueIpMap gone.session.ueIpv4).lookup key).bind _ = none
    rw [congrFun (lookup_unname _ _) key, bears, forget_self]
    rfl

lemma step_needs (invariant : manager.Invariant) (coherent : (op.apply manager).Coherent) :
  manager.Keeps op := by
  cases op with
  | addSession session =>
    intro old isOld
    refine ⟨overwrites_of_live invariant isOld ?_ coherent.ulTeid.live,
      overwrites_of_live invariant isOld ?_ coherent.ueIp.live⟩
    · intro key other
      exact (congrFun (lookup_insert_eq _ _ _) key).trans (assign_of_ne other)
    · intro key other
      exact (congrFun (lookup_name _ _ _) key).trans (assign_of_ne other)
  | removeSessionBySeid seid =>
    intro gone found
    apply drop_needs invariant (findBySeid_live invariant found).1
    rw [← removeSessionBySeid_eq invariant found]
    exact coherent
  | removeSession ulTeid =>
    intro gone found
    refine (drop_needs invariant (findByUlTeid_live invariant found).1 ?_).2
    rw [← removeSession_eq invariant found]
    exact coherent
  | updateSessionFromPfcp upfSeid dlTeid gnbAddr => trivial

lemma new_invariant : new.Invariant := by
  refine ⟨?_, ⟨?_, ?_⟩, ⟨?_, ?_⟩⟩
  · intro seid arc entry
    cases entry
  · exact .shrink .empty (fun found => by cases found) (fun entry => by cases entry)
      (fun entry => by cases entry)
  · intro key arc entry
    cases entry
  · exact .shrink .empty (fun found => by cases found) (fun entry => by cases entry)
      (fun entry => by cases entry)
  · intro key arc entry
    cases entry

end

/-- The maps are coherent in every state of a run if and only if a session that is added takes
the keys under which the one with its SEID is found, and the keys of a session that is removed
lead to no other. -/
theorem n4_indices_coherent (ops : List SessionOp) :
  (∀ steps, (sessions.run new (ops.take steps)).Coherent) ↔ sessions.Along Keeps new ops :=
  sessions.reached_iff_along (fun _ invariant => invariant.coherent)
    (fun _ _ invariant keeps => step_invariant invariant keeps)
    (fun _ _ invariant coherent => step_needs invariant coherent) new_invariant ops

def sharing (upfSeid : UInt64) (ulTeid : UInt32) : DataPlaneSession :=
  .newEmpty upfSeid 0x1077 (some 0x0A2D0001) ulTeid 200 ⟨.v4 0x0A000001, 2152⟩ none

/-- Two sessions share an address, and the first goes; a SEID is added again with another TEID. -/
theorem shared_ue_address_lost : ¬ (sessions.run new
      [.addSession (sharing 1 10), .addSession (sharing 2 11), .removeSessionBySeid 1]).Coherent ∧
    ¬ (sessions.run new [.addSession (sharing 1 10), .addSession (sharing 1 11)]).Coherent := by
  constructor
  · intro coherent
    have found := coherent.ueIp.finds 0x0A2D0001 ⟨1, sharing 2 11⟩ rfl rfl ?_
    · exact absurd found (by decide)
    · intro later session isLater isSession
      rcases later with _ | _ | later
      · cases isLater
      · exact absurd isLater (Nat.lt_irrefl 1)
      · cases isSession
  · intro coherent
    have isLive := coherent.ulTeid.live 10 ⟨0, sharing 1 10⟩ rfl
    exact absurd isLive (by unfold Live; decide)

end SessionManager

end NextGCore.Upf
