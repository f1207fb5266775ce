import NextGCore.Upf.Establishment
import NextGCore.Upf.SessionIndices

/-!
# Whose sessions go

There is one association, and there are the sessions of all peers.  A run of messages, in any
order and from any peers, has the data plane behind it by what is in its channel.  A session
belongs to the peer that established it; a peer that fails should take its own sessions with it,
and no others.
-/

namespace NextGCore.Upf

open Library ParsedIe PfcpIe Option List AList

variable (server : PfcpServer)

inductive N4Event where
  | established (event : SessionEstablished) (smfAddr : SocketAddr)
  | peerFailure (peer : SocketAddr)

def N4Event.ofEvent (srcAddr : SocketAddr) : PfcpSessionEvent → Option N4Event
  | .sessionEstablished event => some (.established event srcAddr)
  | .peerFailure peer => some (.peerFailure peer)
  | .sessionModified _ _ => none
  | .sessionDeleted _ => none

inductive NodeMessage where
  | heartbeat (payload : Bytes)
  | associationSetup (payload : Bytes)
  | associationRelease

inductive N4Input where
  | node (message : NodeMessage) (srcAddr : SocketAddr)
  | sessionEstablishment (payload : Bytes) (srcAddr : SocketAddr)
  | handleEvent (now : ℕ)

structure N4State where
  server : PfcpServer
  queue : List N4Event
  manager : SessionManager
  alive : Bool
  owners : AList fun _ : UInt64 => SocketAddr

def NodeMessage.handled (srcAddr : SocketAddr) : NodeMessage → PfcpServer × List PfcpSessionEvent
  | .heartbeat payload => server.handleHeartbeat payload srcAddr
  | .associationSetup payload => server.handleAssociationSetupRequest payload srcAddr
  | .associationRelease => server.handleAssociationReleaseRequest srcAddr

namespace N4State

variable (state : N4State)

def new : N4State := ⟨.new, [], .new, true, ∅⟩

def receive (srcAddr : SocketAddr) (handled : PfcpServer × List PfcpSessionEvent) : N4State :=
  { state with
    server := handled.1
    queue := state.queue ++ handled.2.filterMap (N4Event.ofEvent srcAddr) }

def handle (now : ℕ) : N4Event → N4State
  | .established event smfAddr =>
    let handled := state.manager.handleSessionEstablished event now
    { state with
      manager := handled.1
      alive := handled.2
      owners := if event.ueIpv4.isSome then state.owners.insert event.upfSeid smfAddr
        else state.owners }
  | .peerFailure _ => { state with manager := state.manager.handlePeerFailure }

def handleNext (now : ℕ) : N4State :=
  match state.queue with
  | [] => state
  | event :: rest =>
    if state.alive then ({ state with queue := rest }).handle now event
    else { state with queue := rest }

end N4State

def N4Input.apply (state : N4State) : N4Input → N4State
  | .node message srcAddr => state.receive srcAddr (message.handled state.server srcAddr)
  | .sessionEstablishment payload srcAddr =>
    let handled := state.server.handleSessionEstablishmentRequest payload srcAddr
    state.receive srcAddr (handled.1, handled.2.2)
  | .handleEvent now => state.handleNext now

def n4 : Machine N4State N4Input Unit where
  step state input := (input.apply state, ())

def PfcpServer.holder : Option SocketAddr :=
  server.association.map PfcpAssociation.peerAddr

def NodeMessage.fails (srcAddr : SocketAddr) : NodeMessage → Bool
  | .heartbeat payload => (parseRecoveryTimeStamp payload).any (server.restarted srcAddr)
  | .associationSetup payload =>
    ((findIe (parseAll payload) NODE_ID).bind fun _ => parseRecoveryTimeStamp payload).any
      (server.restarted srcAddr)
  | .associationRelease => server.holder = some srcAddr

namespace N4State

variable (state : N4State)

/-- A session that is created is a new one, of the peer that holds the association. -/
def CreatesOwn (server : PfcpServer) (payload : Bytes) (srcAddr : SocketAddr) : Prop :=
  ∀ upfSeid createdPdrs, (server.handleSessionEstablishmentRequest payload srcAddr).2.1 =
        .accepted upfSeid createdPdrs →
      server.holder = some srcAddr ∧ server.sessions.lookup upfSeid = none

/-- The sessions of a peer that fails go, and no others; the data plane is told. -/
def RemovesOwn (message : NodeMessage) (srcAddr : SocketAddr) : Prop :=
  let next := N4Input.apply state (.node message srcAddr)
  (∀ seid, next.server.sessions.lookup seid =
      (state.server.sessions.lookup seid).filter fun info =>
        !(message.fails state.server srcAddr && info.smfAddr = srcAddr)) ∧
    next.queue = state.queue ++
      if message.fails state.server srcAddr then [.peerFailure srcAddr] else []

def FlushesOwn (now : ℕ) : Prop :=
  ∀ peer rest, state.queue = .peerFailure peer :: rest →
    ∀ seid, (state.handleNext now).manager.findBySeid seid =
      (state.manager.findBySeid seid).filter fun _ => state.owners.lookup seid ≠ some peer

/-- Sessions are created for their own peer, and go with it alone. -/
def Scoped : N4Input → Prop
  | .node message srcAddr => state.RemovesOwn message srcAddr
  | .sessionEstablishment payload srcAddr => CreatesOwn state.server payload srcAddr
  | .handleEvent now => state.FlushesOwn now

def Undisputed : N4Input → Prop
  | .node message srcAddr => message.fails state.server srcAddr = true →
      ∀ seid info, state.server.sessions.lookup seid = some info → info.smfAddr = srcAddr
  | .sessionEstablishment payload srcAddr =>
    ∀ smfSeid, state.server.admission (parseAll payload) = .ok smfSeid →
      state.server.holder = some srcAddr ∧ state.server.sessions.lookup state.server.nextSeid = none
  | .handleEvent _ => ∀ peer rest, state.queue = .peerFailure peer :: rest →
      state.alive = true ∨
        ∀ seid, state.owners.lookup seid = some peer → state.manager.findBySeid seid = none

end N4State

namespace PfcpServer

variable {server : PfcpServer} {srcAddr : SocketAddr}

lemma declarePeerFailure_eq (server : PfcpServer) (peer : SocketAddr) :
  server.declarePeerFailure peer = if server.holder = some peer then
      ({ server with association := none, sessions := ∅ }, [.peerFailure peer])
    else (server, []) := by
  unfold declarePeerFailure holder
  cases server.association with
  | none => rfl
  | some association =>
    by_cases own : association.peerAddr = peer
    · simp [own]
    · simp [own]

lemma holder_of_restarted {rts : UInt32} (restarted : server.restarted srcAddr rts = true) :
  server.holder = some srcAddr := by
  obtain ⟨association, isAssociation, both⟩ := (any_eq_true _ _).mp restarted
  rw [holder, isAssociation]
  exact congrArg some (of_decide_eq_true ((Bool.and_eq_true _ _).mp both).1)

lemma checkPeerRecovery_eq (server : PfcpServer) (srcAddr : SocketAddr) (rts : UInt32) :
  server.checkPeerRecovery srcAddr rts = if server.restarted srcAddr rts then
      ({ server with association := none, sessions := ∅ }, [.peerFailure srcAddr])
    else (server, []) := by
  unfold checkPeerRecovery
  by_cases restarted : server.restarted srcAddr rts = true
  · rw [if_pos restarted, if_pos restarted, declarePeerFailure_eq,
      if_pos (holder_of_restarted restarted)]
  · rw [if_neg restarted, if_neg restarted]

end PfcpServer

lemma PfcpServer.refused {server : PfcpServer} {payload : Bytes}
  {rejection : PfcpCause × Option UInt16}
  (refused : server.admission (parseAll payload) = .error rejection) (srcAddr : SocketAddr) :
  server.handleSessionEstablishmentRequest payload srcAddr =
    (server, .rejected rejection.1 rejection.2, []) := by
  simp only [handleSessionEstablishmentRequest, refused]

lemma PfcpServer.admitted {server : PfcpServer} {payload : Bytes} {smfSeid : UInt64}
  (admitted : server.admission (parseAll payload) = .ok smfSeid) (srcAddr : SocketAddr) :
  ∃ next info createdPdrs, server.handleSessionEstablishmentRequest payload srcAddr =
      (next, .accepted server.nextSeid createdPdrs,
        [.sessionEstablished (server.established smfSeid (parseAll payload))]) ∧
    next.sessions = server.sessions.insert server.nextSeid info ∧ info.smfAddr = srcAddr := by
  simp only [handleSessionEstablishmentRequest, admitted]
  exact ⟨_, _, _, rfl, rfl, rfl⟩

lemma NodeMessage.handled_eq (message : NodeMessage) (server : PfcpServer)
  (srcAddr : SocketAddr) :
  (message.handled server srcAddr).1.sessions =
      (if message.fails server srcAddr then ∅ else server.sessions) ∧
    (message.handled server srcAddr).2 =
      if message.fails server srcAddr then [.peerFailure srcAddr] else [] := by
  cases message with
  | heartbeat payload =>
    unfold handled fails PfcpServer.handleHeartbeat
    obtain parsed | ⟨rts, parsed⟩ := eq_none_or_eq_some (parseRecoveryTimeStamp payload)
    · simp [parsed]
    · simp only [parsed, any_some, PfcpServer.checkPeerRecovery_eq]
      split <;> exact ⟨rfl, rfl⟩
  | associationSetup payload =>
    unfold handled fails PfcpServer.handleAssociationSetupRequest
    obtain parsed | ⟨rts, parsed⟩ := eq_none_or_eq_some
      ((findIe (parseAll payload) NODE_ID).bind fun _ => parseRecoveryTimeStamp payload)
    · simp [parsed]
    · simp only [parsed, any_some, PfcpServer.checkPeerRecovery_eq]
      split <;> exact ⟨rfl, rfl⟩
  | associationRelease =>
    unfold handled fails PfcpServer.handleAssociationReleaseRequest
    rw [PfcpServer.declarePeerFailure_eq]
    by_cases holds : server.holder = some srcAddr
    · simp [holds]
    · simp [holds]

namespace SessionManager

variable {manager : SessionManager}

def Numbered (manager : SessionManager) : Prop :=
  ∀ seid arc, manager.seidMap.lookup seid = some arc →
    ∃ session, manager.arcs[arc]? = some session ∧ session.upfSeid = seid

lemma Numbered.findBySeid_eq_none_iff (numbered : manager.Numbered) (seid : UInt64) :
  manager.findBySeid seid = none ↔ manager.seidMap.lookup seid = none := by
  unfold findBySeid
  cases entry : manager.seidMap.lookup seid with
  | none => exact ⟨fun _ => rfl, fun _ => rfl⟩
  | some arc =>
    obtain ⟨session, held, -⟩ := numbered seid arc entry
    simp [share, held]

lemma Numbered.addSession (numbered : manager.Numbered) (session : DataPlaneSession) :
  (manager.addSession session).Numbered := by
  intro seid arc entry
  rcases of_assign ((congrFun (lookup_insert_eq _ _ _) seid).symm.trans entry) with
    ⟨own, rfl⟩ | ⟨-, before⟩
  · exact ⟨session, getElem?_concat_length, Option.some.inj own⟩
  · obtain ⟨old, held, own⟩ := numbered seid arc before
    exact ⟨old, (getElem?_append_left (List.getElem?_eq_some_iff.mp held).1).trans held, own⟩

lemma Numbered.write (numbered : manager.Numbered) {arc : ℕ} {old session : DataPlaneSession}
  (held : manager.arcs[arc]? = some old) (sameSeid : session.upfSeid = old.upfSeid) :
  (manager.write arc session).Numbered := by
  intro seid other entry
  obtain ⟨found, isFound, own⟩ := numbered seid other entry
  by_cases same : other = arc
  · subst same
    obtain rfl := Option.some.inj (held.symm.trans isFound)
    exact ⟨session, getElem?_set_self (List.getElem?_eq_some_iff.mp held).1, sameSeid.trans own⟩
  · exact ⟨found, (getElem?_set_ne (Ne.symm same)).trans isFound, own⟩

lemma compiled_of_goesOn {event : SessionEstablished} {now : ℕ} {ueIp : UInt32}
  (address : event.ueIpv4 = some ueIp)
  (goesOn : (manager.handleSessionEstablished event now).2 = true) :
  ∃ pdrs, event.pdrs.mapM ParsedCreatePdr.install = some pdrs := by
  rw [← isSome_iff_exists, isSome_iff_ne_none]
  intro panics
  have found := manager.findBySeid_addSession
    (.fromPfcp event ueIp ⟨.v4 (event.gnbAddr.getD defaultGnbAddr), GTPU_PORT⟩)
  change (manager.addSession _).findBySeid event.upfSeid = _ at found
  simp only [handleSessionEstablished, address, found, panics, Bool.false_eq_true] at goesOn

section

variable (numbered : manager.Numbered)

include numbered

lemma handleSessionEstablished_cases (event : SessionEstablished) (now : ℕ)
  (goesOn : (manager.handleSessionEstablished event now).2 = true) :
  (manager.handleSessionEstablished event now).1.Numbered ∧
    (manager.handleSessionEstablished event now).1.seidMap.lookup =
      assign manager.seidMap.lookup manager.arcs.length
        (if event.ueIpv4.isSome then some event.upfSeid else none) := by
  cases address : event.ueIpv4 with
  | none =>
    rw [handleSessionEstablished, address]
    exact ⟨numbered, rfl⟩
  | some ueIp =>
    obtain ⟨pdrs, compiled⟩ := compiled_of_goesOn address goesOn
    obtain ⟨session, seid, -, -, after⟩ :=
      manager.handleSessionEstablished_eq now address compiled
    rw [after, ← seid]
    exact ⟨(numbered.addSession session).write getElem?_concat_length rfl, lookup_insert_eq _ _ _⟩

lemma lookup_removeSessionBySeid (removed seid : UInt64) :
  (manager.removeSessionBySeid removed).seidMap.lookup seid =
    if seid = removed then none else manager.seidMap.lookup seid := by
  unfold removeSessionBySeid
  by_cases same : seid = removed
  · subst same
    rw [if_pos rfl]
    cases found : manager.findBySeid seid with
    | none => exact (numbered.findBySeid_eq_none_iff seid).mp found
    | some gone => exact lookup_erase seid manager.seidMap
  · rw [if_neg same]
    cases manager.findBySeid removed with
    | none => rfl
    | some gone => exact lookup_erase_ne same

lemma Numbered.removeSessionBySeid (removed : UInt64) :
  (manager.removeSessionBySeid removed).Numbered := by
  intro seid arc entry
  rw [lookup_removeSessionBySeid numbered] at entry
  split at entry
  · cases entry
  · obtain ⟨session, held, own⟩ := numbered seid arc entry
    refine ⟨session, ?_, own⟩
    unfold SessionManager.removeSessionBySeid
    split
    · exact held
    · exact held

lemma removeAll_cases (seids : List UInt64) :
  (seids.foldl removeSessionBySeid manager).Numbered ∧
    ∀ seid, (seids.foldl removeSessionBySeid manager).seidMap.lookup seid =
      if seid ∈ seids then none else manager.seidMap.lookup seid := by
  induction seids generalizing manager with
  | nil => exact ⟨numbered, fun seid => (if_neg not_mem_nil).symm⟩
  | cons removed rest ih =>
    obtain ⟨stays, lookups⟩ := ih (numbered.removeSessionBySeid removed)
    refine ⟨stays, fun seid => ?_⟩
    rw [foldl_cons, lookups, lookup_removeSessionBySeid numbered]
    by_cases same : seid = removed
    · simp [same]
    · simp [same]

lemma Numbered.mem_allSeids {seid : UInt64} {arc : ℕ}
  (entry : manager.seidMap.lookup seid = some arc) : seid ∈ manager.allSeids := by
  obtain ⟨session, held, own⟩ := numbered seid arc entry
  refine mem_map.mpr ⟨⟨arc, session⟩, mem_filterMap.mpr ⟨⟨seid, arc⟩, ?_, ?_⟩, own⟩
  · exact mem_lookup_iff.mp entry
  · exact share_eq_some_iff.mpr ⟨rfl, held⟩

lemma handlePeerFailure_cases : manager.handlePeerFailure.Numbered ∧
    manager.handlePeerFailure.seidMap.lookup = fun _ => none := by
  obtain ⟨stays, lookups⟩ := removeAll_cases numbered manager.allSeids
  refine ⟨stays, funext fun seid => ?_⟩
  rw [handlePeerFailure, lookups]
  cases entry : manager.seidMap.lookup seid with
  | none => exact ite_self none
  | some arc => exact if_pos (numbered.mem_allSeids entry)

end

end SessionManager

def N4Event.owners (owned : UInt64 → Option SocketAddr) : N4Event → UInt64 → Option SocketAddr
  | .established event smfAddr => fun seid =>
    if event.ueIpv4.isSome ∧ seid = event.upfSeid then some smfAddr else owned seid
  | .peerFailure _ => fun _ => none

lemma N4Event.of_owners_established {owned : UInt64 → Option SocketAddr}
  {event : SessionEstablished} {smfAddr addr : SocketAddr} {seid : UInt64}
  (isOwned : (N4Event.established event smfAddr).owners owned seid = some addr) :
  (seid = event.upfSeid ∧ smfAddr = addr) ∨ owned seid = some addr := by
  simp only [owners] at isOwned
  split at isOwned
  · next both => exact .inl ⟨both.2, Option.some.inj isOwned⟩
  · exact .inr isOwned

def ownership : Machine (UInt64 → Option SocketAddr) N4Event Unit where
  step owned event := (event.owners owned, ())

def SoleOwner (owned : UInt64 → Option SocketAddr) (event : N4Event) : Prop :=
  ∀ peer, event = .peerFailure peer → ∀ seid addr, owned seid = some addr → addr = peer

namespace N4State

variable {now : ℕ} {input : N4Input}

def owned (state : N4State) (seid : UInt64) : Option SocketAddr :=
  (state.manager.seidMap.lookup seid).bind fun _ => state.owners.lookup seid

structure Invariant (state : N4State) : Prop where
  numbered : state.manager.Numbered
  owners : ∀ seid, state.manager.seidMap.lookup seid ≠ none → state.owners.lookup seid ≠ none
  /-- When the data plane comes to a failure, all its sessions will be of the peer. -/
  sole : ownership.Along SoleOwner state.owned state.queue
  known : ∀ seid addr, ownership.run state.owned state.queue seid = some addr →
    ∃ info, state.server.sessions.lookup seid = some info ∧ info.smfAddr = addr

def Tracked (state : N4State) : Prop := state.alive = true → state.Invariant

variable {state : N4State}

lemma apply_node (state : N4State) (message : NodeMessage) (srcAddr : SocketAddr) :
  (N4Input.apply state (.node message srcAddr)).server.sessions =
      (if message.fails state.server srcAddr then ∅ else state.server.sessions) ∧
    (N4Input.apply state (.node message srcAddr)).queue =
      state.queue ++ if message.fails state.server srcAddr then [.peerFailure srcAddr]
        else [] := by
  obtain ⟨sessions, events⟩ := message.handled_eq state.server srcAddr
  refine ⟨sessions, congrArg (state.queue ++ ·) ?_⟩
  rw [events]
  cases message.fails state.server srcAddr with
  | false => rfl
  | true => rfl

lemma node_invariant (invariant : state.Invariant) {message : NodeMessage}
  {srcAddr : SocketAddr} (undisputed : state.Undisputed (.node message srcAddr)) :
  (N4Input.apply state (.node message srcAddr)).Invariant := by
  obtain ⟨sessions, queue⟩ := state.apply_node message srcAddr
  have same : (N4Input.apply state (.node message srcAddr)).owned = state.owned := rfl
  refine ⟨invariant.numbered, invariant.owners, ?_, ?_⟩
  · rw [queue, same, ownership.along_append]
    refine ⟨invariant.sole, ?_⟩
    cases fails : message.fails state.server srcAddr with
    | false => trivial
    | true =>
      refine ⟨?_, trivial⟩
      rintro peer isFailure seid addr isOwned
      cases isFailure
      obtain ⟨info, known, rfl⟩ := invariant.known seid addr isOwned
      exact undisputed fails seid info known
  · rw [queue, sessions, same, ownership.run_append]
    cases message.fails state.server srcAddr with
    | false => exact invariant.known
    | true => exact fun seid addr isOwned => nomatch isOwned

lemma establishment_invariant (invariant : state.Invariant) {payload : Bytes}
  {srcAddr : SocketAddr}
  (undisputed : state.Undisputed (.sessionEstablishment payload srcAddr)) :
  (N4Input.apply state (.sessionEstablishment payload srcAddr)).Invariant := by
  unfold N4Input.apply
  cases admission : state.server.admission (parseAll payload) with
  | error rejection =>
    simp only [PfcpServer.refused admission, receive, filterMap_nil, append_nil]
    exact invariant
  | ok smfSeid =>
    obtain ⟨-, unused⟩ := undisputed smfSeid admission
    obtain ⟨next, info, createdPdrs, handled, sessions, own⟩ :=
      PfcpServer.admitted admission srcAddr
    simp only [handled]
    refine ⟨invariant.numbered, invariant.owners, ?_, ?_⟩
    · refine (ownership.along_append _ _ _ _).mpr ⟨invariant.sole, ?_, trivial⟩
      intro peer isFailure
      cases isFailure
    · intro seid addr isOwned
      change ∃ info, next.sessions.lookup seid = some info ∧ info.smfAddr = addr
      change (ownership.run state.owned (state.queue ++ [.established
        (state.server.established smfSeid (parseAll payload)) srcAddr])) seid = _ at isOwned
      rw [sessions]
      rw [ownership.run_append] at isOwned
      rcases N4Event.of_owners_established isOwned with ⟨rfl, rfl⟩ | isOwned
      · exact ⟨info, lookup_insert _, own⟩
      · obtain ⟨kept, known, rfl⟩ := invariant.known seid addr isOwned
        have other : seid ≠ state.server.nextSeid := by
          intro same
          rw [same, unused] at known
          cases known
        exact ⟨kept, (lookup_insert_ne other).trans known, rfl⟩

lemma handle_cases {event : N4Event} (goesOn : (state.handle now event).alive = true)
  (numbered : state.manager.Numbered)
  (owners : ∀ seid, state.manager.seidMap.lookup seid ≠ none → state.owners.lookup seid ≠ none) :
  (state.handle now event).manager.Numbered ∧
    (∀ seid, (state.handle now event).manager.seidMap.lookup seid ≠ none →
      (state.handle now event).owners.lookup seid ≠ none) ∧
    (state.handle now event).owned = event.owners state.owned := by
  cases event with
  | established event smfAddr =>
    obtain ⟨stays, lookups⟩ :=
      SessionManager.handleSessionEstablished_cases numbered event now goesOn
    have seids (seid : UInt64) :
        (state.handle now (.established event smfAddr)).manager.seidMap.lookup seid = _ :=
      congrFun lookups seid
    have after : (state.handle now (.established event smfAddr)).owners =
        if event.ueIpv4.isSome then state.owners.insert event.upfSeid smfAddr
        else state.owners := rfl
    have other {seid : UInt64} (differs : seid ≠ event.upfSeid) :
        some event.upfSeid ≠ some seid := fun same => differs (Option.some.inj same).symm
    refine ⟨stays, fun seid => ?_, funext fun seid => ?_⟩
    · rw [seids, after]
      by_cases hasAddress : event.ueIpv4.isSome
      · rw [if_pos hasAddress, if_pos hasAddress]
        by_cases own : seid = event.upfSeid
        · rw [own, lookup_insert]
          nofun
        · rw [lookup_insert_ne own, assign_of_ne (other own)]
          exact owners seid
      · rw [if_neg hasAddress, if_neg hasAddress]
        exact owners seid
    · unfold owned N4Event.owners
      dsimp only
      rw [seids, after]
      by_cases hasAddress : event.ueIpv4.isSome
      · rw [if_pos hasAddress, if_pos hasAddress]
        by_cases own : seid = event.upfSeid
        · rw [own, assign_self, lookup_insert, if_pos ⟨hasAddress, rfl⟩]
          rfl
        · rw [lookup_insert_ne own, assign_of_ne (other own), if_neg fun both => own both.2]
      · rw [if_neg hasAddress, if_neg hasAddress, if_neg fun both => hasAddress both.1]
        rfl
  | peerFailure peer =>
    obtain ⟨stays, lookups⟩ := SessionManager.handlePeerFailure_cases numbered
    have seids (seid : UInt64) :
        (state.handle now (.peerFailure peer)).manager.seidMap.lookup seid = none :=
      congrFun lookups seid
    refine ⟨stays, fun seid present => absurd (seids seid) present, funext fun seid => ?_⟩
    rw [owned, seids]
    rfl

lemma handleNext_eq {event : N4Event} {rest : List N4Event} (queue : state.queue = event :: rest)
  (now : ℕ) :
  state.handleNext now =
    if state.alive then ({ state with queue := rest } : N4State).handle now event
    else { state with queue := rest } := by
  simp only [handleNext, queue]

lemma handleNext_tracked (tracked : state.Tracked) (now : ℕ) :
  (state.handleNext now).Tracked := by
  cases queue : state.queue with
  | nil =>
    simp only [handleNext, queue]
    exact tracked
  | cons event rest =>
    rw [handleNext_eq queue]
    by_cases alive : state.alive = true
    · rw [if_pos alive]
      intro goesOn
      obtain ⟨numbered, owners, sole, known⟩ := tracked alive
      rw [queue] at sole known
      obtain ⟨stays, stillOwners, owned⟩ :=
        handle_cases goesOn numbered owners
      have tail : (({ state with queue := rest } : N4State).handle now event).queue = rest := by
        cases event <;> rfl
      have server : (({ state with queue := rest } : N4State).handle now event).server =
          state.server := by
        cases event <;> rfl
      refine ⟨stays, stillOwners, ?_, ?_⟩
      · rw [owned, tail]
        exact sole.2
      · rw [owned, tail, server]
        exact known
    · rw [if_neg alive]
      exact fun isAlive => absurd isAlive alive

lemma step_tracked (tracked : state.Tracked) (undisputed : state.Undisputed input) :
  (input.apply state).Tracked := by
  cases input with
  | node message srcAddr => exact fun alive => node_invariant (tracked alive) undisputed
  | sessionEstablishment payload srcAddr =>
    exact fun alive => establishment_invariant (tracked alive) undisputed
  | handleEvent now => exact handleNext_tracked tracked now

lemma removesOwn_iff (message : NodeMessage) (srcAddr : SocketAddr) :
  state.RemovesOwn message srcAddr ↔ state.Undisputed (.node message srcAddr) := by
  obtain ⟨sessions, queue⟩ := state.apply_node message srcAddr
  unfold RemovesOwn
  dsimp only
  rw [sessions, queue, and_iff_left rfl, Undisputed]
  cases message.fails state.server srcAddr with
  | false =>
    refine iff_of_true (fun seid => ?_) nofun
    change state.server.sessions.lookup seid = _
    cases state.server.sessions.lookup seid with
    | none => rfl
    | some info => rfl
  | true =>
    constructor
    · intro gone _ seid info found
      have filtered := (gone seid).symm
      rw [found, filter_some] at filtered
      by_contra other
      simp [other] at filtered
    · intro own seid
      refine (filter_eq_none_iff.mpr fun info found => ?_).symm
      simp [own rfl seid info found]

lemma createsOwn_iff (payload : Bytes) (srcAddr : SocketAddr) :
  CreatesOwn state.server payload srcAddr ↔
    state.Undisputed (.sessionEstablishment payload srcAddr) := by
  unfold CreatesOwn Undisputed
  cases admission : state.server.admission (parseAll payload) with
  | error rejection =>
    rw [PfcpServer.refused admission]
    refine iff_of_true (fun _ _ accepted => ?_) (fun _ admitted => ?_)
    · cases accepted
    · cases admission.symm.trans admitted
  | ok smfSeid =>
    obtain ⟨next, info, createdPdrs, handled, -, -⟩ := PfcpServer.admitted admission srcAddr
    rw [handled]
    constructor
    · exact fun creates _ _ => creates _ _ rfl
    · intro own upfSeid _ accepted
      cases accepted
      exact own smfSeid admission

lemma flushesOwn_of_undisputed (tracked : state.Tracked)
  (undisputed : state.Undisputed (.handleEvent now)) : state.FlushesOwn now := by
  intro peer rest queue seid
  rw [handleNext_eq queue]
  by_cases alive : state.alive = true
  · obtain ⟨numbered, owners, sole, -⟩ := tracked alive
    rw [queue] at sole
    rw [if_pos alive]
    obtain ⟨stays, lookups⟩ := SessionManager.handlePeerFailure_cases numbered
    have nothing : state.manager.handlePeerFailure.findBySeid seid = none :=
      (stays.findBySeid_eq_none_iff seid).mpr (congrFun lookups seid)
    change state.manager.handlePeerFailure.findBySeid seid = _
    rw [nothing]
    cases found : state.manager.findBySeid seid with
    | none => rfl
    | some shared =>
      -- What is there has an owner, and the failed peer is the only one.
      have present : state.manager.seidMap.lookup seid ≠ none := by
        intro missing
        rw [(numbered.findBySeid_eq_none_iff seid).mpr missing] at found
        cases found
      obtain ⟨arc, entry⟩ := ne_none_iff_exists'.mp present
      obtain ⟨addr, isOwner⟩ := ne_none_iff_exists'.mp (owners seid present)
      have isOwned : state.owned seid = some addr := by
        rw [owned, entry, isOwner]
        rfl
      rw [isOwner, sole.1 peer rfl seid addr isOwned]
      simp
  · rw [if_neg alive]
    change state.manager.findBySeid seid = _
    cases found : state.manager.findBySeid seid with
    | none => rfl
    | some shared =>
      have other : state.owners.lookup seid ≠ some peer := by
        intro isOwner
        rcases undisputed peer rest queue with isAlive | nothing
        · exact alive isAlive
        · rw [nothing seid isOwner] at found
          cases found
      rw [filter_some, if_pos (decide_eq_true other)]

lemma undisputed_of_flushesOwn (flushes : state.FlushesOwn now) :
  state.Undisputed (.handleEvent now) := by
  intro peer rest queue
  by_cases alive : state.alive = true
  · exact .inl alive
  · refine .inr fun seid isOwner => ?_
    have stays := flushes peer rest queue seid
    rw [handleNext_eq queue, if_neg alive] at stays
    change state.manager.findBySeid seid = _ at stays
    rw [stays]
    cases state.manager.findBySeid seid with
    | none => rfl
    | some shared => simp [isOwner]

lemma scoped_of_undisputed (tracked : state.Tracked) (undisputed : state.Undisputed input) :
  state.Scoped input := by
  cases input with
  | node message srcAddr => exact (removesOwn_iff message srcAddr).mpr undisputed
  | sessionEstablishment payload srcAddr => exact (createsOwn_iff payload srcAddr).mpr undisputed
  | handleEvent now => exact flushesOwn_of_undisputed tracked undisputed

lemma undisputed_of_scoped (own : state.Scoped input) : state.Undisputed input := by
  cases input with
  | node message srcAddr => exact (removesOwn_iff message srcAddr).mp own
  | sessionEstablishment payload srcAddr => exact (createsOwn_iff payload srcAddr).mp own
  | handleEvent now => exact undisputed_of_flushesOwn own

lemma new_tracked : new.Tracked := by
  intro _
  refine ⟨?_, ?_, trivial, ?_⟩
  · intro seid arc entry
    cases entry
  · intro seid present
    exact absurd rfl present
  · intro seid addr isOwned
    cases isOwned

/-- In a run the sessions are created for the holder of the association, and a peer that fails takes
its own and no others, if and only if the holder sends every request that is admitted, under a new
SEID, and whenever a peer fails all sessions are its own; a data plane that panicked before it
takes up the failure has none of them. -/
theorem sessions_scoped (inputs : List N4Input) :
  n4.Along Scoped new inputs ↔ n4.Along Undisputed new inputs := by
  constructor
  · exact n4.along_imp fun _ _ => undisputed_of_scoped
  · have preserved (state : N4State) (input : N4Input) (tracked : state.Tracked)
        (undisputed : state.Undisputed input) : (n4.step state input).1.Tracked :=
      step_tracked tracked undisputed
    exact n4.along_of_invariant preserved
      (fun _ _ tracked undisputed => scoped_of_undisputed tracked undisputed) new_tracked

def setup : Bytes :=
  [0, 60, 0, 5, 0, 10, 0, 0, 1] ++ [0, 96, 0, 4, 0, 0, 0, 1]

def smf (host : UInt32) : SocketAddr := ⟨.v4 host, 8805⟩

/-- One SMF establishes a session, and another sets up an association and releases it; one SMF
sets up an association, and another establishes a session. -/
theorem other_smf_loses_session : ¬ n4.Along Scoped new
      [.node (.associationSetup setup) (smf 1), .sessionEstablishment PfcpServer.onePdr (smf 1),
        .node (.associationSetup setup) (smf 2), .node .associationRelease (smf 2)] ∧
    ¬ n4.Along Scoped new
      [.node (.associationSetup setup) (smf 2), .sessionEstablishment PfcpServer.onePdr (smf 1)] := by
  constructor
  · rintro ⟨-, -, -, released, -⟩
    exact absurd (released.1 1) (by decide)
  · rintro ⟨-, created, -⟩
    exact absurd (created 1 [⟨1, none⟩] (by decide)).1 (by decide)

end N4State

end NextGCore.Upf
