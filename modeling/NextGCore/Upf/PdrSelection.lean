import NextGCore.Library.Ordered
import NextGCore.Upf.Establishment

/-!
# The PDR of an uplink packet

The PDRs of a session are sorted by their precedence when they are installed, so that the first
one that matches is the one to be applied.  A PDR with a QFI is meant for the packets that carry
it; a packet that carries none is matched by it nevertheless.
-/

namespace NextGCore.Upf

open Library SessionManager

variable {requested : List DataPlanePdr}

def ByPrecedence (first second : DataPlanePdr) : Prop := first.precedence ≤ second.precedence

instance : DecidableRel ByPrecedence := fun first second =>
  inferInstanceAs (Decidable (first.precedence ≤ second.precedence))

instance : Std.Total ByPrecedence where
  total first second := UInt32.le_total first.precedence second.precedence

instance : IsTrans DataPlanePdr ByPrecedence where
  trans _ _ _ := UInt32.le_trans

def SessionEstablished.requestedPdrs (event : SessionEstablished) : Option (List DataPlanePdr) :=
  (event.pdrs.mapM ParsedCreatePdr.install).map fun pdrs =>
    if pdrs.isEmpty then defaultPdrs else pdrs

/-- The session is found once the event that requests its PDRs is handled. -/
def Installed (requested : List DataPlanePdr) (session : DataPlaneSession) : Prop :=
  ∃ (manager : SessionManager) (event : SessionEstablished) (now : ℕ),
    event.requestedPdrs = some requested ∧ event.ueIpv4.isSome = true ∧
      ((manager.handleSessionEstablished event now).1.findBySeid event.upfSeid).map
        SharedSession.session = some session

namespace DataPlanePdr

variable {packet : Option PacketTuple}

def admits (packet : Option PacketTuple) (pdr : DataPlanePdr) : Bool :=
  pdr.sourceInterface == SRC_INTF_ACCESS && DataPlaneSession.sdfMatches pdr.sdfRule packet

def eligibleFor (packet : Option PacketTuple) (pktQfi : Option UInt8) (pdr : DataPlanePdr) : Bool :=
  pdr.admits packet && pdr.qfi.all fun qfi => pktQfi == some qfi

lemma eligible_some {qfi : UInt8} :
  eligibleFor packet (some qfi) = fun pdr => pdr.sourceInterface == SRC_INTF_ACCESS &&
    DataPlaneSession.qfiMatches pdr.qfi (some qfi) &&
    DataPlaneSession.sdfMatches pdr.sdfRule packet := by
  funext pdr
  rw [eligibleFor, admits, Bool.and_right_comm]
  congr 2
  cases pdr.qfi with
  | none => rfl
  | some wanted => exact Bool.beq_comm

lemma eligible_none (pdr : DataPlanePdr) :
  pdr.eligibleFor packet none = true ↔ pdr.admits packet = true ∧ pdr.qfi = none := by
  rw [eligibleFor, Bool.and_eq_true]
  cases pdr.qfi <;> simp

lemma matches_none :
  (fun pdr => pdr.sourceInterface == SRC_INTF_ACCESS &&
    DataPlaneSession.qfiMatches pdr.qfi none &&
    DataPlaneSession.sdfMatches pdr.sdfRule packet) = admits packet := by
  funext pdr
  rw [admits, DataPlaneSession.qfiMatches]
  cases pdr.qfi <;> simp

end DataPlanePdr

lemma Installed.pdrs_eq {session : DataPlaneSession} (installed : Installed requested session) :
  session.pdrs = sortPdrs requested := by
  obtain ⟨manager, event, now, requests, address, found⟩ := installed
  obtain ⟨ueIp, address⟩ := Option.isSome_iff_exists.mp address
  obtain ⟨pdrs, compiled, rfl⟩ := Option.map_eq_some_iff.mp requests
  obtain ⟨added, seid, -, addedPdrs, after⟩ :=
    manager.handleSessionEstablished_eq now address compiled
  rw [after, ← seid, (manager.found_write_addSession added _).1] at found
  obtain rfl := Option.some.inj found
  dsimp only
  rw [DataPlaneSession.install, addedPdrs]
  dsimp only
  split <;> rfl

lemma exists_installed {event : SessionEstablished}
  (requests : event.requestedPdrs = some requested) (address : event.ueIpv4.isSome = true) :
  ∃ session, Installed requested session := by
  obtain ⟨ueIp, isAddress⟩ := Option.isSome_iff_exists.mp address
  obtain ⟨pdrs, compiled, -⟩ := Option.map_eq_some_iff.mp requests
  obtain ⟨added, seid, -, -, after⟩ :=
    new.handleSessionEstablished_eq 0 isAddress compiled
  have found : ((new.handleSessionEstablished event 0).1.findBySeid
      event.upfSeid).map SharedSession.session = some (added.install event pdrs 0) := by
    rw [after, ← seid, (new.found_write_addSession added _).1, Option.map_some]
  exact ⟨added.install event pdrs 0, new, event, 0, requests, address, found⟩

namespace DataPlaneSession

variable {requested : List DataPlanePdr} {session : DataPlaneSession}

lemma find_pdr_iff (installed : Installed requested session) (eligible : DataPlanePdr → Bool)
  (pdr : DataPlanePdr) :
  session.pdrs.find? eligible = some pdr ↔ Selected ByPrecedence eligible requested pdr := by
  rw [installed.pdrs_eq]
  exact find?_insertionSort requested pdr

lemma find_pdr_eq_none (installed : Installed requested session)
  (eligible : DataPlanePdr → Bool) :
  session.pdrs.find? eligible = none ↔ ∀ pdr ∈ requested, eligible pdr = false := by
  rw [installed.pdrs_eq]
  have absent : (requested.insertionSort ByPrecedence).find? eligible = none ↔
      ∀ pdr ∈ requested, eligible pdr = false := find?_insertionSort_eq_none requested
  exact absent

/-- The packet finds the PDR that is selected from those whose QFI it carries. -/
def SelectsPdr (session : DataPlaneSession) (requested : List DataPlanePdr)
  (packet : Option PacketTuple) (pktQfi : Option UInt8) : Prop :=
  (∀ pdr, session.matchPdrWithPacket SRC_INTF_ACCESS packet pktQfi = some pdr ↔
    Selected ByPrecedence (DataPlanePdr.eligibleFor packet pktQfi) requested pdr) ∧
  (session.matchPdrWithPacket SRC_INTF_ACCESS packet pktQfi = none ↔
    ∀ pdr ∈ requested, pdr.eligibleFor packet pktQfi = false)

lemma selectsPdr_some (installed : Installed requested session) (packet : Option PacketTuple)
  (qfi : UInt8) : session.SelectsPdr requested packet (some qfi) := by
  unfold SelectsPdr matchPdrWithPacket
  rw [← DataPlanePdr.eligible_some]
  exact ⟨find_pdr_iff installed _, find_pdr_eq_none installed _⟩

lemma selectsPdr_none_iff (installed : Installed requested session)
  (packet : Option PacketTuple) :
  session.SelectsPdr requested packet none ↔
    ∀ pdr, Selected ByPrecedence (DataPlanePdr.admits packet) requested pdr → pdr.qfi = none := by
  unfold SelectsPdr matchPdrWithPacket
  rw [DataPlanePdr.matches_none, find_pdr_eq_none installed]
  simp only [find_pdr_iff installed]
  constructor
  · rintro ⟨selects, -⟩ pdr selected
    have eligible := ((selects pdr).mp selected).isEligible
    exact (DataPlanePdr.eligible_none pdr).mp eligible |>.2
  · intro unmarked
    have narrowed (pdr : DataPlanePdr)
        (selected : Selected ByPrecedence (DataPlanePdr.admits packet) requested pdr) :
        Selected ByPrecedence (DataPlanePdr.eligibleFor packet none) requested pdr :=
      selected.narrow ((DataPlanePdr.eligible_none pdr).mpr
        ⟨selected.isEligible, unmarked pdr selected⟩) fun other eligible =>
        ((DataPlanePdr.eligible_none other).mp eligible).1
    -- what is eligible is admitted, so that one of the admitted is selected
    have selected_of_eligible (pdr : DataPlanePdr) (inside : pdr ∈ requested)
        (eligible : pdr.eligibleFor packet none = true) :
        ∃ best, Selected ByPrecedence (DataPlanePdr.admits packet) requested best :=
      exists_selected inside ((DataPlanePdr.eligible_none pdr).mp eligible).1
    constructor
    · intro pdr
      refine ⟨narrowed pdr, fun selected => ?_⟩
      obtain ⟨best, bestSelected⟩ := selected_of_eligible pdr selected.mem selected.isEligible
      obtain rfl := selected.unique (narrowed best bestSelected)
      exact bestSelected
    · refine ⟨fun noneAdmitted pdr inside => ?_, fun noneEligible pdr inside => ?_⟩
      · rw [DataPlanePdr.eligibleFor, noneAdmitted pdr inside, Bool.false_and]
      · by_contra admitted
        obtain ⟨best, selected⟩ : ∃ best,
            Selected ByPrecedence (DataPlanePdr.admits packet) requested best :=
          exists_selected inside (Bool.not_eq_false _ ▸ admitted)
        have eligible := (narrowed best selected).isEligible
        rw [noneEligible best selected.mem] at eligible
        cases eligible

end DataPlaneSession

/-- A packet without a QFI finds a PDR that asks for one unless each such PDR comes after one that
asks for none. -/
theorem matchPdrWithPacket_selects_iff {requested : List DataPlanePdr}
  {session : DataPlaneSession} (installed : Installed requested session)
  (packet : Option PacketTuple) (pktQfi : Option UInt8) :
  session.SelectsPdr requested packet pktQfi ↔
    pktQfi ≠ none ∨ ∀ pdr ∈ requested.zipIdx, pdr.1.admits packet = true → pdr.1.qfi ≠ none →
      ∃ other ∈ requested.zipIdx, other.1.admits packet = true ∧ other.1.qfi = none ∧
        ComesBefore ByPrecedence other pdr := by
  cases pktQfi with
  | none =>
    rw [DataPlaneSession.selectsPdr_none_iff installed,
      forall_selected_iff fun pdr : DataPlanePdr => pdr.qfi = none]
    simp only [ne_eq, not_true_eq_false, false_or]
  | some qfi =>
    exact iff_of_true (DataPlaneSession.selectsPdr_some installed packet qfi) (.inl nofun)

def requestOfFlow : SessionEstablished where
  upfSeid := 1
  smfSeid := 7
  ueIpv4 := some 0x0A2D0002
  ulTeid := 0x10000
  dlTeid := 0
  gnbAddr := none
  pdrs := [⟨1, 255, ⟨SRC_INTF_ACCESS, none, none, none, some 5, none⟩, none, none, [], none⟩]
  fars := []
  qers := []
  urrs := []
  bars := []

def flowPdr : DataPlanePdr := ⟨1, 255, SRC_INTF_ACCESS, none, none, [], none, some 5⟩

def dnsTuple : PacketTuple := ⟨0x0A2D0002, 0x08080808, 17, 40000, 53⟩

lemma requestedPdrs_requestOfFlow : requestOfFlow.requestedPdrs = some [flowPdr] := by
  simp [SessionEstablished.requestedPdrs, requestOfFlow, ParsedCreatePdr.install, compileSdf,
    flowPdr]

/-- A packet of the flow finds its PDR. -/
theorem flow_selectsPdr : ∃ session, Installed [flowPdr] session ∧
    session.SelectsPdr [flowPdr] (some dnsTuple) (some 5) := by
  obtain ⟨session, installed⟩ := exists_installed requestedPdrs_requestOfFlow rfl
  exact ⟨session, installed, (matchPdrWithPacket_selects_iff installed _ (some 5)).mpr (.inl nofun)⟩

/-- A packet that carries no QFI finds the PDR of the flow. -/
theorem unmarked_packet_finds_flow :
  ¬ ∀ requested session, Installed requested session → ∀ packet pktQfi,
    session.SelectsPdr requested packet pktQfi := by
  intro selects
  obtain ⟨session, installed⟩ := exists_installed requestedPdrs_requestOfFlow rfl
  have unmarked := (DataPlaneSession.selectsPdr_none_iff installed (some dnsTuple)).mp
    (selects [flowPdr] session installed (some dnsTuple) none)
  have selected : Selected ByPrecedence (DataPlanePdr.admits (some dnsTuple)) [flowPdr] flowPdr :=
    ⟨[], [], rfl, rfl, List.forall_mem_nil _, List.forall_mem_nil _⟩
  exact absurd (unmarked flowPdr selected) nofun

end NextGCore.Upf
