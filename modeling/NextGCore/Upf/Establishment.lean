import NextGCore.Upf.PfcpServer

/-!
# Session establishments in full

A request that is accepted is honoured in full when each of its rules is found in the session of
the data plane, each SDF filter as a rule that restricts, and each TEID that the UPF chose leads
to the session.
-/

namespace NextGCore.Upf

open Library ParsedIe PfcpIe List Option ParsedUeIpAddr

variable (ie : ParsedIe) (next : UInt32)

section Rules

variable {Rule Record Key : Type} [DecidableEq Key] {key : Record → Key}
  {parse : Bytes → Except String Rule} {install : Rule → Record} {ies : List ParsedIe}
  {ieType : UInt16}

lemma lookup_tableOf {records : List Record} {record : Record} (member : record ∈ records)
  (agree : ∀ other ∈ records, key other = key record → other = record) :
  (tableOf records : KeyedTable Record key).lookup (key record) = some record := by
  have named : record ∈ records.filter fun other => key other = key record :=
    mem_filter.mpr ⟨member, by simp⟩
  obtain ⟨last, isLast⟩ := isSome_iff_exists.mp
    (getLast?_isSome.mpr (ne_nil_of_mem named))
  obtain ⟨inside, same⟩ := mem_filter.mp (List.mem_of_getLast? isLast)
  rw [tableOf, KeyedTable.lookup_foldl_insert, isLast, agree last inside (of_decide_eq_true same)]
  rfl

end Rules

variable {A B : Type} {change : A → Option B} {list : List A}

namespace SessionManager

variable (manager : SessionManager)

lemma findBySeid_addSession (session : DataPlaneSession) :
  (manager.addSession session).findBySeid session.upfSeid =
    some ⟨manager.arcs.length, session⟩ := by
  simp [findBySeid, addSession, share]

lemma found_write_addSession (session written : DataPlaneSession) :
  ((manager.addSession session).write manager.arcs.length written).findBySeid session.upfSeid =
      some ⟨manager.arcs.length, written⟩ ∧
    ((manager.addSession session).write manager.arcs.length written).findByUlTeid
      session.ulTeid = some ⟨manager.arcs.length, written⟩ := by
  simp [findBySeid, findByUlTeid, addSession, write, share]

lemma handleSessionEstablished_eq {event : SessionEstablished} {ueIp : UInt32}
  {pdrs : List DataPlanePdr} (now : ℕ) (address : event.ueIpv4 = some ueIp)
  (compiled : event.pdrs.mapM ParsedCreatePdr.install = some pdrs) :
  ∃ session : DataPlaneSession, session.upfSeid = event.upfSeid ∧
    session.ulTeid = event.ulTeid ∧ session.pdrs = sortPdrs defaultPdrs ∧
    (manager.handleSessionEstablished event now).1 =
      (manager.addSession session).write manager.arcs.length
        (session.install event pdrs now) := by
  unfold handleSessionEstablished
  rw [address]
  dsimp only
  have found := manager.findBySeid_addSession
    (.fromPfcp event ueIp ⟨.v4 (event.gnbAddr.getD defaultGnbAddr), GTPU_PORT⟩)
  rw [show (DataPlaneSession.fromPfcp event ueIp
    ⟨.v4 (event.gnbAddr.getD defaultGnbAddr), GTPU_PORT⟩).upfSeid = event.upfSeid from rfl] at found
  rw [found, compiled]
  exact ⟨_, rfl, rfl, rfl, rfl⟩

end SessionManager

namespace PfcpServer

variable {ies : List ParsedIe} {server : PfcpServer}

/-- A request of an IPv4 UE with one PDR and one FAR. -/
def onePdr : Bytes :=
  -- Node ID, CP F-SEID
  [0, 60, 0, 5, 0, 10, 0, 0, 1] ++ [0, 57, 0, 9, 0, 0, 0, 0, 0, 0, 0, 0, 7] ++
  -- Create PDR: PDR ID 1, PDI with the UE's address
  [0, 1, 0, 19, 0, 56, 0, 2, 0, 1, 0, 2, 0, 9, 0, 93, 0, 5, 2, 10, 45, 0, 2] ++
  -- Create FAR: FAR ID 1
  [0, 3, 0, 8, 0, 108, 0, 4, 0, 0, 0, 1]

end PfcpServer

end NextGCore.Upf
