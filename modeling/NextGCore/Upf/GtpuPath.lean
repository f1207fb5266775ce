import Mathlib.Data.List.AList
import NextGCore.Library.Machine
import NextGCore.Upf.DataPlane

/-!
# GTP-U path supervision

`GtpuPathTable` of `data_plane.rs`: the peers to which Echo Requests go, and what has become of the
requests.  A response makes an entry for its sender where there is none, so a peer that was removed
is back in the table when a late response of it arrives.
-/

namespace NextGCore.Upf

open Library List Option

structure GtpuPeerState where
  lastRecovery : Option UInt8
  /-- The number of the request that was sent last, while it is not answered. -/
  pendingSeq : Option UInt16
  missCount : ℕ
  pathFailed : Bool

instance : Inhabited GtpuPeerState := ⟨none, none, 0, false⟩

structure GtpuPathTable where
  peers : AList fun _ : SocketAddr => GtpuPeerState
  nextSeq : UInt16
  missThreshold : ℕ

structure GtpuPathTick where
  table : GtpuPathTable
  toSend : List (SocketAddr × UInt16)
  failed : List SocketAddr

inductive GtpuPathEvent where
  | addPeer (peer : SocketAddr)
  | removePeer (peer : SocketAddr)
  | onEchoResponse (peer : SocketAddr) (recovery : UInt8)
  /-- A tick that walks the table in the order, if that is one of its peers. -/
  | tick (order : List SocketAddr)

inductive GtpuPathAnswer where
  | nothing
  | restarted (changed : Bool)
  | ticked (toSend : List (SocketAddr × UInt16)) (failed : List SocketAddr)

namespace GtpuPathTable

variable (table : GtpuPathTable)

def withThreshold (missThreshold : ℕ) : GtpuPathTable := ⟨∅, 1, missThreshold⟩

def setPeer (peer : SocketAddr) (state : GtpuPeerState) : GtpuPathTable :=
  { table with peers := table.peers.insert peer state }

def addPeer (peer : SocketAddr) : GtpuPathTable :=
  table.setPeer peer ((table.peers.lookup peer).getD default)

def removePeer (peer : SocketAddr) : GtpuPathTable :=
  { table with peers := table.peers.erase peer }

def onEchoResponse (peer : SocketAddr) (recovery : UInt8) : GtpuPathTable × Bool :=
  let state := (table.peers.lookup peer).getD default
  let answered := { state with pendingSeq := none, missCount := 0, pathFailed := false }
  match state.lastRecovery with
  | some prev =>
    if prev ≠ recovery then
      (table.setPeer peer { answered with lastRecovery := some recovery }, true)
    else (table.setPeer peer answered, false)
  | none => (table.setPeer peer { answered with lastRecovery := some recovery }, false)

def seqAfter (seq : UInt16) : UInt16 := if seq + 1 = 0 then 1 else seq + 1

end GtpuPathTable

def GtpuPeerState.fails (state : GtpuPeerState) (missThreshold : ℕ) : Bool :=
  state.pendingSeq.isSome && missThreshold ≤ state.missCount + 1

def GtpuPathTick.peer (tick : GtpuPathTick) (peer : SocketAddr) : GtpuPathTick :=
  match tick.table.peers.lookup peer with
  | none => tick
  | some state =>
    if state.pathFailed then tick
    else
      let missCount := if state.pendingSeq.isSome then state.missCount + 1 else state.missCount
      if state.fails tick.table.missThreshold then
        { tick with
          table := tick.table.setPeer peer { state with missCount, pathFailed := true }
          failed := tick.failed ++ [peer] }
      else
        let seq := tick.table.nextSeq
        let table := tick.table.setPeer peer { state with missCount, pendingSeq := some seq }
        { tick with
          table := { table with nextSeq := GtpuPathTable.seqAfter seq }
          toSend := tick.toSend ++ [(peer, seq)] }

namespace GtpuPathTable

variable (table : GtpuPathTable)

def walkOrder (order : List SocketAddr) : List SocketAddr :=
  if order.Perm table.peers.keys then order else table.peers.keys

def tick (order : List SocketAddr) : GtpuPathTick :=
  (table.walkOrder order).foldl GtpuPathTick.peer ⟨table, [], []⟩

def step : GtpuPathEvent → GtpuPathTable × GtpuPathAnswer
  | .addPeer peer => (table.addPeer peer, .nothing)
  | .removePeer peer => (table.removePeer peer, .nothing)
  | .onEchoResponse peer recovery =>
    let answered := table.onEchoResponse peer recovery
    (answered.1, .restarted answered.2)
  | .tick order =>
    let ticked := table.tick order
    (ticked.table, .ticked ticked.toSend ticked.failed)

def machine : Machine GtpuPathTable GtpuPathEvent GtpuPathAnswer := ⟨step⟩

end GtpuPathTable

namespace GtpuPeerState

def ticked (state : GtpuPeerState) (missThreshold : ℕ) (seq : UInt16) : GtpuPeerState :=
  if state.pathFailed then state
  else
    let missCount := if state.pendingSeq.isSome then state.missCount + 1 else state.missCount
    if state.fails missThreshold then { state with missCount, pathFailed := true }
    else { state with missCount, pendingSeq := some seq }

end GtpuPeerState

namespace GtpuPathTable

def failing (table : GtpuPathTable) (peer : SocketAddr) : Bool :=
  (table.peers.lookup peer).any fun state => !state.pathFailed && state.fails table.missThreshold

def sending (table : GtpuPathTable) (peer : SocketAddr) : Bool :=
  (table.peers.lookup peer).any fun state => !state.pathFailed && !state.fails table.missThreshold

end GtpuPathTable

namespace GtpuPathTick

structure Advances (order : List SocketAddr) (before after : GtpuPathTick) : Prop where
  missThreshold : after.table.missThreshold = before.table.missThreshold
  lookup : ∀ peer, ∃ seq, after.table.peers.lookup peer =
    if peer ∈ order then
      (before.table.peers.lookup peer).map fun state =>
        state.ticked before.table.missThreshold seq
    else before.table.peers.lookup peer
  failed : after.failed = before.failed ++ order.filter before.table.failing
  sent : after.toSend.map Prod.fst = before.toSend.map Prod.fst ++ order.filter before.table.sending
  nonzero : before.table.nextSeq ≠ 0 → (∀ request ∈ before.toSend, request.2 ≠ 0) →
    after.table.nextSeq ≠ 0 ∧ ∀ request ∈ after.toSend, request.2 ≠ 0

variable {order : List SocketAddr} {before middle after : GtpuPathTick} {peer : SocketAddr}

lemma advances_nil (tick : GtpuPathTick) : Advances [] tick tick :=
  ⟨rfl, fun _ => ⟨0, by simp⟩, by simp, by simp, fun seq sent => ⟨seq, sent⟩⟩

lemma seqAfter_ne_zero (seq : UInt16) : GtpuPathTable.seqAfter seq ≠ 0 := by
  unfold GtpuPathTable.seqAfter
  split
  · decide
  · assumption

lemma lookup_setPeer (table : GtpuPathTable) (peer other : SocketAddr) (state : GtpuPeerState) :
  (table.setPeer peer state).peers.lookup other =
    if other = peer then some state else table.peers.lookup other := by
  split
  · rename_i same
    rw [same]
    exact AList.lookup_insert _
  · rename_i differs
    exact AList.lookup_insert_ne differs

lemma advances_of_entry {tick after : GtpuPathTick} {state : GtpuPeerState} (seq : UInt16)
  (found : tick.table.peers.lookup peer = some state)
  (missThreshold : after.table.missThreshold = tick.table.missThreshold)
  (lookup : ∀ other, after.table.peers.lookup other =
    if other = peer then some (state.ticked tick.table.missThreshold seq)
    else tick.table.peers.lookup other)
  (failed : after.failed = tick.failed ++
    if !state.pathFailed && state.fails tick.table.missThreshold then [peer] else [])
  (sent : after.toSend.map Prod.fst = tick.toSend.map Prod.fst ++
    if !state.pathFailed && !state.fails tick.table.missThreshold then [peer] else [])
  (nonzero : tick.table.nextSeq ≠ 0 → (∀ request ∈ tick.toSend, request.2 ≠ 0) →
    after.table.nextSeq ≠ 0 ∧ ∀ request ∈ after.toSend, request.2 ≠ 0) :
  Advances [peer] tick after := by
  refine ⟨missThreshold, fun other => ⟨seq, ?_⟩, ?_, ?_, nonzero⟩
  · rw [lookup]
    by_cases same : other = peer
    · subst same
      simp [found]
    · simp [same]
  · rw [failed, filter_singleton, GtpuPathTable.failing, found, any_some, Bool.cond_eq_ite]
  · rw [sent, filter_singleton, GtpuPathTable.sending, found, any_some, Bool.cond_eq_ite]

lemma advances_peer (tick : GtpuPathTick) (peer : SocketAddr) :
  Advances [peer] tick (tick.peer peer) := by
  unfold GtpuPathTick.peer
  split
  · rename_i found
    refine ⟨rfl, fun other => ⟨0, ?_⟩, ?_, ?_, fun seq sent => ⟨seq, sent⟩⟩
    · by_cases same : other = peer
      · subst same
        simp [found]
      · simp [same]
    · simp [GtpuPathTable.failing, found]
    · simp [GtpuPathTable.sending, found]
  · rename_i state found
    split
    · rename_i isFailed
      refine advances_of_entry 0 found rfl (fun other => ?_) (by simp [isFailed])
        (by simp [isFailed]) fun seq sent => ⟨seq, sent⟩
      rw [GtpuPeerState.ticked, if_pos isFailed, ← found]
      split
      · rename_i same
        rw [same]
      · rfl
    · rename_i notFailed
      by_cases fails : state.fails tick.table.missThreshold
      · simp only [if_pos fails]
        refine advances_of_entry 0 found rfl (fun other => ?_) (by simp [notFailed, fails])
          (by simp [notFailed, fails]) fun seq sent => ⟨seq, sent⟩
        rw [lookup_setPeer, GtpuPeerState.ticked, if_neg notFailed, if_pos fails]
      · simp only [if_neg fails]
        refine advances_of_entry tick.table.nextSeq found rfl (fun other => ?_)
          (by simp [notFailed, fails]) (by simp [notFailed, fails]) fun seq sent => ⟨?_, ?_⟩
        · rw [lookup_setPeer, GtpuPeerState.ticked, if_neg notFailed, if_neg fails]
        · exact seqAfter_ne_zero _
        · intro request listed
          rcases mem_append.mp listed with before | now
          · exact sent request before
          · rw [mem_singleton.mp now]
            exact seq

lemma Advances.cons (missing : peer ∉ order) (first : Advances [peer] before middle)
  (rest : Advances order middle after) : Advances (peer :: order) before after := by
  have untouched (other : SocketAddr) (listed : other ∈ order) :
      middle.table.peers.lookup other = before.table.peers.lookup other := by
    obtain ⟨seq, found⟩ := first.lookup other
    rw [found, if_neg]
    rw [mem_singleton]
    rintro rfl
    exact missing listed
  constructor
  · exact rest.missThreshold.trans first.missThreshold
  · intro other
    by_cases same : other = peer
    · subst same
      obtain ⟨seq, found⟩ := first.lookup other
      obtain ⟨later, same⟩ := rest.lookup other
      refine ⟨seq, ?_⟩
      rw [same, if_neg missing, found, if_pos (mem_singleton_self _), if_pos mem_cons_self]
    · obtain ⟨seq, found⟩ := rest.lookup other
      refine ⟨seq, ?_⟩
      obtain ⟨other', kept⟩ := first.lookup other
      rw [if_neg (by simpa using same)] at kept
      rw [found, kept, first.missThreshold]
      simp only [mem_cons, same, false_or]
  · have same : order.filter middle.table.failing = order.filter before.table.failing :=
      filter_congr fun other listed => by
        rw [GtpuPathTable.failing, GtpuPathTable.failing, untouched other listed,
          first.missThreshold]
    rw [rest.failed, first.failed, same, append_assoc, ← filter_append, singleton_append]
  · have same : order.filter middle.table.sending = order.filter before.table.sending :=
      filter_congr fun other listed => by
        rw [GtpuPathTable.sending, GtpuPathTable.sending, untouched other listed,
          first.missThreshold]
    rw [rest.sent, first.sent, same, append_assoc, ← filter_append, singleton_append]
  · intro seq sent
    obtain ⟨seqMiddle, sentMiddle⟩ := first.nonzero seq sent
    exact rest.nonzero seqMiddle sentMiddle

lemma advances_foldl (nodup : order.Nodup) (tick : GtpuPathTick) :
  Advances order tick (order.foldl GtpuPathTick.peer tick) := by
  induction order generalizing tick with
  | nil => exact advances_nil tick
  | cons peer order ih =>
    rw [nodup_cons] at nodup
    exact (advances_peer tick peer).cons nodup.1 (ih nodup.2 _)

end GtpuPathTick

structure Supervision where
  supervised : Bool
  /-- A request was sent to it, and it has not answered since nor been removed. -/
  outstanding : Bool
  missed : ℕ
  reported : Bool

namespace Supervision

def unseen : Supervision := ⟨false, false, 0, false⟩

def observe (seen : Supervision) (peer : SocketAddr) : GtpuPathEvent → GtpuPathAnswer → Supervision
  | .addPeer added, _ => if added = peer then { seen with supervised := true } else seen
  | .removePeer removed, _ =>
    if removed = peer then
      { seen with supervised := false, outstanding := false, missed := 0 }
    else seen
  | .onEchoResponse sender _, _ =>
    if sender = peer then { seen with outstanding := false, missed := 0, reported := false }
    else seen
  | .tick _, .ticked toSend failed =>
    { seen with
      outstanding := seen.outstanding || peer ∈ toSend.map Prod.fst
      missed := if seen.outstanding then seen.missed + 1 else seen.missed
      reported := seen.reported || peer ∈ failed }
  | .tick _, _ => seen

end Supervision

namespace GtpuPathTable

variable {order : List SocketAddr} {joint : GtpuPathTable × (SocketAddr → Supervision)}
  {missThreshold : ℕ} {event : GtpuPathEvent}

def watched : Machine (GtpuPathTable × (SocketAddr → Supervision)) GtpuPathEvent GtpuPathAnswer :=
  machine.observed fun seen _ event left peer => (seen peer).observe peer event left.2

/-- What a tick promises: a peer is reported when the ticks that found its request unanswered have
become as many as the threshold, no number is zero, and only peers that were added are probed. -/
structure Supervises (missThreshold : ℕ) (seen : SocketAddr → Supervision)
  (toSend : List (SocketAddr × UInt16)) (failed : List SocketAddr) : Prop where
  reports : ∀ peer, peer ∈ failed ↔ (seen peer).outstanding ∧ (seen peer).missed + 1 = missThreshold
  once : failed.Nodup
  seqNonzero : ∀ request ∈ toSend, request.2 ≠ 0
  probed : ∀ request ∈ toSend, (seen request.1).supervised

def TickSupervises (joint : GtpuPathTable × (SocketAddr → Supervision)) (event : GtpuPathEvent) :
  Prop :=
  ∀ toSend failed, (joint.1.step event).2 = .ticked toSend failed →
    Supervises joint.1.missThreshold joint.2 toSend failed

def TickReportsOnce (joint : GtpuPathTable × (SocketAddr → Supervision)) (event : GtpuPathEvent) :
  Prop :=
  ∀ toSend failed, (joint.1.step event).2 = .ticked toSend failed →
    ∀ peer ∈ failed, ¬ (joint.2 peer).reported

def FromTracked (table : GtpuPathTable) : GtpuPathEvent → Prop
  | .onEchoResponse peer _ => peer ∈ table.peers
  | .addPeer _ | .removePeer _ | .tick _ => True

instance decidableFromTracked (table : GtpuPathTable) :
    (event : GtpuPathEvent) → Decidable (table.FromTracked event)
  | .onEchoResponse peer _ => inferInstanceAs (Decidable (peer ∈ table.peers))
  | .addPeer _ | .removePeer _ | .tick _ => inferInstanceAs (Decidable True)

def KeepsFailed (table : GtpuPathTable) : GtpuPathEvent → Prop
  | .removePeer peer => ∀ state ∈ table.peers.lookup peer, state.pathFailed = false
  | .addPeer _ | .onEchoResponse _ _ | .tick _ => True

/-- An entry says what is known of its peer, and there is one for each peer that was added. -/
inductive Follows (missThreshold : ℕ) : Option GtpuPeerState → Supervision → Prop
  | untracked (reported : Bool) : Follows missThreshold none ⟨false, false, 0, reported⟩
  | pending (state : GtpuPeerState) (reported : Bool) (notFailed : state.pathFailed = false)
      (below : state.missCount < missThreshold) :
      Follows missThreshold (some state) ⟨true, state.pendingSeq.isSome, state.missCount, reported⟩
  | failed (state : GtpuPeerState) (missed : ℕ) (reported : Bool) (isFailed : state.pathFailed)
      (reached : missThreshold ≤ missed) :
      Follows missThreshold (some state) ⟨true, true, missed, reported⟩

structure Intact (joint : GtpuPathTable × (SocketAddr → Supervision)) : Prop where
  follows : ∀ peer, Follows joint.1.missThreshold (joint.1.peers.lookup peer) (joint.2 peer)
  positive : 0 < joint.1.missThreshold
  nextSeq : joint.1.nextSeq ≠ 0

variable {table : GtpuPathTable} {peer : SocketAddr}

lemma walkOrder_perm (table : GtpuPathTable) (order : List SocketAddr) :
  (table.walkOrder order).Perm table.peers.keys := by
  unfold walkOrder
  split
  · assumption
  · exact Perm.refl _

lemma advances_tick (table : GtpuPathTable) (order : List SocketAddr) :
  GtpuPathTick.Advances (table.walkOrder order) ⟨table, [], []⟩ (table.tick order) :=
  GtpuPathTick.advances_foldl ((table.walkOrder_perm order).nodup_iff.mpr table.peers.keys_nodup) _

lemma mem_walkOrder : peer ∈ table.walkOrder order ↔ (table.peers.lookup peer).isSome := by
  rw [(table.walkOrder_perm order).mem_iff, ← AList.mem_keys, AList.lookup_isSome]

lemma mem_tick_failed : peer ∈ (table.tick order).failed ↔ table.failing peer := by
  rw [(table.advances_tick order).failed, nil_append, mem_filter, mem_walkOrder]
  refine ⟨fun both => both.2, fun fails => ⟨?_, fails⟩⟩
  cases found : table.peers.lookup peer with
  | none => simp [failing, found] at fails
  | some state => rfl

lemma mem_tick_sent : peer ∈ (table.tick order).toSend.map Prod.fst ↔ table.sending peer := by
  rw [(table.advances_tick order).sent, map_nil, nil_append, mem_filter, mem_walkOrder]
  refine ⟨fun both => both.2, fun sends => ⟨?_, sends⟩⟩
  cases found : table.peers.lookup peer with
  | none => simp [sending, found] at sends
  | some state => rfl

lemma lookup_tick (table : GtpuPathTable) (order : List SocketAddr) (peer : SocketAddr) :
  ∃ seq, (table.tick order).table.peers.lookup peer =
    (table.peers.lookup peer).map fun state => state.ticked table.missThreshold seq := by
  obtain ⟨seq, found⟩ := (table.advances_tick order).lookup peer
  refine ⟨seq, ?_⟩
  rw [found]
  split
  · rfl
  · rename_i missing
    rw [mem_walkOrder, not_isSome_iff_eq_none] at missing
    rw [missing, map_none]

lemma Follows.ticked {state : GtpuPeerState} {seen : Supervision}
  (follows : Follows missThreshold (some state) seen) (seq : UInt16) :
  ((!state.pathFailed && state.fails missThreshold) = true ↔
      seen.outstanding ∧ seen.missed + 1 = missThreshold) ∧
    Follows missThreshold (some (state.ticked missThreshold seq))
      { seen with
        outstanding :=
          seen.outstanding || !state.pathFailed && !state.fails missThreshold
        missed := if seen.outstanding then seen.missed + 1 else seen.missed
        reported := seen.reported || !state.pathFailed && state.fails missThreshold } := by
  cases follows with
  | pending _ reported notFailed below =>
    obtain ⟨lastRecovery, pendingSeq, missCount, pathFailed⟩ := state
    obtain rfl : pathFailed = false := notFailed
    cases pendingSeq with
    | none =>
      refine ⟨iff_of_false Bool.false_ne_true fun both => Bool.false_ne_true both.1, ?_⟩
      exact .pending ⟨lastRecovery, some seq, missCount, false⟩ _ rfl below
    | some last =>
      by_cases reached : missThreshold ≤ missCount + 1
      · have isLast : missCount + 1 = missThreshold := Nat.le_antisymm below reached
        have fails : GtpuPeerState.fails ⟨lastRecovery, some last, missCount, false⟩
            missThreshold = true := by simp [GtpuPeerState.fails, reached]
        rw [GtpuPeerState.ticked, fails]
        refine ⟨iff_of_true rfl ⟨rfl, isLast⟩, ?_⟩
        exact .failed ⟨lastRecovery, some last, missCount + 1, true⟩ _ _ rfl reached
      · have notLast : missCount + 1 ≠ missThreshold := fun last => reached last.ge
        have fails : GtpuPeerState.fails ⟨lastRecovery, some last, missCount, false⟩
            missThreshold = false := by simp [GtpuPeerState.fails, reached]
        rw [GtpuPeerState.ticked, fails]
        refine ⟨iff_of_false Bool.false_ne_true fun both => notLast both.2, ?_⟩
        exact .pending ⟨lastRecovery, some seq, missCount + 1, false⟩ _ rfl (Nat.not_le.mp reached)
  | failed _ missed reported isFailed reached =>
    refine ⟨iff_of_false (by simp [isFailed]) fun both => ?_, ?_⟩
    · have last : missed + 1 = missThreshold := both.2
      omega
    · simp only [GtpuPeerState.ticked, isFailed]
      exact .failed state (missed + 1) _ isFailed (Nat.le_succ_of_le reached)

lemma Intact.tick (intact : Intact joint) (order : List SocketAddr) :
  Intact (watched.step joint (.tick order)).1 ∧ TickSupervises joint (.tick order) := by
  have advances := joint.1.advances_tick order
  have nonzero := advances.nonzero intact.nextSeq (by simp)
  have sent (peer : SocketAddr) :
      decide (peer ∈ (joint.1.tick order).toSend.map Prod.fst) = joint.1.sending peer := by
    rw [Bool.eq_iff_iff, decide_eq_true_iff, mem_tick_sent]
  have failed (peer : SocketAddr) :
      decide (peer ∈ (joint.1.tick order).failed) = joint.1.failing peer := by
    rw [Bool.eq_iff_iff, decide_eq_true_iff, mem_tick_failed]
  constructor
  · refine ⟨fun peer => ?_, ?_, nonzero.1⟩
    · show Follows (joint.1.tick order).table.missThreshold
        ((joint.1.tick order).table.peers.lookup peer)
        ((joint.2 peer).observe peer (.tick order)
          (.ticked (joint.1.tick order).toSend (joint.1.tick order).failed))
      obtain ⟨seq, found⟩ := joint.1.lookup_tick order peer
      have follows := intact.follows peer
      rw [advances.missThreshold, found, Supervision.observe, sent, failed, sending, failing]
      cases entry : joint.1.peers.lookup peer with
      | none =>
        rw [entry] at follows
        generalize joint.2 peer = seen at follows ⊢
        cases follows
        exact .untracked _
      | some state =>
        rw [entry] at follows
        exact (follows.ticked seq).2
    · rw [watched, Machine.observed_step]
      exact advances.missThreshold ▸ intact.positive
  · rintro toSend failedNow answer
    cases answer
    constructor
    · intro peer
      rw [mem_tick_failed, failing]
      have follows := intact.follows peer
      cases entry : joint.1.peers.lookup peer with
      | none =>
        rw [entry] at follows
        refine iff_of_false Bool.false_ne_true fun both => ?_
        generalize joint.2 peer = seen at follows both
        cases follows
        exact Bool.false_ne_true both.1
      | some state =>
        rw [entry] at follows
        exact (follows.ticked 0).1
    · rw [advances.failed, nil_append]
      exact ((joint.1.walkOrder_perm order).nodup_iff.mpr joint.1.peers.keys_nodup).filter _
    · exact nonzero.2
    · intro request listed
      have sends := mem_tick_sent.mp (List.mem_map_of_mem listed)
      have follows := intact.follows request.1
      generalize joint.2 request.1 = seen at follows ⊢
      rw [sending] at sends
      generalize joint.1.peers.lookup request.1 = entry at follows sends
      cases follows with
      | untracked => exact absurd sends Bool.false_ne_true
      | pending => rfl
      | failed => rfl

lemma Intact.set {table' : GtpuPathTable} {seen seen' : SocketAddr → Supervision}
  (intact : Intact (table, seen)) (peer : SocketAddr)
  (missThreshold : table'.missThreshold = table.missThreshold)
  (nextSeq : table'.nextSeq = table.nextSeq)
  (own : Follows table.missThreshold (table'.peers.lookup peer) (seen' peer))
  (lookup : ∀ other ≠ peer, table'.peers.lookup other = table.peers.lookup other)
  (known : ∀ other ≠ peer, seen' other = seen other) : Intact (table', seen') := by
  refine ⟨fun other => ?_, missThreshold ▸ intact.positive, nextSeq ▸ intact.nextSeq⟩
  dsimp only
  rw [missThreshold]
  by_cases same : other = peer
  · rw [same]
    exact own
  · rw [lookup other same, known other same]
    exact intact.follows other

lemma onEchoResponse_eq (table : GtpuPathTable) (peer : SocketAddr) (recovery : UInt8) :
  ∃ lastRecovery, (table.onEchoResponse peer recovery).1 =
    table.setPeer peer ⟨lastRecovery, none, 0, false⟩ := by
  simp only [onEchoResponse]
  split
  · split
    · exact ⟨_, rfl⟩
    · exact ⟨_, rfl⟩
  · exact ⟨_, rfl⟩

lemma intact_step (intact : Intact joint) (tracked : joint.1.FromTracked event) :
  Intact (watched.step joint event).1 := by
  obtain ⟨table, seen⟩ := joint
  cases event with
  | addPeer peer =>
    refine intact.set peer rfl rfl ?_ (fun other differs => ?_) fun other differs => ?_
    · have follows := intact.follows peer
      show Follows _ ((table.addPeer peer).peers.lookup peer)
        (if peer = peer then { seen peer with supervised := true } else seen peer)
      rw [if_pos rfl, addPeer, GtpuPathTick.lookup_setPeer, if_pos rfl]
      dsimp only at follows
      generalize seen peer = known at follows ⊢
      generalize table.peers.lookup peer = entry at follows ⊢
      cases follows with
      | untracked reported => exact .pending default reported rfl intact.positive
      | pending state reported notFailed below => exact .pending state reported notFailed below
      | failed state missed reported isFailed reached =>
        exact .failed state missed reported isFailed reached
    · exact AList.lookup_insert_ne differs
    · exact if_neg (Ne.symm differs)
  | removePeer peer =>
    refine intact.set peer rfl rfl ?_ (fun other differs => ?_) fun other differs => ?_
    · show Follows _ ((table.peers.erase peer).lookup peer) (if peer = peer then _ else seen peer)
      rw [if_pos rfl, AList.lookup_erase]
      exact .untracked _
    · exact AList.lookup_erase_ne differs
    · exact if_neg (Ne.symm differs)
  | onEchoResponse peer recovery =>
    obtain ⟨lastRecovery, left⟩ := table.onEchoResponse_eq peer recovery
    refine intact.set peer ?_ ?_ ?_ (fun other differs => ?_) fun other differs => ?_
    · show (table.onEchoResponse peer recovery).1.missThreshold = _
      rw [left]
      rfl
    · show (table.onEchoResponse peer recovery).1.nextSeq = _
      rw [left]
      rfl
    · have follows := intact.follows peer
      have present := AList.lookup_isSome.mpr tracked
      show Follows _ ((table.onEchoResponse peer recovery).1.peers.lookup peer)
        (if peer = peer then _ else seen peer)
      rw [if_pos rfl, left, GtpuPathTick.lookup_setPeer, if_pos rfl]
      have supervised : (seen peer).supervised = true := by
        dsimp only at follows present
        generalize seen peer = known at follows ⊢
        generalize table.peers.lookup peer = entry at follows present
        cases follows with
        | untracked => cases present
        | pending => rfl
        | failed => rfl
      rw [supervised]
      exact .pending ⟨lastRecovery, none, 0, false⟩ _ rfl intact.positive
    · show (table.onEchoResponse peer recovery).1.peers.lookup other = _
      rw [left, GtpuPathTick.lookup_setPeer, if_neg differs]
    · exact if_neg (Ne.symm differs)
  | tick order => exact (intact.tick order).1

lemma intact_withThreshold (positive : 0 < missThreshold) :
  Intact (withThreshold missThreshold, fun _ => .unseen) :=
  ⟨fun _ => .untracked false, positive, (by decide : (1 : UInt16) ≠ 0)⟩

/-- Who is reported failed and has not answered since is failed in the table. -/
def ReportedFailed (joint : GtpuPathTable × (SocketAddr → Supervision)) : Prop :=
  ∀ peer, (joint.2 peer).reported → ∃ state ∈ joint.1.peers.lookup peer, state.pathFailed

lemma reportedFailed_step (failed : ReportedFailed joint) (keeps : joint.1.KeepsFailed event) :
  ReportedFailed (watched.step joint event).1 := by
  obtain ⟨table, seen⟩ := joint
  cases event with
  | addPeer added =>
    intro peer reported
    have before : (seen peer).reported := by
      change (if added = peer then _ else seen peer).reported = true at reported
      split at reported
      · exact reported
      · exact reported
    obtain ⟨state, found, isFailed⟩ := failed peer before
    refine ⟨state, ?_, isFailed⟩
    show (table.addPeer added).peers.lookup peer = some state
    rw [addPeer, GtpuPathTick.lookup_setPeer]
    split
    · rename_i same
      rw [← same, found]
      rfl
    · exact found
  | removePeer removed =>
    intro peer reported
    change (if removed = peer then _ else seen peer).reported = true at reported
    split at reported
    · rename_i same
      obtain ⟨state, found, isFailed⟩ := failed peer reported
      exact absurd isFailed (by simp [keeps state (same ▸ found)])
    · rename_i differs
      obtain ⟨state, found, isFailed⟩ := failed peer reported
      exact ⟨state, (AList.lookup_erase_ne (Ne.symm differs)).trans found, isFailed⟩
  | onEchoResponse sender recovery =>
    intro peer reported
    change (if sender = peer then _ else seen peer).reported = true at reported
    split at reported
    · cases reported
    · rename_i differs
      obtain ⟨state, found, isFailed⟩ := failed peer reported
      obtain ⟨lastRecovery, left⟩ := table.onEchoResponse_eq sender recovery
      refine ⟨state, ?_, isFailed⟩
      show (table.onEchoResponse sender recovery).1.peers.lookup peer = some state
      rw [left, GtpuPathTick.lookup_setPeer, if_neg (Ne.symm differs), found]
  | tick order =>
    intro peer reported
    change ((seen peer).reported || decide (peer ∈ (table.tick order).failed)) = true at reported
    obtain ⟨seq, left⟩ := table.lookup_tick order peer
    rw [Bool.or_eq_true, decide_eq_true_iff, mem_tick_failed, failing, Option.any_eq_true]
      at reported
    rcases reported with before | ⟨state, found, now⟩
    · obtain ⟨state, found, isFailed⟩ := failed peer before
      refine ⟨state, ?_, isFailed⟩
      show (table.tick order).table.peers.lookup peer = some state
      rw [left, found, map_some, GtpuPeerState.ticked, if_pos isFailed]
    · rw [Bool.and_eq_true, Bool.not_eq_true'] at now
      refine ⟨state.ticked table.missThreshold seq, ?_, ?_⟩
      · show (table.tick order).table.peers.lookup peer = _
        rw [left, found, map_some]
      · simp [GtpuPeerState.ticked, now.1, now.2]

lemma tickReportsOnce (failed : ReportedFailed joint) (event : GtpuPathEvent) :
  TickReportsOnce joint event := by
  intro toSend failedNow answer peer listed reported
  cases event with
  | addPeer _ | removePeer _ | onEchoResponse _ _ => cases answer
  | tick order =>
    cases answer
    obtain ⟨state, found, isFailed⟩ := failed peer reported
    rw [mem_tick_failed, failing, found] at listed
    simp [isFailed] at listed

/-- As long as every response comes from a peer of the table, every tick supervises the peers that
were added; and as long as no failed peer is removed, it reports none again that has not
answered. -/
theorem supervises_run {missThreshold : ℕ} (positive : 0 < missThreshold)
  (events : List GtpuPathEvent)
  (tracked : machine.Along FromTracked (withThreshold missThreshold) events) :
  watched.Along TickSupervises (withThreshold missThreshold, fun _ => .unseen) events ∧
    (machine.Along KeepsFailed (withThreshold missThreshold) events →
      watched.Along TickReportsOnce (withThreshold missThreshold, fun _ => .unseen) events) := by
  constructor
  · refine watched.along_of_invariant (fun joint event => intact_step) (fun joint event => ?_)
      (intact_withThreshold positive) ((machine.along_observed _ _ _ _).mpr tracked)
    intro intact _
    cases event with
    | addPeer _ | removePeer _ | onEchoResponse _ _ =>
      rintro toSend failed answer
      cases answer
    | tick order => exact (intact.tick order).2
  · intro keeps
    refine watched.along_of_invariant (fun joint event => reportedFailed_step)
      (fun joint event failed _ => tickReportsOnce failed event) ?_
      ((machine.along_observed _ _ _ _).mpr keeps)
    intro peer reported
    cases reported

/-- A peer that answers its first request. -/
theorem supervises_run_answered :
  watched.Along TickSupervises (withThreshold 3, fun _ => .unseen)
    [.addPeer ⟨.v4 0x0A000001, 2152⟩, .tick [],
      .onEchoResponse ⟨.v4 0x0A000001, 2152⟩ 0, .tick []] :=
  (supervises_run (by decide) [.addPeer ⟨.v4 0x0A000001, 2152⟩, .tick [],
    .onEchoResponse ⟨.v4 0x0A000001, 2152⟩ 0, .tick []] (by decide)).1

/-- A late response of a peer that was removed, and the tick after it. -/
theorem not_supervises_run :
  ¬ ∀ events, watched.Along TickSupervises (withThreshold 3, fun _ => .unseen) events := by
  intro always
  obtain ⟨-, -, -, supervises, -⟩ := always [.addPeer ⟨.v4 0x0A000001, 2152⟩,
    .removePeer ⟨.v4 0x0A000001, 2152⟩, .onEchoResponse ⟨.v4 0x0A000001, 2152⟩ 0, .tick []]
  have probed := (supervises [(⟨.v4 0x0A000001, 2152⟩, 1)] [] rfl).probed _
    (mem_singleton_self _)
  exact absurd probed (by decide)

end GtpuPathTable

end NextGCore.Upf
