import Mathlib.Data.List.Iterate
import NextGCore.Library.Checks
import NextGCore.Library.Tasks
import NextGCore.Udm.AkaAgreement

/-!
# Authentication information requests

`handle_air` of the HSS: the SQN of a subscriber is read, advanced once for each vector, and
written back.  Between the read and the write other requests may do the same.
-/

namespace NextGCore.Hss

open Crypt Library Function TaskSystem
open Udm (Sqn sqnValue)

inductive DbiError where
  | subscriberNotFound (supi : String)
  | other (text : String)

inductive S6aFailure where
  | authDataUnavailable
  | userUnknown
  | unableToComply (text : String)

def mapDbiError : DbiError → S6aFailure
  | .subscriberNotFound _ => .userUnknown
  | .other text => .unableToComply text

structure NextgcoreDbiAuthInfo where
  k : Block
  useOpc : Bool
  opc : Block
  op : Block
  amf : Vector UInt8 2
  sqn : UInt64

abbrev Subscribers := String → NextgcoreDbiAuthInfo

def supiOf (imsiBcd : String) : String := "imsi-" ++ imsiBcd

def updateSqn (subscribers : Subscribers) (supi : String) (sqn : UInt64) : Subscribers :=
  Function.update subscribers supi { subscribers supi with sqn := sqn }

def sqnMask : UInt64 := 0xFFFFFFFFFFFF

def sqnStep : UInt64 := 32

def maxVectorsPerAir : UInt32 := 4

def sqnToBytes (sqn : UInt64) : Sqn :=
  #v[((sqn >>> 40) &&& 0xFF).toUInt8, ((sqn >>> 32) &&& 0xFF).toUInt8,
    ((sqn >>> 24) &&& 0xFF).toUInt8, ((sqn >>> 16) &&& 0xFF).toUInt8,
    ((sqn >>> 8) &&& 0xFF).toUInt8, (sqn &&& 0xFF).toUInt8]

structure EUtranVector where
  rand : Block
  xres : Vector UInt8 8
  autn : Block
  kasme : Vector UInt8 32

abbrev AucKasme := Block → Block → Vector UInt8 3 → Sqn → Vector UInt8 6 → Vector UInt8 32

def milenageOpc (crypt : Primitives) (k op : Block) : Except MilenageError Block := do
  let encrypted ← aes128EncryptBlock crypt k op
  return xorOctets encrypted op

def NextgcoreDbiAuthInfo.opcOf (info : NextgcoreDbiAuthInfo) (crypt : Primitives) :
  Except S6aFailure Block :=
  if info.useOpc then .ok info.opc
  else (milenageOpc crypt info.k info.op).mapError fun _ =>
    .unableToComply "OPc computation failed"

def processResync (crypt : Primitives) (opc k rand : Block) (auts : Vector UInt8 14) :
  Except S6aFailure UInt64 := do
  let sqnMs ← (milenageAuts crypt opc k rand auts).mapError fun _ => .authDataUnavailable
  return sqnMs.toList.foldl (fun sqn octet => sqn <<< 8 ||| octet.toUInt64) 0

def nextSqn (sqn : UInt64) : UInt64 := (sqn + sqnStep) &&& sqnMask

section Vectors

variable (crypt : Primitives) (aucKasme : AucKasme) (info : NextgcoreDbiAuthInfo) (opc : Block)
  (plmnId : Vector UInt8 3)

def generateVector (rand : Block) (sqn : UInt64) : Except S6aFailure EUtranVector := do
  let macs ← (milenageF1 crypt opc info.k rand (sqnToBytes sqn) info.amf).mapError fun _ =>
    .unableToComply "f1 computation failed"
  let values ← (milenageF2345 crypt opc info.k rand).mapError fun _ =>
    .unableToComply "f2-f5 computation failed"
  let ak := values.2.2.2.1
  return {
    rand := rand
    xres := values.1
    autn := xorOctets (sqnToBytes sqn) ak ++ info.amf ++ macs.1
    kasme := aucKasme values.2.1 values.2.2.1 plmnId (sqnToBytes sqn) ak }

def generateVectors : List Block → UInt64 → Except S6aFailure (List EUtranVector × UInt64)
  | [], sqn => .ok ([], sqn)
  | rand :: rest, sqn => do
    let vector ← generateVector crypt aucKasme info opc plmnId rand (nextSqn sqn)
    let others ← generateVectors rest (nextSqn sqn)
    return (vector :: others.1, others.2)

end Vectors

/-- What becomes of the update: it is stored, or it fails and is stored or not. -/
inductive UpdateOutcome where
  | stored
  | failed (error : DbiError) (written : Bool)

/-- The arguments of `handle_air`, and what it meets: fresh RANDs, and the answers of the
database. -/
structure AirRequest where
  imsiBcd : String
  visitedPlmnId : Bytes
  resync : Option (Block × Vector UInt8 14)
  numVectors : UInt32
  rands : ℕ → Block
  readError : Option DbiError
  update : UpdateOutcome

structure PendingAir where
  request : AirRequest
  read : UInt64
  base : UInt64
  vectors : List EUtranVector
  sqn : UInt64

def AirRequest.count (request : AirRequest) : ℕ :=
  (max 1 (min request.numVectors maxVectorsPerAir)).toNat

def AirRequest.plmnId (request : AirRequest) : Vector UInt8 3 :=
  let octet := fun index => request.visitedPlmnId.getD index 0
  #v[octet 0, octet 1, octet 2]

section Handler

variable (crypt : Primitives) (aucKasme : AucKasme)

def AirRequest.baseSqn (request : AirRequest) (info : NextgcoreDbiAuthInfo) (opc : Block) :
  Except S6aFailure UInt64 :=
  match request.resync with
  | none => .ok (info.sqn &&& sqnMask)
  | some token => processResync crypt opc info.k token.1 token.2

def AirRequest.begin (request : AirRequest) (info : NextgcoreDbiAuthInfo) :
  Except S6aFailure PendingAir := do
  let opc ← info.opcOf crypt
  let base ← request.baseSqn crypt info opc
  let generated ← generateVectors crypt aucKasme info opc request.plmnId
    ((List.range request.count).map request.rands) base
  return ⟨request, info.sqn, base, generated.1, generated.2⟩

inductive AirTask where
  | reading (request : AirRequest)
  | storing (pending : PendingAir)

abbrev AirOutput := String × Except S6aFailure (List EUtranVector)

def airSystem : TaskSystem Subscribers AirRequest AirTask AirOutput where
  start request := .waiting (.reading request)
  advance subscribers
    | .reading request =>
      match request.readError with
      | some error => (subscribers, .finished (request.imsiBcd, .error (mapDbiError error)))
      | none =>
        match request.begin crypt aucKasme (subscribers (supiOf request.imsiBcd)) with
        | .error failure => (subscribers, .finished (request.imsiBcd, .error failure))
        | .ok pending => (subscribers, .waiting (.storing pending))
    | .storing pending =>
      let imsiBcd := pending.request.imsiBcd
      let stored := updateSqn subscribers (supiOf imsiBcd) pending.sqn
      match pending.request.update with
      | .stored => (stored, .finished (imsiBcd, .ok pending.vectors))
      | .failed error written =>
        (if written then stored else subscribers, .finished (imsiBcd, .error (mapDbiError error)))

end Handler

/-!
## One EPS vector for each sequence number

The requests for one subscriber read and write its SQN in any order.  Where every write finds
the SQN that its request read, and no resynchronisation goes back, the SQNs of the vectors are
strictly increasing; elsewhere an SQN may be issued twice.
-/

open Udm (Sqn sqnValue sqnValue_eq)

variable {sqn : UInt64}

lemma toNat_nextSqn (sqn : UInt64) : (nextSqn sqn).toNat = (sqn.toNat + 32) % 2 ^ 48 := by
  have masked : (nextSqn sqn).toNat = ((sqn.toNat + 32) % 2 ^ 64) &&& (2 ^ 48 - 1) := by
    rw [nextSqn, UInt64.toNat_and, UInt64.toNat_add]
    rfl
  rw [masked, Nat.and_two_pow_sub_one_eq_mod]
  omega

lemma toNat_iterate_nextSqn {count : ℕ} (noWrap : sqn.toNat + 32 * count < 2 ^ 48) :
  (nextSqn^[count] sqn).toNat = sqn.toNat + 32 * count := by
  induction count with
  | zero => rfl
  | succ count ih =>
    rw [iterate_succ_apply', toNat_nextSqn, ih (by omega)]
    omega

lemma sqnValue_sqnToBytes (masked : sqn.toNat < 2 ^ 48) :
  sqnValue (sqnToBytes sqn) = sqn.toNat := by
  have octet (shifted : UInt64) : ((shifted &&& 0xFF).toUInt8).toNat = shifted.toNat % 256 := by
    rw [UInt64.toNat_toUInt8, UInt64.toNat_and, show (0xFF : UInt64).toNat = 2 ^ 8 - 1 from rfl,
      Nat.and_two_pow_sub_one_eq_mod]
    omega
  rw [sqnValue_eq]
  change 256 * (256 * (256 * (256 * (256 * ((sqn >>> 40) &&& 0xFF).toUInt8.toNat +
    ((sqn >>> 32) &&& 0xFF).toUInt8.toNat) + ((sqn >>> 24) &&& 0xFF).toUInt8.toNat) +
      ((sqn >>> 16) &&& 0xFF).toUInt8.toNat) + ((sqn >>> 8) &&& 0xFF).toUInt8.toNat) +
        (sqn &&& 0xFF).toUInt8.toNat = sqn.toNat
  simp only [octet, UInt64.toNat_shiftRight]
  simp only [UInt64.reduceToNat, Nat.reduceMod, Nat.shiftRight_eq_div_pow]
  omega

section Vectors

variable (crypt : Primitives) {sqn : UInt64}

def vectorSqn (info : NextgcoreDbiAuthInfo) (vector : EUtranVector) : ℕ :=
  (do
    let opc ← (info.opcOf crypt).toOption
    let sqn ← (autnSqn crypt opc info.k vector.rand vector.autn).toOption
    return sqnValue sqn : Option ℕ).getD 0

variable {crypt} {aucKasme : AucKasme} {info : NextgcoreDbiAuthInfo} {opc : Block}
  {plmnId : Vector UInt8 3}

lemma vectorSqn_of_generated {rand : Block} {vector : EUtranVector}
  (isOpc : info.opcOf crypt = .ok opc)
  (generated : generateVector crypt aucKasme info opc plmnId rand (nextSqn sqn) = .ok vector) :
  vectorSqn crypt info vector = (nextSqn sqn).toNat := by
  simp only [generateVector, bind_eq_ok_iff, mapError_eq_ok_iff, pure_eq_ok_iff] at generated
  obtain ⟨macs, -, values, functions, rfl⟩ := generated
  have masked : (nextSqn sqn).toNat < 2 ^ 48 := by
    rw [toNat_nextSqn]
    exact Nat.mod_lt _ (by decide)
  obtain ⟨res, ck, ik, ak, akStar⟩ := values
  have uncovered : autnSqn crypt opc info.k rand
      (xorOctets (sqnToBytes (nextSqn sqn)) ak ++ info.amf ++ macs.1) = _ := autnSqn_eq functions
  rw [part_autn_sqn, xorOctets_cancel] at uncovered
  simp [vectorSqn, isOpc, uncovered, Except.toOption, sqnValue_sqnToBytes masked]

lemma of_generateVectors (isOpc : info.opcOf crypt = .ok opc) {rands : List Block}
  {generated : List EUtranVector × UInt64}
  (isGenerated : generateVectors crypt aucKasme info opc plmnId rands sqn = .ok generated) :
  generated.1.map (vectorSqn crypt info) =
      (List.iterate nextSqn (nextSqn sqn) rands.length).map UInt64.toNat ∧
    generated.2 = nextSqn^[rands.length] sqn := by
  induction rands generalizing sqn generated with
  | nil =>
    obtain rfl := Except.ok.inj isGenerated
    exact ⟨rfl, rfl⟩
  | cons rand rest ih =>
    simp only [generateVectors, bind_eq_ok_iff, pure_eq_ok_iff] at isGenerated
    obtain ⟨vector, isVector, others, areOthers, rfl⟩ := isGenerated
    obtain ⟨sqns, last⟩ := ih areOthers
    refine ⟨?_, last⟩
    simp only [List.map_cons, vectorSqn_of_generated isOpc isVector, sqns]
    rfl

end Vectors

section Runs

variable (crypt : Primitives) (aucKasme : AucKasme) (imsiBcd : String) {subscribers : Subscribers}
  {pending : PendingAir} {pool : TaskPool Subscribers AirTask} {task : AirTask}
  {input : PoolInput AirRequest}

def issuedSqns (answer : TaskPool Subscribers AirTask × Option AirOutput) : Option (List ℕ) :=
  match answer.2 with
  | some (who, .ok vectors) =>
    if who = imsiBcd then
      some (vectors.map (vectorSqn crypt (answer.1.shared (supiOf imsiBcd))))
    else none
  | _ => none

def issuedIn (pool : TaskPool Subscribers AirTask) (inputs : List (PoolInput AirRequest)) :
  List ℕ :=
  ((airSystem crypt aucKasme).machine.emitted (issuedSqns crypt imsiBcd) pool inputs).flatten

def UpdateOutcome.writes : UpdateOutcome → Bool
  | .stored => true
  | .failed _ written => written

/-- A write for the subscriber finds the SQN that its request read; the vectors start from no
older SQN, and do not wrap. -/
def Careful (subscribers : Subscribers) : AirTask → Prop
  | .reading _ => True
  | .storing pending => pending.request.imsiBcd = imsiBcd →
      pending.request.update.writes = true → (subscribers (supiOf imsiBcd)).sqn = pending.read ∧
          pending.read &&& sqnMask ≤ pending.base ∧
            pending.base.toNat + 32 * pending.request.count < 2 ^ 48

def Built (subscribers : Subscribers) : AirTask → Prop
  | .reading _ => True
  | .storing pending =>
    pending.vectors.map (vectorSqn crypt (subscribers (supiOf pending.request.imsiBcd))) =
        (List.iterate nextSqn (nextSqn pending.base) pending.request.count).map UInt64.toNat ∧
      pending.sqn = nextSqn^[pending.request.count] pending.base

variable {crypt aucKasme imsiBcd}

lemma supiOf_injective : Injective supiOf := by
  intro first second same
  have letters := congrArg String.toList same
  simpa [supiOf, String.toList_inj] using letters

lemma vectorSqn_updateSqn (subscribers : Subscribers) (supi other : String) (sqn : UInt64) :
  vectorSqn crypt (updateSqn subscribers supi sqn other) =
    vectorSqn crypt (subscribers other) := by
  by_cases same : other = supi
  · subst same
    rw [updateSqn, update_self]
    rfl
  · rw [updateSqn, update_of_ne same]

variable (crypt aucKasme) in
lemma advance_shared (subscribers : Subscribers) (task : AirTask) :
  ((airSystem crypt aucKasme).advance subscribers task).1 = subscribers ∨
    ∃ pending, task = .storing pending ∧ pending.request.update.writes = true ∧
      ((airSystem crypt aucKasme).advance subscribers task).1 =
        updateSqn subscribers (supiOf pending.request.imsiBcd) pending.sqn := by
  cases task with
  | reading request =>
    left
    simp only [airSystem]
    split
    · rfl
    · split <;> rfl
  | storing pending =>
    simp only [airSystem]
    cases outcome : pending.request.update with
    | stored => exact .inr ⟨pending, rfl, by rw [outcome]; rfl, rfl⟩
    | failed error written =>
      cases written with
      | false => exact .inl rfl
      | true => exact .inr ⟨pending, rfl, by rw [outcome]; rfl, rfl⟩

lemma built_of_advance {other : AirTask} (built : Built crypt subscribers other) :
  Built crypt ((airSystem crypt aucKasme).advance subscribers task).1 other := by
  cases other with
  | reading request => trivial
  | storing pending =>
    rcases advance_shared crypt aucKasme subscribers task with same | ⟨writer, -, -, written⟩
    · rwa [same]
    · rw [written]
      simp only [Built, vectorSqn_updateSqn]
      exact built

lemma built_of_begin {request : AirRequest}
  (begun : request.begin crypt aucKasme (subscribers (supiOf request.imsiBcd)) = .ok pending) :
  Built crypt subscribers (.storing pending) := by
  simp only [AirRequest.begin, bind_eq_ok_iff, pure_eq_ok_iff] at begun
  obtain ⟨opc, isOpc, base, -, generated, isGenerated, rfl⟩ := begun
  have built := of_generateVectors isOpc isGenerated
  rwa [List.length_map, List.length_range] at built

lemma built_of_waiting {next : AirTask}
  (waiting : ((airSystem crypt aucKasme).advance subscribers task).2 = .waiting next) :
  Built crypt ((airSystem crypt aucKasme).advance subscribers task).1 next := by
  cases task with
  | reading request =>
    simp only [airSystem] at waiting ⊢
    cases readError : request.readError with
    | some error => simp [readError] at waiting
    | none =>
      simp only [readError] at waiting ⊢
      cases begun : request.begin crypt aucKasme (subscribers (supiOf request.imsiBcd)) with
      | error failure => simp [begun] at waiting
      | ok pending =>
        simp only [begun, Progress.waiting.injEq] at waiting ⊢
        subst waiting
        exact built_of_begin begun
  | storing pending =>
    simp only [airSystem] at waiting
    cases outcome : pending.request.update <;> simp [outcome] at waiting

def AllBuilt (crypt : Primitives) : TaskPool Subscribers AirTask → Prop :=
  Sound (fun _ => True) (Built crypt)

lemma allBuilt_step (built : AllBuilt crypt pool) :
  AllBuilt crypt ((airSystem crypt aucKasme).machine.step pool input).1 := by
  have met : OnAdvance (fun _ _ => True) pool input := by
    cases input <;> simp [OnAdvance]
  refine sound_step ?_ ?_ ?_ ?_ built met
  · rintro request task shared started -
    obtain rfl := Progress.waiting.inj started
    trivial
  · intros
    trivial
  · rintro shared task next - - - waiting
    exact built_of_waiting waiting
  · rintro shared task other - - - isBuilt
    exact built_of_advance isBuilt

def storedSqn (imsiBcd : String) (pool : TaskPool Subscribers AirTask) : ℕ :=
  ((pool.shared (supiOf imsiBcd)).sqn &&& sqnMask).toNat

/-- What a step does to the stored SQN of the subscriber: it becomes the last of the SQNs that
the step took from a base, and only these are issued. -/
def Advances (crypt : Primitives) (imsiBcd : String) (pool : TaskPool Subscribers AirTask)
  (answer : TaskPool Subscribers AirTask × Option AirOutput) : Prop :=
  ∃ base count, storedSqn imsiBcd pool ≤ base ∧ storedSqn imsiBcd answer.1 = base + 32 * count ∧
      ∀ sqns ∈ issuedSqns crypt imsiBcd answer,
        sqns = (List.range count).map fun index => base + 32 * (index + 1)

lemma toNat_masked (sqn : UInt64) : (sqn &&& sqnMask).toNat = sqn.toNat % 2 ^ 48 := by
  rw [UInt64.toNat_and, show sqnMask.toNat = 2 ^ 48 - 1 from rfl, Nat.and_two_pow_sub_one_eq_mod]

lemma advances_of_unchanged {answer : TaskPool Subscribers AirTask × Option AirOutput}
  (unchanged : storedSqn imsiBcd answer.1 = storedSqn imsiBcd pool)
  (silent : issuedSqns crypt imsiBcd answer = none) : Advances crypt imsiBcd pool answer :=
  ⟨storedSqn imsiBcd pool, 0, le_rfl, unchanged, by simp [silent]⟩

lemma sqns_of_built (built : Built crypt subscribers (.storing pending))
  (noWrap : pending.base.toNat + 32 * pending.request.count < 2 ^ 48) :
  pending.sqn.toNat = pending.base.toNat + 32 * pending.request.count ∧
    pending.vectors.map (vectorSqn crypt (subscribers (supiOf pending.request.imsiBcd))) =
      (List.range pending.request.count).map fun index =>
        pending.base.toNat + 32 * (index + 1) := by
  obtain ⟨sqns, last⟩ := built
  refine ⟨by rw [last, toNat_iterate_nextSqn noWrap], ?_⟩
  rw [sqns, ← List.range_map_iterate, List.map_map]
  refine List.map_congr_left ?_
  intro index inRange
  have within := List.mem_range.mp inRange
  rw [comp_apply, ← iterate_succ_apply]
  exact toNat_iterate_nextSqn (by omega)

lemma advances_of_write {tasks : List AirTask}
  (built : Built crypt pool.shared (.storing pending))
  (careful : Careful imsiBcd pool.shared (.storing pending))
  (writes : pending.request.update.writes = true)
  {answer : Except S6aFailure (List EUtranVector)}
  (answered : ∀ vectors, answer = .ok vectors → vectors = pending.vectors) :
  Advances crypt imsiBcd pool
    (⟨updateSqn pool.shared (supiOf pending.request.imsiBcd) pending.sqn, tasks⟩,
      some (pending.request.imsiBcd, answer)) := by
  by_cases own : pending.request.imsiBcd = imsiBcd
  · subst own
    obtain ⟨found, onward, noWrap⟩ := careful rfl writes
    obtain ⟨last, sqns⟩ := sqns_of_built built noWrap
    refine ⟨pending.base.toNat, pending.request.count, ?_, ?_, ?_⟩
    · rw [storedSqn, found]
      exact UInt64.le_iff_toNat_le.mp onward
    · simp only [storedSqn, updateSqn, update_self]
      rw [toNat_masked, last]
      exact Nat.mod_eq_of_lt noWrap
    · intro issued isIssued
      cases answer with
      | error failure => simp [issuedSqns] at isIssued
      | ok vectors =>
        obtain rfl := answered vectors rfl
        simp only [issuedSqns, if_pos, vectorSqn_updateSqn, sqns] at isIssued
        exact (Option.some.inj isIssued).symm
  · refine advances_of_unchanged ?_ ?_
    · have apart : supiOf imsiBcd ≠ supiOf pending.request.imsiBcd := fun same =>
        own (supiOf_injective same).symm
      simp only [storedSqn, updateSqn]
      rw [update_of_ne apart]
    · cases answer <;> simp [issuedSqns, own]

lemma advances_step (built : AllBuilt crypt pool)
  (careful : OnAdvance (Careful imsiBcd) pool input) :
  Advances crypt imsiBcd pool ((airSystem crypt aucKasme).machine.step pool input) := by
  cases input with
  | start request => exact advances_of_unchanged rfl rfl
  | advance index =>
    simp only [machine]
    cases found : pool.tasks[index]? with
    | none => exact advances_of_unchanged rfl rfl
    | some task =>
      have holds := careful task found
      have isBuilt := built.tasks task (List.mem_of_getElem? found)
      cases task with
      | reading request =>
        simp only [airSystem]
        cases request.readError with
        | some error => exact advances_of_unchanged rfl rfl
        | none =>
          cases request.begin crypt aucKasme (pool.shared (supiOf request.imsiBcd)) with
          | error failure | ok pending => exact advances_of_unchanged rfl rfl
      | storing pending =>
        simp only [airSystem]
        cases outcome : pending.request.update with
        | stored =>
          refine advances_of_write isBuilt holds (by rw [outcome]; rfl) ?_
          intro vectors answered
          exact (Except.ok.inj answered).symm
        | failed error written =>
          cases written with
          | false => exact advances_of_unchanged rfl rfl
          | true =>
            refine advances_of_write isBuilt holds (by rw [outcome]; rfl) ?_
            intro vectors answered
            cases answered

/-- In every interleaving in which each write finds the SQN that its request read and the
vectors of a request start from no older one, the SQNs of the vectors returned for a subscriber
are strictly increasing until they wrap. -/
theorem issuedIn_increasing {pool : TaskPool Subscribers AirTask} (idle : pool.tasks = [])
  {inputs : List (PoolInput AirRequest)}
  (careful : (airSystem crypt aucKasme).machine.Along
    (OnAdvance (Careful imsiBcd)) pool inputs) :
  (issuedIn crypt aucKasme imsiBcd pool inputs).Pairwise (· < ·) := by
  have initially : AllBuilt crypt pool := ⟨trivial, by simp [idle]⟩
  have along := Machine.along_invariant _ (fun _ _ before _ => allBuilt_step before)
    initially careful
  have stepwise : (airSystem crypt aucKasme).machine.Along (fun pool input =>
      Advances crypt imsiBcd pool ((airSystem crypt aucKasme).machine.step pool input))
        pool inputs :=
    Machine.along_imp _ (fun _ _ both => advances_step both.1 both.2) along
  refine List.pairwise_flatten.mpr ⟨?_, ?_⟩
  · refine Machine.emitted_forall _ ?_ stepwise
    rintro state input sqns ⟨base, count, -, -, issued⟩ isIssued
    rw [issued sqns isIssued]
    exact List.pairwise_map.mpr (List.pairwise_lt_range.imp (by omega))
  · refine (Machine.emitted_pairwise _
      (fun pool sqns => ∀ sqn ∈ sqns, sqn ≤ storedSqn imsiBcd pool) ?_ ?_ ?_ stepwise).1
    · rintro state input sqns ⟨base, count, onward, -, issued⟩ isIssued earlier below first
        isFirst second isSecond
      rw [issued sqns isIssued] at isSecond
      obtain ⟨index, -, rfl⟩ := List.mem_map.mp isSecond
      have bounded := below first isFirst
      omega
    · rintro state input earlier ⟨base, count, onward, stored, -⟩ below sqn isSqn
      have bounded := below sqn isSqn
      omega
    · rintro state input sqns ⟨base, count, -, stored, issued⟩ isIssued sqn isSqn
      rw [issued sqns isIssued] at isSqn
      obtain ⟨index, inRange, rfl⟩ := List.mem_map.mp isSqn
      have within := List.mem_range.mp inRange
      omega

end Runs

def airSubscribers : Subscribers := fun _ =>
  ⟨.replicate 16 0, true, .replicate 16 0, .replicate 16 0, .replicate 2 0, 0⟩

def airPool : TaskPool Subscribers AirTask := ⟨airSubscribers, []⟩

def airRequest (resync : Option (Block × Vector UInt8 14)) : AirRequest :=
  ⟨"999700000000001", [], resync, 1, fun _ => .replicate 16 0, none, .stored⟩

def usimToken : Block × Vector UInt8 14 :=
  (.replicate 16 0, #v[0, 0, 0, 0, 0, 64, 0, 0, 0, 0, 0, 64, 0, 0])

def airKasme : AucKasme := fun _ _ _ _ _ => .replicate 32 0

instance decidableCareful (imsiBcd : String) (subscribers : Subscribers) :
    (task : AirTask) → Decidable (Careful imsiBcd subscribers task)
  | .reading _ => inferInstanceAs (Decidable True)
  | .storing _ => inferInstanceAs (Decidable (_ → _ → _))

def oneByOne (first second : AirRequest) : List (PoolInput AirRequest) :=
  [.start first, .advance 0, .advance 0, .start second, .advance 0, .advance 0]

theorem issuedIn_increasing_oneByOne : (issuedIn .sample airKasme "999700000000001" airPool
    (oneByOne (airRequest none) (airRequest none))).Pairwise (· < ·) :=
  issuedIn_increasing rfl (by decide)

/-- Requests that overlap read the same SQN, and a token that comes again sets it back. -/
theorem sqn_issued_twice : ¬ (issuedIn .sample airKasme "999700000000001" airPool
      [.start (airRequest none), .start (airRequest none), .advance 0, .advance 1,
        .advance 0, .advance 0]).Nodup ∧
    ¬ (issuedIn .sample airKasme "999700000000001" airPool
      (oneByOne (airRequest (some usimToken)) (airRequest (some usimToken)))).Nodup := by
  decide +kernel

end NextGCore.Hss
