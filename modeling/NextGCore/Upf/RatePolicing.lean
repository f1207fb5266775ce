import NextGCore.Smf.N4Build
import NextGCore.Upf.Establishment

/-!
# The rates of a QER

A rate that the SMF asks for in bit/s goes over N4 in kbit/s, is bit/s again in what the UPF parses,
and is taken for kbit/s by the token buckets of the data plane.
-/

namespace NextGCore.Upf

open Library Smf ParsedIe List Option PfcpMessageBuilder UInt8

variable {params : QerParams}

variable (qer : ParsedCreateQer)

variable {ies : List ParsedIe} {qer : ParsedCreateQer}

lemma beU16_beOctets (word : UInt16) :
  beU16 (ofNat (word.toNat / 256 ^ 1)) (ofNat (word.toNat / 256 ^ 0)) = word := by
  have small := word.toNat_lt
  apply UInt16.toNat_inj.mp
  rw [toNat_beU16, toNat_ofNat', toNat_ofNat']
  omega

lemma parseFrom_tlv (fuel : ℕ) {ieType : UInt16} {value : Bytes} (rest : Bytes)
  (short : value.length < 65536) :
  parseFrom (fuel + 1) (tlv ieType value ++ rest) = ⟨ieType, value⟩ :: parseFrom fuel rest := by
  have isLength : (beU16 (ofNat (value.length / 256 ^ 1))
      (ofNat (value.length / 256 ^ 0))).toNat = value.length := by
    rw [toNat_beU16, toNat_ofNat', toNat_ofNat']
    omega
  rw [tlv, append_assoc, append_assoc]
  simp only [beOctets, cons_append, nil_append, parseFrom]
  rw [isLength, if_neg (by simp), beU16_beOctets, take_left, drop_left]

lemma parseFrom_flatMap_tlv {fuel : ℕ} (enough : ies.length ≤ fuel)
  (short : ∀ ie ∈ ies, ie.value.length < 65536) :
  parseFrom fuel (ies.flatMap fun ie => tlv ie.ieType ie.value) = ies := by
  induction ies generalizing fuel with
  | nil => cases fuel <;> rfl
  | cons ie ies ih =>
    obtain ⟨isShort, shortRest⟩ := forall_mem_cons.mp short
    cases fuel with
    | zero => exact absurd enough (Nat.not_succ_le_zero _)
    | succ fuel =>
      rw [flatMap_cons, parseFrom_tlv fuel _ isShort, ih (Nat.le_of_succ_le_succ enough) shortRest]

lemma length_flatMap_tlv (ies : List ParsedIe) :
  ies.length ≤ (ies.flatMap fun ie => tlv ie.ieType ie.value).length := by
  induction ies with
  | nil => exact Nat.le_refl 0
  | cons ie ies ih =>
    rw [flatMap_cons, length_append, length_cons, tlv, length_append,
      length_append, length_beOctets, length_beOctets]
    omega

lemma parseAll_flatMap_tlv (short : ∀ ie ∈ ies, ie.value.length < 65536) :
  parseAll (ies.flatMap fun ie => tlv ie.ieType ie.value) = ies :=
  parseFrom_flatMap_tlv (length_flatMap_tlv ies) short

structure TokenBucket where
  tokens : ℚ
  maxTokens : ℚ
  refillRate : ℚ
  lastRefill : ℕ

namespace TokenBucket

def new (maxTokens refillRate : ℚ) (now : ℕ) : TokenBucket :=
  ⟨maxTokens, maxTokens, refillRate, now⟩

def fromMbrKbps (mbrKbps : UInt64) (now : ℕ) : TokenBucket :=
  let bytesPerSec : ℚ := mbrKbps.toNat * 125
  new (max (bytesPerSec * (1 / 100)) 1500) bytesPerSec now

def armed (kbps : UInt64) (now : ℕ) : Option TokenBucket :=
  if 0 < kbps then some (fromMbrKbps kbps now) else none

end TokenBucket

structure PolicedQer where
  qer : DataPlaneQer
  ulMbrBucket : Option TokenBucket
  dlMbrBucket : Option TokenBucket
  ulGbrBucket : Option TokenBucket
  dlGbrBucket : Option TokenBucket

namespace PolicedQer

def qerId (policed : PolicedQer) : UInt32 := policed.qer.qerId

def new (qerId : UInt32) : PolicedQer :=
  ⟨⟨qerId, true, true, 0, 0, 0, 0, none, 0, false⟩, none, none, none, none⟩

variable (policed : PolicedQer)

def setGates (ulGateOpen dlGateOpen : Bool) : PolicedQer :=
  { policed with qer := { policed.qer with ulGateOpen, dlGateOpen } }

def setMbr (ulKbps dlKbps : UInt64) (now : ℕ) : PolicedQer :=
  { policed with
    qer := { policed.qer with ulMbr := ulKbps, dlMbr := dlKbps }
    ulMbrBucket := TokenBucket.armed ulKbps now
    dlMbrBucket := TokenBucket.armed dlKbps now }

def setGbr (ulKbps dlKbps : UInt64) (now : ℕ) : PolicedQer :=
  { policed with
    qer := { policed.qer with ulGbr := ulKbps, dlGbr := dlKbps }
    ulGbrBucket := TokenBucket.armed ulKbps now
    dlGbrBucket := TokenBucket.armed dlKbps now }

def setQfi (qfi : UInt8) : PolicedQer := { policed with qer := policed.qer.setQfi qfi }

end PolicedQer

/-- The QER of a turn of the loop in `handle_pfcp_session_event`. -/
def ParsedCreateQer.police (now : ℕ) : PolicedQer :=
  let policed := (PolicedQer.new qer.qerId).setGates (qer.ulGate == 0) (qer.dlGate == 0)
  let policed := (policed.setMbr qer.ulMbr qer.dlMbr now).setGbr qer.ulGbr qer.dlGbr now
  qer.qfi.elim policed policed.setQfi

lemma ParsedCreateQer.qerId_police (now : ℕ) : (qer.police now).qerId = qer.qerId := by
  unfold police
  cases qer.qfi <;> rfl

def SessionEstablished.policedQers (event : SessionEstablished) (now : ℕ) :
  KeyedTable PolicedQer PolicedQer.qerId :=
  tableOf (event.qers.map fun qer => qer.police now)

inductive RateKind where
  | mbr
  | gbr

inductive Direction where
  | uplink
  | downlink

def Direction.of {Rate : Type} (rates : Rate × Rate) : Direction → Rate
  | .uplink => rates.1
  | .downlink => rates.2

def encodedRate (params : QerParams) (kind : RateKind) (direction : Direction) : Option UInt64 :=
  match kind with
  | .mbr => params.mbr.map direction.of
  | .gbr => params.gbr.map direction.of

def PolicedQer.bucket (policed : PolicedQer) : RateKind → Direction → Option TokenBucket
  | .mbr, .uplink => policed.ulMbrBucket
  | .mbr, .downlink => policed.dlMbrBucket
  | .gbr, .uplink => policed.ulGbrBucket
  | .gbr, .downlink => policed.dlGbrBucket

/-- The QER is in a session that was established with what the SMF encoded, as the only one of its
ID. -/
def InstalledFrom (params : QerParams) (policed : PolicedQer) : Prop :=
  ∃ (event : SessionEstablished) (now : ℕ) (qer : ParsedCreateQer),
    parseCreateQer (buildCreateQer params) = .ok qer ∧ qer ∈ event.qers ∧
      (∀ other ∈ event.qers, other.qerId = qer.qerId → other = qer) ∧
      (event.policedQers now).lookup qer.qerId = some policed

def qerElements (params : QerParams) : List ParsedIe :=
  let gates := params.gateStatus.1 &&& 0x03 ||| (params.gateStatus.2 &&& 0x03) <<< (2 : UInt8)
  ⟨PfcpIe.QER_ID, beOctets 4 params.qerId.toNat⟩ :: ⟨Smf.PfcpIe.GATE_STATUS, [gates]⟩ ::
    ((params.mbr.map fun rates => ParsedIe.mk Smf.PfcpIe.MBR
        (kbitOctets rates.1 ++ kbitOctets rates.2)).toList ++
      (params.gbr.map fun rates => ParsedIe.mk Smf.PfcpIe.GBR
        (kbitOctets rates.1 ++ kbitOctets rates.2)).toList ++
      (params.qfi.map fun qfi => ParsedIe.mk PfcpIe.QFI [qfi]).toList)

lemma buildCreateQer_eq (params : QerParams) :
  buildCreateQer params = (qerElements params).flatMap fun ie => tlv ie.ieType ie.value := by
  obtain ⟨qerId, gates, mbr, gbr, qfi⟩ := params
  cases mbr <;> cases gbr <;> cases qfi <;>
    simp [buildCreateQer, qerElements, PfcpMessageBuilder.new, build, addTlv, addU8, addU32,
      addQerId, addGateStatus, addMbr,
      addGbr, addQfi, Smf.PfcpIe.QER_ID, PfcpIe.QER_ID,
      Smf.PfcpIe.QFI, PfcpIe.QFI]

lemma length_kbitOctets (rate : UInt64) : (kbitOctets rate).length = 5 := by
  rw [kbitOctets, length_drop, length_beOctets]

lemma parseAll_buildCreateQer (params : QerParams) :
  parseAll (buildCreateQer params) = qerElements params := by
  rw [buildCreateQer_eq, parseAll_flatMap_tlv]
  obtain ⟨qerId, gates, mbr, gbr, qfi⟩ := params
  cases mbr <;> cases gbr <;> cases qfi <;> simp [qerElements, length_kbitOctets]

def parsedRate (rate : UInt64) : UInt64 := UInt64.ofNat (1000 * (kbitsOf rate % 2 ^ 40))

lemma bitRate_kbitOctets (rate : UInt64) (rest : Bytes) :
  bitRate (kbitOctets rate ++ rest) = parsedRate rate := by
  have taken : (kbitOctets rate ++ rest).take 5 = beOctets 5 (kbitsOf rate) :=
    take_left' (length_kbitOctets rate)
  have number : beNumber (beOctets 5 (kbitsOf rate)) = kbitsOf rate % 2 ^ 40 :=
    beValue_beOctets_mod 5 (kbitsOf rate)
  have small : kbitsOf rate % 2 ^ 40 < 2 ^ 40 := Nat.mod_lt _ (by decide)
  rw [bitRate, taken, number, parsedRate, Nat.min_eq_left (by omega), Nat.mul_comm]

lemma bitRates_kbitOctets (uplink downlink : UInt64) :
  bitRates (kbitOctets uplink ++ kbitOctets downlink) =
    some (parsedRate uplink, parsedRate downlink) := by
  have downlinkRead := bitRate_kbitOctets downlink []
  rw [append_nil] at downlinkRead
  rw [bitRates, if_neg (by simp [length_kbitOctets]), bitRate_kbitOctets,
    drop_left' (length_kbitOctets uplink), downlinkRead]

def parsedRates (rates : Option (UInt64 × UInt64)) : UInt64 × UInt64 :=
  (rates.map fun rates => (parsedRate rates.1, parsedRate rates.2)).getD (0, 0)

lemma findRates_mbr (params : QerParams) :
  (findRates (qerElements params) 26).getD (0, 0) = parsedRates params.mbr := by
  obtain ⟨qerId, gates, mbr, gbr, qfi⟩ := params
  cases mbr with
  | none => cases gbr <;> cases qfi <;> rfl
  | some rates => exact congrArg (Option.getD · (0, 0)) (bitRates_kbitOctets rates.1 rates.2)

lemma findRates_gbr (params : QerParams) :
  (findRates (qerElements params) 27).getD (0, 0) = parsedRates params.gbr := by
  obtain ⟨qerId, gates, mbr, gbr, qfi⟩ := params
  cases gbr with
  | none => cases mbr <;> cases qfi <;> rfl
  | some rates =>
    cases mbr <;> exact congrArg (Option.getD · (0, 0)) (bitRates_kbitOctets rates.1 rates.2)

lemma parseCreateQer_build (params : QerParams) :
  ∃ qer, parseCreateQer (buildCreateQer params) = .ok qer ∧
    (qer.ulMbr, qer.dlMbr) = parsedRates params.mbr ∧
    (qer.ulGbr, qer.dlGbr) = parsedRates params.gbr := by
  have isNamed : findIe (qerElements params) PfcpIe.QER_ID =
      some ⟨PfcpIe.QER_ID, beOctets 4 params.qerId.toNat⟩ := rfl
  unfold parseCreateQer
  rw [parseAll_buildCreateQer]
  dsimp only
  rw [isNamed, findRates_mbr, findRates_gbr]
  exact ⟨_, rfl, rfl, rfl⟩

def ParsedCreateQer.rate : RateKind → Direction → UInt64
  | .mbr, .uplink => qer.ulMbr
  | .mbr, .downlink => qer.dlMbr
  | .gbr, .uplink => qer.ulGbr
  | .gbr, .downlink => qer.dlGbr

lemma bucket_police (now : ℕ) (kind : RateKind) (direction : Direction) :
  (qer.police now).bucket kind direction = TokenBucket.armed (qer.rate kind direction) now := by
  unfold ParsedCreateQer.police
  cases qer.qfi <;> cases kind <;> cases direction <;> rfl

lemma rate_of_parsed {kind : RateKind} {direction : Direction} {rate : UInt64}
  (parsed : parseCreateQer (buildCreateQer params) = .ok qer)
  (encoded : encodedRate params kind direction = some rate) :
  qer.rate kind direction = parsedRate rate := by
  obtain ⟨other, isParsed, isMbr, isGbr⟩ := parseCreateQer_build params
  obtain rfl := Except.ok.inj (parsed.symm.trans isParsed)
  cases kind with
  | mbr =>
    obtain ⟨rates, given, rfl⟩ := map_eq_some_iff.mp encoded
    rw [given] at isMbr
    obtain ⟨uplink, downlink⟩ := Prod.mk.inj isMbr
    cases direction with
    | uplink => exact uplink
    | downlink => exact downlink
  | gbr =>
    obtain ⟨rates, given, rfl⟩ := map_eq_some_iff.mp encoded
    rw [given] at isGbr
    obtain ⟨uplink, downlink⟩ := Prod.mk.inj isGbr
    cases direction with
    | uplink => exact uplink
    | downlink => exact downlink

lemma toNat_parsedRate (rate : UInt64) :
  (parsedRate rate).toNat = 1000 * (kbitsOf rate % 2 ^ 40) := by
  have small : kbitsOf rate % 2 ^ 40 < 2 ^ 40 := Nat.mod_lt _ (by decide)
  rw [parsedRate, UInt64.toNat_ofNat']
  omega

/-- So many octets a second for each kbit/s, from a bucket that is only there for a rate. -/
def refillOf (octetsPerKbit : ℚ) (kbits : ℕ) : Option ℚ :=
  if kbits = 0 then none else some (octetsPerKbit * kbits)

lemma refillRate_armed (rate : UInt64) (now : ℕ) :
  (TokenBucket.armed (parsedRate rate) now).map TokenBucket.refillRate =
    refillOf 125000 (kbitsOf rate % 2 ^ 40) := by
  have positive : 0 < parsedRate rate ↔ kbitsOf rate % 2 ^ 40 ≠ 0 := by
    rw [UInt64.lt_iff_toNat_lt, toNat_parsedRate]
    change 0 < 1000 * (kbitsOf rate % 2 ^ 40) ↔ _
    omega
  unfold TokenBucket.armed refillOf
  by_cases zero : kbitsOf rate % 2 ^ 40 = 0
  · rw [if_pos zero, if_neg (by simpa [positive] using zero), map_none]
  · rw [if_neg zero, if_pos (positive.mpr zero), map_some]
    simp only [TokenBucket.fromMbrKbps, TokenBucket.new, toNat_parsedRate]
    push_cast
    ring_nf

/-- A bucket refills 125 octets a second for each kbit/s, and there is none for no rate. -/
def Enforces (params : QerParams) (kind : RateKind) (direction : Direction) : Prop :=
  ∀ rate, encodedRate params kind direction = some rate → ∀ policed, InstalledFrom params policed →
    (policed.bucket kind direction).map TokenBucket.refillRate = refillOf 125 (kbitsOf rate)

lemma installedFrom_police (parsed : parseCreateQer (buildCreateQer params) = .ok qer) :
  InstalledFrom params (qer.police 0) := by
  refine ⟨⟨1, 1, none, 0, 0, none, [], [], [qer], [], []⟩, 0, qer, parsed,
    mem_singleton_self _, fun other inside _ => mem_singleton.mp inside, ?_⟩
  rw [SessionEstablished.policedQers, map_singleton, ← qer.qerId_police 0]
  exact lookup_tableOf (mem_singleton_self _) fun other inside _ =>
    mem_singleton.mp inside

lemma eq_police_of_installedFrom {policed : PolicedQer}
  (installed : InstalledFrom params policed) :
  ∃ qer now, parseCreateQer (buildCreateQer params) = .ok qer ∧ policed = qer.police now := by
  obtain ⟨event, now, qer, parsed, inside, alone, found⟩ := installed
  refine ⟨qer, now, parsed, ?_⟩
  have isPoliced : (event.policedQers now).lookup (qer.police now).qerId =
      some (qer.police now) := by
    refine lookup_tableOf (List.mem_map_of_mem inside) fun other isOther same => ?_
    obtain ⟨parsedOther, isInside, rfl⟩ := List.mem_map.mp isOther
    rw [ParsedCreateQer.qerId_police, ParsedCreateQer.qerId_police] at same
    rw [alone parsedOther isInside same]
  rw [ParsedCreateQer.qerId_police, found] at isPoliced
  exact Option.some.inj isPoliced

lemma kbitsOf_eq_zero_iff (rate : UInt64) : kbitsOf rate = 0 ↔ rate = 0 := by
  rw [← UInt64.toNat_inj, kbitsOf]
  change _ ↔ rate.toNat = 0
  omega

lemma refillOf_eq_iff (kbits : ℕ) :
  refillOf 125000 (kbits % 2 ^ 40) = refillOf 125 kbits ↔ kbits = 0 := by
  unfold refillOf
  constructor
  · intro agree
    by_contra nonzero
    by_cases zero : kbits % 2 ^ 40 = 0
    · rw [if_pos zero, if_neg nonzero] at agree
      cases agree
    · rw [if_neg zero, if_neg nonzero, Option.some.injEq] at agree
      have exact : (1000 * (kbits % 2 ^ 40 : ℕ) : ℚ) = kbits := by linarith
      have thousand : 1000 * (kbits % 2 ^ 40) = kbits := by exact_mod_cast exact
      have whole := Nat.div_add_mod kbits (2 ^ 40)
      -- 999 times what the octets hold is a multiple of 2 ^ 40, which is prime to 999
      have divides : 2 ^ 40 ∣ 999 * (kbits % 2 ^ 40) := ⟨kbits / 2 ^ 40, by linarith⟩
      have coprime : Nat.Coprime (2 ^ 40) 999 := by decide
      exact zero (Nat.eq_zero_of_dvd_of_lt (coprime.dvd_of_dvd_mul_left divides)
        (Nat.mod_lt _ (by decide)))
  · rintro rfl
    rfl

/-- Only a rate of zero is the rate that is enforced. -/
theorem enforces_iff (params : QerParams) (kind : RateKind) (direction : Direction) :
  Enforces params kind direction ↔
    ∀ rate, encodedRate params kind direction = some rate → rate = 0 := by
  refine forall₂_congr fun rate encoded => ?_
  have refill {qer : ParsedCreateQer} (now : ℕ)
      (parsed : parseCreateQer (buildCreateQer params) = .ok qer) :
      ((qer.police now).bucket kind direction).map TokenBucket.refillRate =
        refillOf 125000 (kbitsOf rate % 2 ^ 40) := by
    rw [bucket_police, rate_of_parsed parsed encoded, refillRate_armed]
  rw [← kbitsOf_eq_zero_iff, ← refillOf_eq_iff]
  constructor
  · intro enforces
    obtain ⟨qer, parsed, -⟩ := parseCreateQer_build params
    rw [← refill 0 parsed]
    exact enforces (qer.police 0) (installedFrom_police parsed)
  · intro agree policed installed
    obtain ⟨qer, now, parsed, rfl⟩ := eq_police_of_installedFrom installed
    rw [refill now parsed, agree]

def limited : QerParams := ⟨1, (0, 0), some (8000000, 16000000), none, none⟩

/-- The uplink is policed at 8 Gbit/s. -/
theorem limit_times_thousand : ¬ Enforces limited .mbr .uplink := by
  intro enforces
  obtain ⟨qer, parsed, -⟩ := parseCreateQer_build limited
  have encoded : encodedRate limited .mbr .uplink = some 8000000 := rfl
  have refill := enforces 8000000 encoded (qer.police 0) (installedFrom_police parsed)
  rw [bucket_police, rate_of_parsed parsed encoded, refillRate_armed, refillOf_eq_iff,
    kbitsOf_eq_zero_iff] at refill
  exact absurd refill (by decide)

end NextGCore.Upf
