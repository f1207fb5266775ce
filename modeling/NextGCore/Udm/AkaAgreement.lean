import NextGCore.Crypt.Milenage
import NextGCore.Udm.AuthData

/-!
# Agreement of the two sides of AKA

The USIM's check against the network's vector, for any block cipher.  The two
sides share RAND and the keys; each has a sequence number of its own.
-/

namespace NextGCore.Crypt

open Udm (Sqn sqnValue)

@[simp]
lemma xorOctets_cancel {length : ℕ} (left right : Vector UInt8 length) :
  xorOctets (xorOctets left right) right = left := by
  apply Vector.ext
  intro index bound
  simp only [xorOctets, Vector.getElem_zipWith]
  exact xor_cancel _ _

lemma part_self {length : ℕ} (array : Vector UInt8 length) :
  part array 0 length (by omega) = array := by
  apply Vector.ext
  intro index bound
  simp [part]

section

variable {first second : ℕ} (left : Vector UInt8 first) (right : Vector UInt8 second)
  (start length : ℕ)

include left right start length

lemma part_append_left (within : start + length ≤ first) :
  part (left ++ right) start length (by omega) = part left start length within := by
  apply Vector.ext
  intro index bound
  have inLeft : start + index < first := by omega
  simp [part, Vector.getElem_append, inLeft]

lemma part_append_right (within : start + length ≤ second) :
  part (left ++ right) (first + start) length (by omega) = part right start length within := by
  apply Vector.ext
  intro index bound
  have notInLeft : ¬ first + start + index < first := by omega
  have position : first + start + index - first = start + index := by omega
  simp [part, Vector.getElem_append, notInLeft, position]

end

section Tokens

variable (concealed : Vector UInt8 6) (amf : Vector UInt8 2) (mac : Vector UInt8 8)

@[simp]
lemma part_autn_sqn :
  part (concealed ++ amf ++ mac : Block) 0 6 (by decide) = concealed :=
  calc
    part (concealed ++ amf ++ mac) 0 6 (by decide)
        = part (concealed ++ amf) 0 6 (by decide) := part_append_left _ mac 0 6 _
    _ = part concealed 0 6 (by decide) := part_append_left concealed amf 0 6 _
    _ = concealed := part_self _

@[simp]
lemma part_autn_amf : part (concealed ++ amf ++ mac : Block) 6 2 (by decide) = amf :=
  calc
    part (concealed ++ amf ++ mac) 6 2 (by decide)
        = part (concealed ++ amf) 6 2 (by decide) := part_append_left _ mac 6 2 _
    _ = part amf 0 2 (by decide) := part_append_right concealed amf 0 2 _
    _ = amf := part_self _

@[simp]
lemma part_autn_mac : part (concealed ++ amf ++ mac : Block) 8 8 (by decide) = mac :=
  (part_append_right (concealed ++ amf) mac 0 8 (by decide)).trans (part_self mac)

@[simp]
lemma part_auts_sqn : part (concealed ++ mac) 0 6 (by decide) = concealed :=
  (part_append_left concealed mac 0 6 (by decide)).trans (part_self concealed)

@[simp]
lemma part_auts_mac : part (concealed ++ mac) 6 8 (by decide) = mac :=
  (part_append_right concealed mac 0 8 (by decide)).trans (part_self mac)

end Tokens

variable (crypt : Primitives) (opc k rand : Block)

lemma milenageF1_ok (sqn : Sqn) (amf : Vector UInt8 2) :
  ∃ macA macS, milenageF1 crypt opc k rand sqn amf = .ok (macA, macS) :=
  ⟨_, _, rfl⟩

lemma milenageF2345_ok : ∃ res ck ik ak akStar,
    milenageF2345 crypt opc k rand = .ok (res, ck, ik, ak, akStar) :=
  ⟨_, _, _, _, _, rfl⟩

lemma sqnField : 0 + 6 ≤ 16 := by decide

lemma amfField : 6 + 2 ≤ 16 := by decide

lemma macField : 8 + 8 ≤ 16 := by decide

def autnSqn (autn : Block) : Except MilenageError Sqn := do
  let values ← milenageF2345 crypt opc k rand
  return xorOctets (part autn 0 6 sqnField) values.2.2.2.1

def Authentic (autn : Block) : Prop :=
  ∃ sqn macS, autnSqn crypt opc k rand autn = .ok sqn ∧
    milenageF1 crypt opc k rand sqn (part autn 6 2 amfField) = .ok (part autn 8 8 macField, macS)

def Above (autn : Block) (sqn : Sqn) : Prop :=
  ∃ carried, autnSqn crypt opc k rand autn = .ok carried ∧ sqnValue sqn < sqnValue carried

variable {crypt opc k rand}

section

variable {res : Vector UInt8 8} {ck ik : Block} {ak akStar : Vector UInt8 6}
  (functions : milenageF2345 crypt opc k rand = .ok (res, ck, ik, ak, akStar))

include functions

lemma milenageCheck_resynchronise {macA macS : Vector UInt8 8} {sqn : Sqn} {autn : Block}
  (f1 : milenageF1 crypt opc k rand sqn autsAmf = .ok (macA, macS))
  (below : ¬ sqn.toList < (xorOctets (part autn 0 6 (by decide)) ak).toList) :
  milenageCheck crypt opc k sqn rand autn =
    .ok (ik, ck, res, some (xorOctets sqn akStar ++ macS)) := by
  unfold milenageCheck
  rw [functions]
  change (if _ then _ else _) = _
  rw [if_pos below, f1]
  rfl

lemma milenageCheck_verify {macA macS : Vector UInt8 8} {sqn : Sqn} {autn : Block}
  (f1 : milenageF1 crypt opc k rand (xorOctets (part autn 0 6 (by decide)) ak)
    (part autn 6 2 (by decide)) = .ok (macA, macS))
  (above : sqn.toList < (xorOctets (part autn 0 6 (by decide)) ak).toList) :
  milenageCheck crypt opc k sqn rand autn =
    if macA ≠ part autn 8 8 (by decide) then .error .macMismatch
    else .ok (ik, ck, res, none) := by
  unfold milenageCheck
  rw [functions]
  change (if _ then _ else _) = _
  rw [if_neg (not_not_intro above), f1]
  rfl

lemma milenageAuts_auts {macA macS : Vector UInt8 8} {sqn : Sqn}
  (f1 : milenageF1 crypt opc k rand sqn autsAmf = .ok (macA, macS)) :
  milenageAuts crypt opc k rand (xorOctets sqn akStar ++ macS) = .ok sqn := by
  unfold milenageAuts
  rw [functions]
  simp only [bind, Except.bind, part_auts_sqn, xorOctets_cancel, f1, part_auts_mac]
  rw [if_neg (not_not_intro rfl)]
  rfl

lemma milenageGenerate_eq {macA macS : Vector UInt8 8} {sqn : Sqn} {amf : Vector UInt8 2}
  (f1 : milenageF1 crypt opc k rand sqn amf = .ok (macA, macS)) :
  milenageGenerate crypt opc amf k sqn rand =
    .ok (xorOctets sqn ak ++ amf ++ macA, ik, ck, ak, res) := by
  unfold milenageGenerate
  rw [f1, functions]
  rfl

lemma autnSqn_eq {autn : Block} :
  autnSqn crypt opc k rand autn = .ok (xorOctets (part autn 0 6 (by decide)) ak) := by
  unfold autnSqn
  rw [functions]
  rfl

lemma above_iff {autn : Block} {sqn : Sqn} :
  Above crypt opc k rand autn sqn ↔
    sqn.toList < (xorOctets (part autn 0 6 (by decide)) ak).toList := by
  unfold Above
  rw [autnSqn_eq functions, ← Udm.sqnValue_lt_iff]
  constructor
  · rintro ⟨carried, same, above⟩
    rwa [Except.ok.inj same]
  · intro above
    exact ⟨_, rfl, above⟩

lemma milenageCheck_fresh {macA macS : Vector UInt8 8} {sqn own : Sqn} {amf : Vector UInt8 2}
  (f1 : milenageF1 crypt opc k rand sqn amf = .ok (macA, macS))
  (above : sqnValue own < sqnValue sqn) :
  milenageCheck crypt opc k own rand (xorOctets sqn ak ++ amf ++ macA) =
    .ok (ik, ck, res, none) := by
  rw [@milenageCheck_verify _ _ _ _ _ _ _ _ _ functions macA macS]
  · rw [part_autn_mac, if_neg (not_not_intro rfl)]
  · rw [part_autn_sqn, part_autn_amf, xorOctets_cancel]
    exact f1
  · rw [part_autn_sqn, xorOctets_cancel]
    exact (Udm.sqnValue_lt_iff own sqn).mp above

lemma milenageCheck_stale {macA ownMacA ownMacS : Vector UInt8 8}
  {sqn own : Sqn} {amf : Vector UInt8 2}
  (f1 : milenageF1 crypt opc k rand own autsAmf = .ok (ownMacA, ownMacS))
  (notAbove : ¬ sqnValue own < sqnValue sqn) :
  milenageCheck crypt opc k own rand (xorOctets sqn ak ++ amf ++ macA) =
    .ok (ik, ck, res, some (xorOctets own akStar ++ ownMacS)) := by
  apply milenageCheck_resynchronise functions f1
  rw [part_autn_sqn, xorOctets_cancel]
  exact fun above => notAbove ((Udm.sqnValue_lt_iff own sqn).mpr above)

end

lemma milenageCheck_authentic {own : Sqn} {autn : Block}
  (above : Above crypt opc k rand autn own) {answer}
  (accepted : milenageCheck crypt opc k own rand autn = .ok answer) :
  Authentic crypt opc k rand autn := by
  obtain ⟨res, ck, ik, ak, akStar, functions⟩ := milenageF2345_ok crypt opc k rand
  have above := (above_iff functions).mp above
  obtain ⟨macA, macS, f1⟩ := milenageF1_ok crypt opc k rand
    (xorOctets (part autn 0 6 (by decide)) ak) (part autn 6 2 (by decide))
  rw [milenageCheck_verify functions f1 above] at accepted
  by_cases same : macA = part autn 8 8 (by decide)
  · subst same
    exact ⟨_, macS, autnSqn_eq functions, f1⟩
  · rw [if_pos same] at accepted
    cases accepted

lemma milenageCheck_of_not_above {own : Sqn} {autn : Block}
  (notAbove : ¬ Above crypt opc k rand autn own) :
  ∃ answer, milenageCheck crypt opc k own rand autn = .ok answer := by
  obtain ⟨res, ck, ik, ak, akStar, functions⟩ := milenageF2345_ok crypt opc k rand
  obtain ⟨macA, macS, f1⟩ := milenageF1_ok crypt opc k rand own autsAmf
  rw [above_iff functions] at notAbove
  exact ⟨_, milenageCheck_resynchronise functions f1 notAbove⟩

variable (crypt opc k rand)

/-- The USIM accepts the network's vector when its SQN is above the USIM's own;
when it is not, the network reads the USIM's SQN from the AUTS it answers with.
An AUTN with a wrong MAC gets no answer exactly when its SQN is above. -/
theorem aka_agreement : (∀ amf s t, ∃ autn ik ck ak res,
    milenageGenerate crypt opc amf k s rand = .ok (autn, ik, ck, ak, res) ∧
      (sqnValue t < sqnValue s →
        milenageCheck crypt opc k t rand autn = .ok (ik, ck, res, none)) ∧
      (¬ sqnValue t < sqnValue s →
        ∃ auts, milenageCheck crypt opc k t rand autn = .ok (ik, ck, res, some auts) ∧
          milenageAuts crypt opc k rand auts = .ok t)) ∧
  (∀ t autn, ((∃ answer, milenageCheck crypt opc k t rand autn = .ok answer) →
        Authentic crypt opc k rand autn) ↔
      Above crypt opc k rand autn t ∨ Authentic crypt opc k rand autn) := by
  constructor
  · intro amf s t
    obtain ⟨res, ck, ik, ak, akStar, functions⟩ := milenageF2345_ok crypt opc k rand
    obtain ⟨macA, macS, f1⟩ := milenageF1_ok crypt opc k rand s amf
    obtain ⟨ownMacA, ownMacS, own⟩ := milenageF1_ok crypt opc k rand t autsAmf
    refine ⟨_, _, _, _, _, milenageGenerate_eq functions f1, ?_, ?_⟩
    · exact milenageCheck_fresh functions f1
    · intro notAbove
      exact ⟨_, milenageCheck_stale functions own notAbove, milenageAuts_auts functions own⟩
  · intro t autn
    by_cases above : Above crypt opc k rand autn t
    · refine iff_of_true ?_ (.inl above)
      rintro ⟨answer, accepted⟩
      exact milenageCheck_authentic above accepted
    · rw [or_iff_right above]
      constructor
      · intro answered
        exact answered (milenageCheck_of_not_above above)
      · intro authentic _
        exact authentic

theorem aka_agreement_sample : (∃ autn ik ck ak res,
    milenageGenerate .sample (.replicate 16 0) (.replicate 2 0) (.replicate 16 0)
        (.replicate 6 1) (.replicate 16 0) = .ok (autn, ik, ck, ak, res) ∧
      milenageCheck .sample (.replicate 16 0) (.replicate 16 0) (.replicate 6 0)
        (.replicate 16 0) autn = .ok (ik, ck, res, none)) ∧
  ∃ auts, milenageAuts .sample (.replicate 16 0) (.replicate 16 0) (.replicate 16 0) auts =
    .ok (.replicate 6 1) := by
  have agreement := (aka_agreement .sample (.replicate 16 0) (.replicate 16 0)
    (.replicate 16 0)).1 (.replicate 2 0)
  constructor
  · obtain ⟨autn, ik, ck, ak, res, generated, fresh, -⟩ :=
      agreement (.replicate 6 1) (.replicate 6 0)
    exact ⟨autn, ik, ck, ak, res, generated, fresh (by decide)⟩
  · obtain ⟨_, _, _, _, _, _, -, stale⟩ := agreement (.replicate 6 0) (.replicate 6 1)
    obtain ⟨auts, _, read⟩ := stale (by decide)
    exact ⟨auts, read⟩

def forgedAutn : Block := .set (.replicate 16 0) 8 1

/-- No SQN is above the greatest, so the forged AUTN is answered. -/
theorem forged_autn_answered :
  ¬ ((∃ answer, milenageCheck .sample (.replicate 16 0) (.replicate 16 0) (.replicate 6 0xFF)
        (.replicate 16 0) forgedAutn = .ok answer) →
      Authentic .sample (.replicate 16 0) (.replicate 16 0) (.replicate 16 0) forgedAutn) := by
  intro onlyAuthentic
  obtain ⟨sqn, macS, carried, f1⟩ :=
    onlyAuthentic ⟨_, milenageCheck_resynchronise rfl rfl (by decide +kernel)⟩
  obtain rfl := Except.ok.inj carried
  have macs := congrArg Prod.fst (Except.ok.inj f1)
  dsimp only at macs
  exact absurd macs (by decide +kernel)

end NextGCore.Crypt
