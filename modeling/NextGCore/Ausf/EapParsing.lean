import NextGCore.Ausf.EapAkaPrime

/-!
# Parsing an EAP packet by its offsets

`decode` and `zero_at_mac` as they index and slice their input, in loops of a given number of
turns, and that they come to what is said of the octets themselves.
-/

namespace NextGCore.Ausf

open AkaPrimeAttribute EapCode Nat
open Crypt (Bytes)

variable {bytes raw : Bytes} {start stop : ℕ} (turns : ℕ)

inductive Trap where
  | outOfRange
  | unfinished

def index (bytes : Bytes) (position : ℕ) : Except Trap UInt8 :=
  if inside : position < bytes.length then .ok (bytes.get ⟨position, inside⟩)
  else .error .outOfRange

def slice (bytes : Bytes) (start stop : ℕ) : Except Trap Bytes :=
  if stop < start ∨ bytes.length < stop then .error .outOfRange
  else .ok ((bytes.take stop).drop start)

def zeroRange (bytes : Bytes) (start stop : ℕ) : Except Trap Bytes :=
  if stop < start ∨ bytes.length < stop then .error .outOfRange
  else .ok (bytes.take start ++ List.replicate (stop - start) 0 ++ bytes.drop stop)

lemma index_eq_ok {position : ℕ} (inside : position < bytes.length) :
  index bytes position = .ok (bytes.getD position 0) := by
  rw [index, dif_pos inside, List.get_eq_getElem, List.getD_eq_getElem?_getD,
    List.getElem?_eq_getElem inside, Option.getD_some]

lemma slice_eq_ok (ordered : start ≤ stop) (inside : stop ≤ bytes.length) :
  slice bytes start stop = .ok ((bytes.take stop).drop start) :=
  if_neg (by omega)

lemma slice_backwards (backwards : stop < start) : slice bytes start stop = .error .outOfRange :=
  if_pos (.inl backwards)

lemma zeroRange_eq_ok (ordered : start ≤ stop) (inside : stop ≤ bytes.length) :
  zeroRange bytes start stop =
    .ok (bytes.take start ++ List.replicate (stop - start) 0 ++ bytes.drop stop) :=
  if_neg (by omega)

def decodeAttributes (data : Bytes) (length : ℕ) : ℕ → ℕ → Except Trap (List (UInt8 × Bytes))
  | 0, _ => .error .unfinished
  | turns + 1, offset =>
    if offset + 2 ≤ length then do
      let attrType ← index data offset
      let words ← index data (offset + 1)
      let size := words.toNat * 4
      if length < offset + size then .ok []
      else do
        let attrData ← slice data (offset + 2) (offset + size)
        let rest ← decodeAttributes data length turns (offset + size)
        .ok ((attrType, attrData) :: rest)
    else .ok []

/-- `EapPacket::decode` of a request or a response, from its type on. -/
def EapPacket.decodeContents (data : Bytes) (code : EapCode) (identifier : UInt8) (length : ℕ) :
  Except Trap (Option EapPacket) := do
  let typeOctet ← index data 4
  match EapType.fromU8 typeOctet with
  | none => .ok none
  | some eapType =>
    let subtypeOctet ← index data 5
    match AkaPrimeSubtype.fromU8 subtypeOctet with
    | none => .ok none
    | some subtype =>
      let attributes ← decodeAttributes data length turns 8
      .ok (some ⟨code, identifier, some eapType, some subtype, attributes⟩)

def EapPacket.decodeWithin (data : Bytes) : Except Trap (Option EapPacket) :=
  if data.length < 4 then .ok none
  else do
    let codeOctet ← index data 0
    match fromU8 codeOctet with
    | none => .ok none
    | some code =>
      let identifier ← index data 1
      let high ← index data 2
      let low ← index data 3
      let length := fromBe16 high low
      if data.length < length then .ok none
      else if code = .success ∨ code = .failure then
        .ok (some ⟨code, identifier, none, none, []⟩)
      else if length < 8 then .ok none
      else decodeContents turns data code identifier length

/-- The loop of `zero_at_mac`; `out` is a copy of `raw` until it returns. -/
def zeroAtMacFrom (raw : Bytes) (length : ℕ) : ℕ → ℕ → Except Trap (Option Bytes)
  | 0, _ => .error .unfinished
  | turns + 1, offset =>
    if offset + 2 ≤ length then do
      let attrType ← index raw offset
      let words ← index raw (offset + 1)
      let size := words.toNat * 4
      if size = 0 ∨ length < offset + size then .ok none
      else if attrType = atMac.toU8 ∧ 20 ≤ size then do
        let out ← zeroRange raw (offset + 4) (offset + 20)
        .ok (some out)
      else zeroAtMacFrom raw length turns (offset + size)
    else .ok none

def zeroAtMacWithin (raw : Bytes) : Except Trap (Option Bytes) :=
  if raw.length < 8 then .ok none
  else do
    let high ← index raw 2
    let low ← index raw 3
    let length := fromBe16 high low
    if raw.length < length then .ok none else zeroAtMacFrom raw length turns 8

def eapLength (raw : Bytes) : ℕ := fromBe16 (raw.getD 2 0) (raw.getD 3 0)

/-- The octets that an attribute at `offset` takes by its length octet. -/
def attributeSize (raw : Bytes) (offset : ℕ) : ℕ := (raw.getD (offset + 1) 0).toNat * 4

/-- The attributes stand one after the other from `offset` on, each in whole below `length`. -/
inductive AttributesWithin (raw : Bytes) (length : ℕ) : ℕ → List (UInt8 × Bytes) → Prop where
  | nil {offset} : AttributesWithin raw length offset []
  | cons {offset rest} : 0 < attributeSize raw offset →
      offset + attributeSize raw offset ≤ length →
      AttributesWithin raw length (offset + attributeSize raw offset) rest →
      AttributesWithin raw length offset
        ((raw.getD offset 0, (raw.take (offset + attributeSize raw offset)).drop (offset + 2)) ::
          rest)

/-- Going from attribute to attribute from `offset` on comes to one of length zero. -/
inductive ComesToEmpty (raw : Bytes) (length : ℕ) : ℕ → Prop where
  | here {offset} : offset + 2 ≤ length → attributeSize raw offset = 0 →
      ComesToEmpty raw length offset
  | later {offset} : offset + 2 ≤ length → offset + attributeSize raw offset ≤ length →
      ComesToEmpty raw length (offset + attributeSize raw offset) →
      ComesToEmpty raw length offset

/-- A request or a response of a known type and subtype that is there in whole, and has an
attribute of length zero where `decode` comes by. -/
def MeetsEmptyAttribute (raw : Bytes) : Prop :=
  4 ≤ raw.length ∧ (fromU8 (raw.getD 0 0) = some .request ∨
      fromU8 (raw.getD 0 0) = some .response) ∧
    8 ≤ eapLength raw ∧ eapLength raw ≤ raw.length ∧
    (EapType.fromU8 (raw.getD 4 0)).isSome ∧ (AkaPrimeSubtype.fromU8 (raw.getD 5 0)).isSome ∧
    ComesToEmpty raw (eapLength raw) 8

section Loops

variable {raw : Bytes} {length : ℕ} {turns offset : ℕ}

section

variable (held : length ≤ raw.length)

include held

lemma decodeAttributes_succ (more : offset + 2 ≤ length) :
  decodeAttributes raw length (turns + 1) offset =
    if length < offset + attributeSize raw offset then .ok []
    else if attributeSize raw offset = 0 then .error .outOfRange
    else (decodeAttributes raw length turns (offset + attributeSize raw offset)).map
      ((raw.getD offset 0,
        (raw.take (offset + attributeSize raw offset)).drop (offset + 2)) :: ·) := by
  rw [decodeAttributes, if_pos more, index_eq_ok (by omega), index_eq_ok (by omega)]
  change (if length < offset + attributeSize raw offset then Except.ok [] else _) = _
  by_cases past : length < offset + attributeSize raw offset
  · rw [if_pos past, if_pos past]
  · rw [if_neg past, if_neg past]
    by_cases empty : attributeSize raw offset = 0
    · rw [if_pos empty]
      change (slice raw (offset + 2) (offset + attributeSize raw offset) >>= _) = _
      rw [slice_backwards (by omega)]
      rfl
    · rw [if_neg empty]
      change (slice raw (offset + 2) (offset + attributeSize raw offset) >>= _) = _
      have whole : 4 ≤ attributeSize raw offset := by
        unfold attributeSize at empty ⊢
        omega
      rw [slice_eq_ok (by omega) (by omega)]
      change (decodeAttributes raw length turns (offset + attributeSize raw offset) >>= _) = _
      cases decodeAttributes raw length turns (offset + attributeSize raw offset) <;> rfl

lemma exists_decodeAttributes (inside : offset ≤ length) (enough : length < offset + turns)
  (full : ¬ComesToEmpty raw length offset) :
  ∃ attributes, decodeAttributes raw length turns offset = .ok attributes ∧
    AttributesWithin raw length offset attributes := by
  induction turns generalizing offset with
  | zero => omega
  | succ turns ih =>
    by_cases more : offset + 2 ≤ length
    · rw [decodeAttributes_succ held more]
      by_cases past : length < offset + attributeSize raw offset
      · exact ⟨[], if_pos past, .nil⟩
      · have within : offset + attributeSize raw offset ≤ length := not_lt.mp past
        have some : attributeSize raw offset ≠ 0 := fun empty => full (.here more empty)
        obtain ⟨rest, read, stand⟩ := ih within (by omega)
          fun later => full (.later more within later)
        rw [if_neg past, if_neg some, read]
        exact ⟨_, rfl, .cons (by omega) within stand⟩
    · exact ⟨[], by rw [decodeAttributes, if_neg more], .nil⟩

lemma decodeAttributes_ne_ok (empty : ComesToEmpty raw length offset)
  (attributes : List (UInt8 × Bytes)) :
  decodeAttributes raw length turns offset ≠ .ok attributes := by
  induction turns generalizing offset attributes with
  | zero => exact nofun
  | succ turns ih =>
    cases empty with
    | here more none =>
      rw [decodeAttributes_succ held more, if_neg (by omega), if_pos none]
      exact nofun
    | later more within later =>
      rw [decodeAttributes_succ held more, if_neg (not_lt.mpr within)]
      split
      · exact nofun
      · intro returned
        obtain ⟨rest, read, -⟩ := Sbi.ok_of_map returned
        exact ih later rest read

lemma zeroAtMacFrom_succ (more : offset + 2 ≤ length) :
  zeroAtMacFrom raw length (turns + 1) offset =
    if attributeSize raw offset = 0 ∨ length < offset + attributeSize raw offset then .ok none
    else if raw.getD offset 0 = atMac.toU8 ∧ 20 ≤ attributeSize raw offset then
      (zeroRange raw (offset + 4) (offset + 20)).map some
    else zeroAtMacFrom raw length turns (offset + attributeSize raw offset) := by
  rw [zeroAtMacFrom, if_pos more, index_eq_ok (by omega), index_eq_ok (by omega)]
  rfl

lemma exists_zeroAtMacFrom (inside : offset ≤ length) (enough : length < offset + turns) :
  ∃ zeroed, zeroAtMacFrom raw length turns offset = .ok zeroed := by
  induction turns generalizing offset with
  | zero => omega
  | succ turns ih =>
    by_cases more : offset + 2 ≤ length
    · rw [zeroAtMacFrom_succ held more]
      by_cases ends : attributeSize raw offset = 0 ∨ length < offset + attributeSize raw offset
      · exact ⟨none, if_pos ends⟩
      · rw [if_neg ends]
        by_cases mac : raw.getD offset 0 = atMac.toU8 ∧ 20 ≤ attributeSize raw offset
        · rw [if_pos mac, zeroRange_eq_ok (by omega) (by omega)]
          exact ⟨_, rfl⟩
        · rw [if_neg mac]
          exact ih (by omega) (by omega)
    · exact ⟨none, by rw [zeroAtMacFrom, if_neg more]⟩

end

end Loops

namespace EapPacket

variable {raw : Bytes} {turns : ℕ} {code : EapCode} {identifier : UInt8}

lemma decodeContents_eq {length : ℕ} {eapType : EapType} {subtype : AkaPrimeSubtype}
  (six : 6 ≤ raw.length) (typed : EapType.fromU8 (raw.getD 4 0) = some eapType)
  (subtyped : AkaPrimeSubtype.fromU8 (raw.getD 5 0) = some subtype) :
  decodeContents turns raw code identifier length =
    (decodeAttributes raw length turns 8).map fun attributes =>
      some ⟨code, identifier, some eapType, some subtype, attributes⟩ := by
  simp only [decodeContents, index_eq_ok (show 4 < raw.length by omega),
    index_eq_ok (show 5 < raw.length by omega), bind, Except.bind, typed, subtyped]
  cases decodeAttributes raw length turns 8 <;> rfl

lemma decodeContents_none {length : ℕ} (six : 6 ≤ raw.length)
  (unknown : EapType.fromU8 (raw.getD 4 0) = none ∨
    AkaPrimeSubtype.fromU8 (raw.getD 5 0) = none) :
  decodeContents turns raw code identifier length = .ok none := by
  cases typed : EapType.fromU8 (raw.getD 4 0) with
  | none =>
    simp only [decodeContents, index_eq_ok (show 4 < raw.length by omega), bind, Except.bind, typed]
  | some eapType =>
    have subtyped := unknown.resolve_left (by rw [typed]; exact nofun)
    simp only [decodeContents, index_eq_ok (show 4 < raw.length by omega),
      index_eq_ok (show 5 < raw.length by omega), bind, Except.bind, typed, subtyped]

lemma decodeWithin_of_known (header : 4 ≤ raw.length)
  (known : fromU8 (raw.getD 0 0) = some code) (turns : ℕ) :
  decodeWithin turns raw = if raw.length < eapLength raw then .ok none
    else if code = .success ∨ code = .failure then
      .ok (some ⟨code, raw.getD 1 0, none, none, []⟩)
    else if eapLength raw < 8 then .ok none
    else decodeContents turns raw code (raw.getD 1 0) (eapLength raw) := by
  have octets (position : ℕ) (inside : position < 4) :
      index raw position = .ok (raw.getD position 0) := index_eq_ok (by omega)
  simp only [decodeWithin, if_neg (not_lt.mpr header), octets 0 (by omega),
    octets 1 (by omega), octets 2 (by omega), octets 3 (by omega), bind, Except.bind, known]
  rfl

end EapPacket

lemma zeroAtMacWithin_eq (long : 8 ≤ raw.length) (turns : ℕ) : zeroAtMacWithin turns raw =
    if raw.length < eapLength raw then .ok none
    else zeroAtMacFrom raw (eapLength raw) turns 8 := by
  rw [zeroAtMacWithin, if_neg (not_lt.mpr long), index_eq_ok (by omega), index_eq_ok (by omega)]
  rfl

/-!
## Which packets the EAP parsers get through

An attribute of length zero is sliced backwards by `decode`.  That is the only way for either
parser to go wrong: otherwise both return, and what `decode` returns stands within the length.
-/

namespace EapPacket

variable {raw : Bytes}

structure HasAttributes (raw : Bytes) (code : EapCode) (eapType : EapType)
  (subtype : AkaPrimeSubtype) : Prop where
  header : 4 ≤ raw.length
  known : fromU8 (raw.getD 0 0) = some code
  carries : code = .request ∨ code = .response
  long : 8 ≤ eapLength raw
  held : eapLength raw ≤ raw.length
  typed : EapType.fromU8 (raw.getD 4 0) = some eapType
  subtyped : AkaPrimeSubtype.fromU8 (raw.getD 5 0) = some subtype

lemma decodeWithin_cases (raw : Bytes) :
  (∃ code eapType subtype, HasAttributes raw code eapType subtype ∧ ∀ turns,
    decodeWithin turns raw = (decodeAttributes raw (eapLength raw) turns 8).map fun attributes =>
      some ⟨code, raw.getD 1 0, some eapType, some subtype, attributes⟩) ∨
  ((∀ code eapType subtype, ¬HasAttributes raw code eapType subtype) ∧ ∃ result, (∀ turns,
    decodeWithin turns raw = .ok result) ∧
    ∀ packet, result = some packet → packet.attributes = []) := by
  by_cases short : raw.length < 4
  · refine .inr ⟨fun _ _ _ has => ?_, none, fun turns => if_pos short, fun _ some => by cases some⟩
    exact absurd has.header (not_le.mpr short)
  · have header : 4 ≤ raw.length := not_lt.mp short
    cases known : fromU8 (raw.getD 0 0) with
    | none =>
      refine .inr ⟨fun _ _ _ has => ?_, none, fun turns => ?_, fun _ some => by cases some⟩
      · cases known.symm.trans has.known
      · simp only [decodeWithin, if_neg short, index_eq_ok (show 0 < raw.length by omega), bind,
          Except.bind, known]
    | some code =>
      have opened := decodeWithin_of_known header known
      by_cases missing : raw.length < eapLength raw
      · refine .inr ⟨fun _ _ _ has => absurd has.held (not_le.mpr missing), none,
          fun turns => (opened turns).trans (if_pos missing), fun _ some => by cases some⟩
      · by_cases ended : code = .success ∨ code = .failure
        · refine .inr ⟨fun _ _ _ has => ?_, some ⟨code, raw.getD 1 0, none, none, []⟩,
            fun turns => ?_, fun _ some => by cases some; rfl⟩
          · cases known.symm.trans has.known
            rcases ended with rfl | rfl <;> rcases has.carries with carries | carries <;>
              cases carries
          · rw [opened, if_neg missing, if_pos ended]
        · by_cases brief : eapLength raw < 8
          · refine .inr ⟨fun _ _ _ has => absurd has.long (not_le.mpr brief), none,
              fun turns => ?_, fun _ some => by cases some⟩
            rw [opened, if_neg missing, if_neg ended, if_pos brief]
          · have contents (turns : ℕ) : decodeWithin turns raw =
                decodeContents turns raw code (raw.getD 1 0) (eapLength raw) := by
              rw [opened, if_neg missing, if_neg ended, if_neg brief]
            have six : 6 ≤ raw.length := by omega
            cases typed : EapType.fromU8 (raw.getD 4 0) with
            | none =>
              refine .inr ⟨fun _ _ _ has => ?_, none, fun turns => ?_, fun _ some => by cases some⟩
              · cases typed.symm.trans has.typed
              · rw [contents, decodeContents_none six (.inl typed)]
            | some eapType =>
              cases subtyped : AkaPrimeSubtype.fromU8 (raw.getD 5 0) with
              | none =>
                refine .inr ⟨fun _ _ _ has => ?_, none, fun turns => ?_,
                  fun _ some => by cases some⟩
                · cases subtyped.symm.trans has.subtyped
                · rw [contents, decodeContents_none six (.inr subtyped)]
              | some subtype =>
                have carries : code = .request ∨ code = .response := by
                  cases code <;> simp at ended ⊢
                exact .inl ⟨code, eapType, subtype, ⟨header, known, carries, not_lt.mp brief,
                    not_lt.mp missing, typed, subtyped⟩,
                  fun turns => by rw [contents, decodeContents_eq six typed subtyped]⟩

end EapPacket

variable {raw : Bytes}

lemma exists_hasAttributes_of_meetsEmptyAttribute (meets : MeetsEmptyAttribute raw) :
  (∃ code eapType subtype, EapPacket.HasAttributes raw code eapType subtype) ∧
    ComesToEmpty raw (eapLength raw) 8 := by
  obtain ⟨header, known, long, held, typed, subtyped, comes⟩ := meets
  obtain ⟨eapType, typed⟩ := Option.isSome_iff_exists.mp typed
  obtain ⟨subtype, subtyped⟩ := Option.isSome_iff_exists.mp subtyped
  refine ⟨?_, comes⟩
  rcases known with known | known
  · exact ⟨_, _, _, header, known, .inl rfl, long, held, typed, subtyped⟩
  · exact ⟨_, _, _, header, known, .inr rfl, long, held, typed, subtyped⟩

lemma EapPacket.HasAttributes.meetsEmptyAttribute {code : EapCode} {eapType : EapType}
  {subtype : AkaPrimeSubtype} (has : EapPacket.HasAttributes raw code eapType subtype)
  (comes : ComesToEmpty raw (eapLength raw) 8) : MeetsEmptyAttribute raw := by
  refine ⟨has.header, ?_, has.long, has.held, ?_, ?_, comes⟩
  · rcases has.carries with carries | carries
    · exact .inl (carries ▸ has.known)
    · exact .inr (carries ▸ has.known)
  · rw [has.typed]
    rfl
  · rw [has.subtyped]
    rfl

lemma exists_zeroAtMacWithin (raw : Bytes) :
  ∃ zeroed, zeroAtMacWithin (raw.length + 1) raw = .ok zeroed := by
  by_cases short : raw.length < 8
  · exact ⟨none, if_pos short⟩
  · rw [zeroAtMacWithin_eq (not_lt.mp short)]
    by_cases missing : raw.length < eapLength raw
    · exact ⟨none, if_pos missing⟩
    · rw [if_neg missing]
      by_cases brief : eapLength raw < 8
      · -- The length may be too small for the header: then there is no turn at all.
        exact ⟨none, by rw [zeroAtMacFrom, if_neg (by omega)]⟩
      · exact exists_zeroAtMacFrom (by omega) (by omega) (by omega)

/-- Whatever the octets, both parsers return, in a bounded number of turns and without reaching
outside of their input, and what `decode` returns stands within the length. -/
theorem eap_parsing_total_iff (raw : Bytes) :
  ((∃ turns result, EapPacket.decodeWithin turns raw = .ok result ∧
      ∀ packet, result = some packet → AttributesWithin raw (eapLength raw) 8 packet.attributes) ∧
    ∃ turns zeroed, zeroAtMacWithin turns raw = .ok zeroed) ↔ ¬MeetsEmptyAttribute raw := by
  constructor
  · rintro ⟨⟨turns, result, decoded, -⟩, -⟩ meets
    obtain ⟨⟨code, eapType, subtype, has⟩, comes⟩ :=
      exists_hasAttributes_of_meetsEmptyAttribute meets
    rcases EapPacket.decodeWithin_cases raw with ⟨_, _, _, -, reads⟩ | ⟨no, -⟩
    · rw [reads] at decoded
      obtain ⟨attributes, read, -⟩ := Sbi.ok_of_map decoded
      exact decodeAttributes_ne_ok has.held comes attributes read
    · exact no _ _ _ has
  · intro fine
    refine ⟨?_, raw.length + 1, exists_zeroAtMacWithin raw⟩
    rcases EapPacket.decodeWithin_cases raw with
      ⟨code, eapType, subtype, has, reads⟩ | ⟨-, result, returns, none⟩
    · have full : ¬ComesToEmpty raw (eapLength raw) 8 :=
        fun comes => fine (has.meetsEmptyAttribute comes)
      have enough : eapLength raw < 8 + (raw.length + 1) := by have := has.held; omega
      obtain ⟨attributes, read, within⟩ := exists_decodeAttributes has.held has.long enough full
      refine ⟨raw.length + 1, _, by rw [reads, read]; rfl, ?_⟩
      rintro packet ⟨⟩
      exact within
    · refine ⟨0, result, returns 0, fun packet is => ?_⟩
      rw [none packet is]
      exact .nil

def emptyAttributeRequest : Bytes := [1, 1, 0, 10, 50, 1, 0, 0, 1, 0]

/-- No number of turns takes `decode` past an attribute of length zero. -/
theorem not_eap_parsing_total :
  ¬∀ raw : Bytes, (∃ turns result, EapPacket.decodeWithin turns raw = .ok result ∧
      ∀ packet, result = some packet → AttributesWithin raw (eapLength raw) 8 packet.attributes) ∧
    ∃ turns zeroed, zeroAtMacWithin turns raw = .ok zeroed := by
  intro total
  obtain ⟨⟨turns, result, decoded, -⟩, -⟩ := total emptyAttributeRequest
  cases turns with
  | zero | succ turns => cases decoded

end NextGCore.Ausf
