import NextGCore.Library.Buffer

/-!
# Types, lengths and values

`tlv.rs`: elements with a type, a length and a value, in five modes that differ in the widths of
the fields before the value.  A length goes out with its upper octets cut off when the mode has no
room for them, and the value goes out whole all the same.
-/

namespace NextGCore.Core

open Library List Nat

inductive TlvError where
  | bufferTooSmall
  | invalidFormat
  | unexpectedEnd
  | invalidMode (mode : UInt8)
  deriving DecidableEq

def nextgcoreTlvModeT1L1 : UInt8 := 1

def nextgcoreTlvModeT1L2 : UInt8 := 2

def nextgcoreTlvModeT1L2I1 : UInt8 := 3

def nextgcoreTlvModeT2L2 : UInt8 := 4

def nextgcoreTlvModeT1 : UInt8 := 5

structure TlvWidths where
  type : ℕ
  length : ℕ
  tlvInstance : ℕ

def tlvWidths (mode : UInt8) : Option TlvWidths :=
  if mode = nextgcoreTlvModeT1L1 then some ⟨1, 1, 0⟩
  else if mode = nextgcoreTlvModeT1L2 then some ⟨1, 2, 0⟩
  else if mode = nextgcoreTlvModeT1L2I1 then some ⟨1, 2, 1⟩
  else if mode = nextgcoreTlvModeT2L2 then some ⟨2, 2, 0⟩
  else if mode = nextgcoreTlvModeT1 then some ⟨1, 0, 0⟩
  else none

structure NextgcoreTlv where
  mode : UInt8
  tlvType : UInt32
  length : UInt32
  tlvInstance : UInt8
  value : List UInt8
  deriving DecidableEq

structure NextgcoreTlvMsg where
  mode : UInt8
  elements : List NextgcoreTlv
  deriving DecidableEq

namespace NextgcoreTlv

variable (mode : UInt8) (tlv : NextgcoreTlv)

def new (tlvType : UInt32) (value : List UInt8) : NextgcoreTlv :=
  ⟨mode, tlvType, UInt32.ofNat value.length, 0, value⟩

def withInstance (tlvType : UInt32) (tlvInstance : UInt8) (value : List UInt8) : NextgcoreTlv :=
  ⟨mode, tlvType, UInt32.ofNat value.length, tlvInstance, value⟩

def headerSize : ℕ :=
  if mode = nextgcoreTlvModeT1L1 then 2
  else if mode = nextgcoreTlvModeT1L2 then 3
  else if mode = nextgcoreTlvModeT1L2I1 then 4
  else if mode = nextgcoreTlvModeT2L2 then 4
  else if mode = nextgcoreTlvModeT1 then 1
  else 0

def encodedSize : ℕ := headerSize tlv.mode + tlv.value.length

def header (widths : TlvWidths) : List UInt8 :=
  beOctets widths.type tlv.tlvType.toNat ++ beOctets widths.length tlv.length.toNat ++
    beOctets widths.tlvInstance tlv.tlvInstance.toNat

def encode (buf : List UInt8) : List UInt8 × Except TlvError ℕ :=
  if buf.length < tlv.encodedSize then (buf, .error .bufferTooSmall)
  else
    match tlvWidths tlv.mode with
    | none => (buf, .error (.invalidMode tlv.mode))
    | some widths =>
      let octets := tlv.header widths ++ tlv.value
      (octets ++ buf.drop octets.length, .ok octets.length)

def numberAt (buf : List UInt8) (offset width : ℕ) : ℕ := beValue ((buf.drop offset).take width)

def decode (buf : List UInt8) (mode : UInt8) : Except TlvError (NextgcoreTlv × ℕ) :=
  if buf.length < headerSize mode then .error .unexpectedEnd
  else
    match tlvWidths mode with
    | none => .error (.invalidMode mode)
    | some widths =>
      let tlvType := numberAt buf 0 widths.type
      let length := numberAt buf widths.type widths.length
      let tlvInstance := numberAt buf (widths.type + widths.length) widths.tlvInstance
      let offset := widths.type + widths.length + widths.tlvInstance
      if buf.length < offset + length then .error .unexpectedEnd
      else
        .ok (⟨mode, UInt32.ofNat tlvType, UInt32.ofNat length, UInt8.ofNat tlvInstance,
          (buf.drop offset).take length⟩, offset + length)

def read : Reading (List UInt8) TlvError NextgcoreTlv := fun rest =>
  (decode rest mode).map fun (tlv, len) => (tlv, rest.drop len)

end NextgcoreTlv

namespace NextgcoreTlvMsg

variable (msg : NextgcoreTlvMsg)

def new (mode : UInt8) : NextgcoreTlvMsg := ⟨mode, []⟩

def add (tlvType : UInt32) (value : List UInt8) : NextgcoreTlvMsg :=
  { msg with elements := msg.elements ++ [.new msg.mode tlvType value] }

def addWithInstance (tlvType : UInt32) (tlvInstance : UInt8) (value : List UInt8) :
  NextgcoreTlvMsg :=
  { msg with elements := msg.elements ++ [.withInstance msg.mode tlvType tlvInstance value] }

def encodeFrom : List NextgcoreTlv → ℕ → List UInt8 → List UInt8 × Except TlvError ℕ
  | [], offset, buf => (buf, .ok offset)
  | tlv :: rest, offset, buf =>
    match tlv.encode (buf.drop offset) with
    | (written, .ok len) => encodeFrom rest (offset + len) (buf.take offset ++ written)
    | (written, .error error) => (buf.take offset ++ written, .error error)

def encode (buf : List UInt8) : List UInt8 × Except TlvError ℕ :=
  encodeFrom msg.elements 0 buf

def decode (buf : List UInt8) (mode : UInt8) : Except TlvError NextgcoreTlvMsg :=
  (Reading.many id (NextgcoreTlv.read mode) buf).map fun answer => ⟨mode, answer.1⟩

def encodedSize (msg : NextgcoreTlvMsg) : ℕ := (msg.elements.map NextgcoreTlv.encodedSize).sum

end NextgcoreTlvMsg

namespace NextgcoreTlv

def octets (widths : TlvWidths) (tlv : NextgcoreTlv) : List UInt8 := tlv.header widths ++ tlv.value

def Framed (widths : TlvWidths) (tlv : NextgcoreTlv) : Prop :=
  tlv.length.toNat % 256 ^ widths.length = tlv.value.length

instance (widths : TlvWidths) (tlv : NextgcoreTlv) : Decidable (tlv.Framed widths) :=
  inferInstanceAs (Decidable (_ = _))

/-- What a message says by an element: its type, its instance where one is carried, its value. -/
def content (widths : TlvWidths) (tlv : NextgcoreTlv) : UInt32 × Option UInt8 × List UInt8 :=
  (tlv.tlvType, if widths.tlvInstance = 0 then none else some tlv.tlvInstance, tlv.value)

def received (widths : TlvWidths) (tlv : NextgcoreTlv) : NextgcoreTlv :=
  { tlv with
    length := UInt32.ofNat tlv.value.length
    tlvInstance := UInt8.ofNat (tlv.tlvInstance.toNat % 256 ^ widths.tlvInstance) }

variable {mode : UInt8} {widths : TlvWidths}

lemma widths_bounds (known : tlvWidths mode = some widths) :
  headerSize mode = widths.type + widths.length + widths.tlvInstance ∧
    (widths.type = 1 ∨ widths.type = 2) ∧ widths.length ≤ 2 ∧ widths.tlvInstance ≤ 1 := by
  unfold tlvWidths at known
  unfold headerSize
  split_ifs at known ⊢ <;> cases known <;> decide

lemma length_octets (known : tlvWidths mode = some widths) {tlv : NextgcoreTlv}
  (ofMode : tlv.mode = mode) : (tlv.octets widths).length = tlv.encodedSize := by
  rw [encodedSize, ofMode, (widths_bounds known).1]
  simp [octets, header, add_assoc]

lemma numberAt_append (front back : List UInt8) (width value : ℕ) :
  numberAt (front ++ (beOctets width value ++ back)) front.length width =
    value % 256 ^ width := by
  rw [numberAt, drop_left, take_left' (length_beOctets width value), beValue_beOctets_mod]

lemma beOctets_numberAt {buf : List UInt8} {offset width : ℕ}
  (inside : offset + width ≤ buf.length) :
  beOctets width (numberAt buf offset width) = (buf.drop offset).take width := by
  have length : ((buf.drop offset).take width).length = width := by
    rw [length_take, length_drop]
    omega
  have read := beOctets_beValue ((buf.drop offset).take width)
  rwa [length] at read

lemma numberAt_lt (buf : List UInt8) (offset width : ℕ) :
  numberAt buf offset width < 256 ^ width := by
  refine (beValue_lt _).trans_le (Nat.pow_le_pow_right (by decide) ?_)
  exact length_take_le _ _

lemma numberAt_octets (tlv : NextgcoreTlv) (tail : List UInt8) :
  numberAt (tlv.octets widths ++ tail) widths.type widths.length =
    tlv.length.toNat % 256 ^ widths.length := by
  have read := numberAt_append (beOctets widths.type tlv.tlvType.toNat)
    (beOctets widths.tlvInstance tlv.tlvInstance.toNat ++ (tlv.value ++ tail)) widths.length
    tlv.length.toNat
  simpa [octets, header] using read

lemma readsBack_octets (known : tlvWidths mode = some widths) {tlv : NextgcoreTlv}
  (ofMode : tlv.mode = mode) (within : tlv.tlvType.toNat < 256 ^ widths.type)
  (framed : tlv.Framed widths) :
  ReadsBack id (read mode) (tlv.octets widths) (tlv.received widths) := by
  intro stream tail front
  rw [id_eq] at front
  obtain ⟨size, -⟩ := widths_bounds known
  refine ⟨tail, ?_, rfl⟩
  have type : numberAt stream 0 widths.type = tlv.tlvType.toNat := by
    have read := numberAt_append [] (beOctets widths.length tlv.length.toNat ++
      (beOctets widths.tlvInstance tlv.tlvInstance.toNat ++ (tlv.value ++ tail))) widths.type
      tlv.tlvType.toNat
    rw [mod_eq_of_lt within] at read
    simpa [front, octets, header] using read
  have length : numberAt stream widths.type widths.length = tlv.value.length := by
    rw [front, numberAt_octets, framed]
  have tlvInstance : numberAt stream (widths.type + widths.length) widths.tlvInstance =
      tlv.tlvInstance.toNat % 256 ^ widths.tlvInstance := by
    have read := numberAt_append (beOctets widths.type tlv.tlvType.toNat ++
      beOctets widths.length tlv.length.toNat) (tlv.value ++ tail) widths.tlvInstance
      tlv.tlvInstance.toNat
    simpa [front, octets, header] using read
  have headerLength : (tlv.header widths).length =
      widths.type + widths.length + widths.tlvInstance := by simp [header, add_assoc]
  have cut : stream.drop (widths.type + widths.length + widths.tlvInstance) =
      tlv.value ++ tail := by
    rw [front, octets, append_assoc, ← headerLength, drop_left]
  have enough : widths.type + widths.length + widths.tlvInstance + tlv.value.length ≤
      stream.length := by
    rw [front, octets, length_append, length_append, headerLength]
    omega
  rw [read, decode, if_neg (by rw [size]; omega), known]
  simp only [type, length, tlvInstance]
  rw [if_neg (not_lt.mpr enough), cut, take_left, Except.map, ← drop_drop, cut, drop_left]
  simp [received, ofMode]

lemma decode_eq_ok (known : tlvWidths mode = some widths) {buf : List UInt8}
  {tlv : NextgcoreTlv} {len : ℕ} (answer : decode buf mode = .ok (tlv, len)) :
  len = widths.type + widths.length + widths.tlvInstance +
      numberAt buf widths.type widths.length ∧
    len ≤ buf.length ∧
    tlv = ⟨mode, UInt32.ofNat (numberAt buf 0 widths.type),
      UInt32.ofNat (numberAt buf widths.type widths.length),
      UInt8.ofNat (numberAt buf (widths.type + widths.length) widths.tlvInstance),
      (buf.drop (widths.type + widths.length + widths.tlvInstance)).take
        (numberAt buf widths.type widths.length)⟩ := by
  rw [decode, known] at answer
  dsimp only at answer
  split_ifs at answer with short cut
  cases answer
  exact ⟨rfl, not_lt.mp cut, rfl⟩

lemma toNat_ofNat_numberAt {width : ℕ} (narrow : width ≤ 2) (buf : List UInt8) (offset : ℕ) :
  (UInt32.ofNat (numberAt buf offset width)).toNat = numberAt buf offset width := by
  have below := numberAt_lt buf offset width
  have fits : 256 ^ width ≤ 256 ^ 2 := Nat.pow_le_pow_right (by decide) narrow
  exact UInt32.toNat_ofNat_of_lt' (by rw [UInt32.size]; omega)

lemma readsOnly_read (known : tlvWidths mode = some widths) :
  ReadsOnly id (read mode) fun chunk tlv =>
    (tlv.mode = mode ∧ tlv.Framed widths) ∧ chunk = tlv.octets widths := by
  intro stream tlv next answer
  obtain ⟨-, type, length, tlvInstance⟩ := widths_bounds known
  rw [read] at answer
  cases decoded : decode stream mode with
  | error error => simp [decoded, Except.map] at answer
  | ok found =>
    obtain ⟨foundTlv, len⟩ := found
    rw [decoded] at answer
    cases answer
    obtain ⟨size, inside, rfl⟩ := decode_eq_ok known decoded
    have lengthRead := toNat_ofNat_numberAt length stream widths.type
    have typeRead := @toNat_ofNat_numberAt widths.type (by omega) stream 0
    have instanceRead : (UInt8.ofNat (numberAt stream (widths.type + widths.length)
        widths.tlvInstance)).toNat =
        numberAt stream (widths.type + widths.length) widths.tlvInstance := by
      have below := numberAt_lt stream (widths.type + widths.length) widths.tlvInstance
      have fits : 256 ^ widths.tlvInstance ≤ 256 ^ 1 :=
        Nat.pow_le_pow_right (by decide) tlvInstance
      exact UInt8.toNat_ofNat_of_lt' (by rw [UInt8.size]; omega)
    refine ⟨stream.take len, (take_append_drop len stream).symm, ⟨rfl, ?_⟩, ?_⟩
    · rw [Framed]
      dsimp only
      rw [lengthRead, mod_eq_of_lt (numberAt_lt _ _ _), length_take, length_drop]
      omega
    · rw [octets, header]
      dsimp only
      rw [typeRead, lengthRead, instanceRead, beOctets_numberAt (by omega),
        beOctets_numberAt (by omega), beOctets_numberAt (by omega), drop_zero,
        ← take_add, ← take_add, ← take_add, size]

lemma received_content (known : tlvWidths mode = some widths) (tlv : NextgcoreTlv) :
  (tlv.received widths).content widths = tlv.content widths := by
  obtain ⟨-, -, -, tlvInstance⟩ := widths_bounds known
  rcases le_one_iff_eq_zero_or_eq_one.mp tlvInstance with none | one
  · simp [content, received, none]
  · have whole : tlv.tlvInstance.toNat % 256 ^ 1 = tlv.tlvInstance.toNat :=
      mod_eq_of_lt tlv.tlvInstance.toNat_lt
    simp only [content, received, one, whole, UInt8.ofNat_toNat]

lemma length_octets_of_content {first second : NextgcoreTlv}
  (same : first.content widths = second.content widths) :
  (first.octets widths).length = (second.octets widths).length := by
  have value : first.value = second.value := congrArg (fun content => content.2.2) same
  simp [octets, header, value]

lemma encode_eq (known : tlvWidths mode = some widths) {tlv : NextgcoreTlv}
  (ofMode : tlv.mode = mode) (buf : List UInt8) :
  tlv.encode buf = if buf.length < tlv.encodedSize then (buf, .error .bufferTooSmall)
    else (tlv.octets widths ++ buf.drop (tlv.octets widths).length,
      .ok (tlv.octets widths).length) := by
  rw [encode, ofMode, known]
  rfl

end NextgcoreTlv

namespace NextgcoreTlvMsg

open NextgcoreTlv

/-- Whatever buffer the message is encoded into, it takes up its size, and what it says is
decoded. -/
def RoundTrips (widths : TlvWidths) (msg : NextgcoreTlvMsg) : Prop :=
  ∀ buf left n, msg.encode buf = (left, .ok n) →
    n = msg.encodedSize ∧ ∃ decoded, decode (left.take n) msg.mode = .ok decoded ∧
      decoded.elements.map (content widths) = msg.elements.map (content widths)

lemma RoundTrips.decodes {widths : TlvWidths} {msg : NextgcoreTlvMsg}
  (roundTrips : msg.RoundTrips widths) {buf : List UInt8} {n : ℕ}
  (encoded : (msg.encode buf).2 = .ok n) :
  ∃ decoded, decode ((msg.encode buf).1.take n) msg.mode = .ok decoded ∧
    decoded.elements.map (content widths) = msg.elements.map (content widths) :=
  (roundTrips buf _ n (Prod.ext rfl encoded)).2

/-- Decoding ends by itself, and encoding what was decoded gives the octets again. -/
structure Reencodes (mode : UInt8) (input : List UInt8) : Prop where
  ends : ∀ tlvs rest, Reading.many id (NextgcoreTlv.read mode) input = .ok (tlvs, rest) → rest = []
  again : ∀ decoded, decode input mode = .ok decoded → ∀ buf : List UInt8,
    input.length ≤ buf.length →
      ∃ left, decoded.encode buf = (left, .ok input.length) ∧ left.take input.length = input

variable {mode : UInt8} {widths : TlvWidths} {elements : List NextgcoreTlv}

section

variable (known : tlvWidths mode = some widths)

include known

lemma length_flatMap_octets (ofMode : ∀ tlv ∈ elements, tlv.mode = mode) :
  (elements.flatMap (octets widths)).length = (elements.map NextgcoreTlv.encodedSize).sum := by
  rw [length_flatMap]
  exact congrArg sum (map_congr_left fun tlv listed =>
    length_octets known (ofMode tlv listed))

lemma encodeFrom_eq (ofMode : ∀ tlv ∈ elements, tlv.mode = mode) {offset : ℕ} {buf : List UInt8}
  (within : offset ≤ buf.length) :
  (offset + (elements.flatMap (octets widths)).length ≤ buf.length →
    encodeFrom elements offset buf = (buf.take offset ++ elements.flatMap (octets widths) ++
          buf.drop (offset + (elements.flatMap (octets widths)).length),
        .ok (offset + (elements.flatMap (octets widths)).length))) ∧
    (buf.length < offset + (elements.flatMap (octets widths)).length →
      ∀ left n, encodeFrom elements offset buf ≠ (left, .ok n)) := by
  induction elements generalizing offset buf with
  | nil =>
    refine ⟨fun _ => ?_, fun beyond => absurd beyond (not_lt.mpr within)⟩
    simp [encodeFrom]
  | cons tlv rest ih =>
    have size := length_octets known (ofMode tlv mem_cons_self)
    rw [encodeFrom, encode_eq known (ofMode tlv mem_cons_self), length_drop,
      flatMap_cons, length_append, ← size]
    by_cases room : buf.length - offset < (tlv.octets widths).length
    · rw [if_pos room]
      refine ⟨fun fits => by omega, fun _ left n answer => ?_⟩
      cases answer
    · rw [if_neg room, drop_drop]
      have cut : (buf.take offset).length = offset := length_take_of_le within
      have front : (buf.take offset ++ (tlv.octets widths ++
          buf.drop (offset + (tlv.octets widths).length))).take
            (offset + (tlv.octets widths).length) = buf.take offset ++ tlv.octets widths := by
        rw [← append_assoc, take_left' (by rw [length_append, cut])]
      have back (more : ℕ) : (buf.take offset ++ (tlv.octets widths ++
          buf.drop (offset + (tlv.octets widths).length))).drop
            (offset + (tlv.octets widths).length + more) =
              buf.drop (offset + (tlv.octets widths).length + more) := by
        rw [← append_assoc, ← drop_drop, drop_left' (by rw [length_append, cut]), drop_drop]
      have length : (buf.take offset ++ (tlv.octets widths ++
          buf.drop (offset + (tlv.octets widths).length))).length = buf.length := by
        rw [length_append, length_append, cut, length_drop]
        omega
      obtain ⟨fits, refused⟩ := @ih
        (fun tlv listed => ofMode tlv (mem_cons_of_mem _ listed))
        (offset + (tlv.octets widths).length) _ (by rw [length]; omega)
      rw [length] at fits refused
      constructor
      · intro enough
        refine (fits (by omega)).trans ?_
        rw [front, back]
        simp only [append_assoc, add_assoc]
      · exact fun beyond => refused (by omega)

lemma encode_eq_ok {msg : NextgcoreTlvMsg} (ofMode : ∀ tlv ∈ msg.elements, tlv.mode = mode)
  {buf left : List UInt8} {n : ℕ} (answer : msg.encode buf = (left, .ok n)) :
  n = msg.encodedSize ∧ left.take n = msg.elements.flatMap (octets widths) := by
  obtain ⟨fits, refused⟩ := encodeFrom_eq known ofMode (zero_le buf.length)
  rw [zero_add] at fits refused
  by_cases room : (msg.elements.flatMap (octets widths)).length ≤ buf.length
  · rw [encode, fits room] at answer
    cases answer
    refine ⟨length_flatMap_octets known ofMode, ?_⟩
    rw [take_zero, nil_append, take_left]
  · exact absurd answer (refused (not_le.mp room) left n)

lemma encode_of_room {msg : NextgcoreTlvMsg} (ofMode : ∀ tlv ∈ msg.elements, tlv.mode = mode)
  {buf : List UInt8} (room : (msg.elements.flatMap (octets widths)).length ≤ buf.length) :
  ∃ left, msg.encode buf = (left, .ok (msg.elements.flatMap (octets widths)).length) ∧
    left.take (msg.elements.flatMap (octets widths)).length =
      msg.elements.flatMap (octets widths) := by
  obtain ⟨fits, -⟩ := encodeFrom_eq known ofMode (zero_le buf.length)
  rw [zero_add] at fits
  refine ⟨_, fits room, ?_⟩
  rw [take_zero, nil_append, take_left]

lemma octets_ne_nil (tlv : NextgcoreTlv) : tlv.octets widths ≠ [] := by
  obtain ⟨-, type, -⟩ := widths_bounds known
  refine ne_nil_of_length_pos ?_
  simp only [octets, header, length_append, length_beOctets]
  omega

lemma decode_flatMap_octets (ofMode : ∀ tlv ∈ elements, tlv.mode = mode)
  (within : ∀ tlv ∈ elements, tlv.tlvType.toNat < 256 ^ widths.type)
  (framed : ∀ tlv ∈ elements, tlv.Framed widths) :
  decode (elements.flatMap (octets widths)) mode =
    .ok ⟨mode, elements.map (received widths)⟩ := by
  have each : Forall₂ (ReadsBack id (NextgcoreTlv.read mode))
      (elements.map (octets widths)) (elements.map (received widths)) := by
    rw [forall₂_map_left_iff, forall₂_map_right_iff, forall₂_same]
    exact fun tlv listed =>
      readsBack_octets known (ofMode tlv listed) (within tlv listed) (framed tlv listed)
  have nonempty : ∀ chunk ∈ elements.map (octets widths), chunk ≠ [] := by
    intro chunk listed
    obtain ⟨tlv, -, rfl⟩ := mem_map.mp listed
    exact octets_ne_nil known tlv
  obtain ⟨next, answer, -⟩ := ReadsBack.many each nonempty _ rfl
  rw [decode, flatMap_def, answer]
  rfl

omit known in
lemma framed_of_flatMap_eq {others : List NextgcoreTlv}
  (contents : others.map (content widths) = elements.map (content widths))
  (same : others.flatMap (octets widths) = elements.flatMap (octets widths))
  (framed : ∀ tlv ∈ others, tlv.Framed widths) : ∀ tlv ∈ elements, tlv.Framed widths := by
  induction elements generalizing others with
  | nil => exact fun tlv listed => absurd listed not_mem_nil
  | cons tlv rest ih =>
    cases others with
    | nil => cases contents
    | cons other others =>
      rw [map_cons, map_cons, List.cons.injEq] at contents
      rw [flatMap_cons, flatMap_cons] at same
      obtain ⟨first, later⟩ := append_inj same (length_octets_of_content contents.1)
      rw [forall_mem_cons] at framed ⊢
      refine ⟨?_, ih contents.2 later framed.2⟩
      have value : other.value = tlv.value :=
        congrArg (fun content => content.2.2) contents.1
      rw [Framed, ← numberAt_octets tlv [], ← first, numberAt_octets, framed.1, value]

lemma many_read_ends {input rest : List UInt8} {tlvs : List NextgcoreTlv}
  (answer : Reading.many id (NextgcoreTlv.read mode) input = .ok (tlvs, rest)) : rest = [] := by
  refine ReadsOnly.many_exhausted (readsOnly_read known) ?_ answer
  rintro chunk tlv ⟨-, rfl⟩
  exact octets_ne_nil known tlv

lemma of_decode {input : List UInt8} {decoded : NextgcoreTlvMsg}
  (answer : decode input mode = .ok decoded) :
  (∀ tlv ∈ decoded.elements, tlv.mode = mode ∧ tlv.Framed widths) ∧
    input = decoded.elements.flatMap (octets widths) := by
  rw [decode] at answer
  cases loop : Reading.many id (NextgcoreTlv.read mode) input with
  | error error => simp [loop, Except.map] at answer
  | ok found =>
    obtain ⟨tlvs, rest⟩ := found
    rw [loop] at answer
    cases answer
    obtain ⟨chunk, whole, read, rfl⟩ :=
      ReadsOnly.each (readsOnly_read known) input tlvs rest loop
    rw [id_eq, id_eq, many_read_ends known loop, append_nil] at whole
    exact ⟨read, whole⟩

lemma reencodes (input : List UInt8) : Reencodes mode input := by
  refine ⟨fun tlvs rest => many_read_ends known, fun decoded answer buf room => ?_⟩
  obtain ⟨read, whole⟩ := of_decode known answer
  rw [whole] at room ⊢
  exact encode_of_room known (fun tlv listed => (read tlv listed).1) room

end

/-- A message of elements whose types fit comes out as it went in, and every string of octets that
decodes is encoded to itself, exactly when the length of every element is written as that of its
value. -/
theorem roundTrips_iff {msg : NextgcoreTlvMsg} (known : tlvWidths msg.mode = some widths)
  (ofMode : ∀ tlv ∈ msg.elements, tlv.mode = msg.mode)
  (within : ∀ tlv ∈ msg.elements, tlv.tlvType.toNat < 256 ^ widths.type) :
  (msg.RoundTrips widths ∧ ∀ input, Reencodes msg.mode input) ↔
    ∀ tlv ∈ msg.elements, tlv.Framed widths := by
  constructor
  · rintro ⟨roundTrips, -⟩
    have room : (msg.elements.flatMap (octets widths)).length ≤
        (replicate (msg.elements.flatMap (octets widths)).length (0 : UInt8)).length :=
      length_replicate.ge
    obtain ⟨left, encoded, written⟩ := encode_of_room known ofMode room
    obtain ⟨-, decoded, answer, contents⟩ := roundTrips _ left _ encoded
    rw [written] at answer
    obtain ⟨read, whole⟩ := of_decode known answer
    exact framed_of_flatMap_eq contents whole.symm fun tlv listed => (read tlv listed).2
  · intro framed
    refine ⟨fun buf left n answer => ?_, reencodes known⟩
    obtain ⟨size, written⟩ := encode_eq_ok known ofMode answer
    refine ⟨size, _, by rw [written, decode_flatMap_octets known ofMode within framed], ?_⟩
    rw [map_map]
    exact map_congr_left fun tlv _ => received_content known tlv

/-- Two elements of one octet each. -/
theorem roundTrips_two :
  (((new nextgcoreTlvModeT1L2I1).addWithInstance 1 7 [0xAA]).add 2 [0xBB]).RoundTrips ⟨1, 2, 1⟩ :=
  ((roundTrips_iff (by rfl) (by decide) (by decide)).mpr (by decide)).1

/-- The length of 256 octets is written as zero. -/
theorem not_roundTrips :
  ¬ ((new nextgcoreTlvModeT1L1).add 1 (replicate 256 0)).RoundTrips ⟨1, 1, 0⟩ := by
  intro roundTrips
  have encoded : (((new nextgcoreTlvModeT1L1).add 1 (replicate 256 0)).encode
      (replicate 258 0)).2 = .ok 258 := by decide +kernel
  obtain ⟨decoded, answer, contents⟩ := roundTrips.decodes encoded
  have many : decode ((((new nextgcoreTlvModeT1L1).add 1 (replicate 256 0)).encode
      (replicate 258 0)).1.take 258) nextgcoreTlvModeT1L1 =
        .ok ⟨1, ⟨1, 1, 0, 0, []⟩ :: replicate 128 ⟨1, 0, 0, 0, []⟩⟩ := by decide +kernel
  cases many.symm.trans answer
  exact absurd (congrArg List.length contents) (by decide +kernel)

end NextgcoreTlvMsg

end NextGCore.Core
