import AisStation.Bits.Writer
import AisStation.Proofs.Bits.Fields

/-!
# Writers and readers of bit fields

Encoding a value of a field takes the low bits of a number and cuts or fills a text; decoding the
bits gives what is received of the value, and encoding what was decoded gives the bits back. A
writer appends the bits of what is written, and a reader decodes what comes next, so the two
simulate each other on any sequence of fields: what was written is received in the same order, and
what was read is written back as the same armor text.
-/

namespace AisStation

namespace BitField

/-- Gives a value of the field to the writer. A blob has its own width. -/
def write : (f : BitField) → f.Value → Write Unit
  | uint width, v => Write.uint v width
  | sint width, v => Write.sint v width
  | flag, b => Write.flag b
  | text count, cs => Write.text cs count
  | blob _, d => Write.blob d

/-- Is the value one that the field holds? Numbers are, whatever their size. -/
def Holds : (f : BitField) → f.Value → Prop
  | uint width, _ | sint width, _ => 0 < width
  | flag, _ => True
  | text count, cs => 0 ≤ count ∧ ∀ c ∈ cs.take count.toNat, SixBit.Coded c
  | blob width, d => width = d.length

instance : (f : BitField) → (v : f.Value) → Decidable (f.Holds v)
  | uint width, _ | sint width, _ => inferInstanceAs (Decidable (0 < width))
  | flag, _ => inferInstanceAs (Decidable True)
  | text count, cs =>
    inferInstanceAs (Decidable (0 ≤ count ∧ ∀ c ∈ cs.take count.toNat, SixBit.Coded c))
  | blob width, d => inferInstanceAs (Decidable (width = d.length))

/-- The bits of a value. -/
def encode : (f : BitField) → f.Value → Bits
  | uint width, v | sint width, v => Bits.ofInt width.toNat v
  | flag, b => [b]
  | text count, cs => SixBit.bitsOf ((SixBit.fit count.toNat cs).map SixBit.upper)
  | blob _, d => d.bits

/-- What is received of a value: of a number its low bits, of a text its first characters in upper
case, filled up. -/
def received : (f : BitField) → f.Value → f.Value
  | uint width, v => unsigned width.toNat v
  | sint width, v => signed width.toNat v
  | flag, b => b
  | text count, cs =>
    (cs.take count.toNat).map SixBit.upper ++
      List.replicate (count.toNat - cs.length) SixBit.pad
  | blob _, d => d

end BitField

/-! ## Texts -/

/-- Characters that have codes are appended, six bits each. -/
theorem Write.chars_ok {cs : List Char} (h : ∀ c ∈ cs, SixBit.Coded c) (w : Writer) :
    chars cs w = .ok () ⟨w.bits ++ SixBit.bitsOf (cs.map SixBit.upper)⟩ := by
  induction cs generalizing w with
  | nil =>
    rw [List.map_nil, SixBit.bitsOf, List.flatMap_nil, List.append_nil]
    rfl
  | cons c cs ih =>
    obtain ⟨hc, hcs⟩ := List.forall_mem_cons.mp h
    have hcode : SixBit.codeOf [c] = .ok ((SixBit.upper c).toNat % 64) := by
      rw [SixBit.codeOf, SixBit.code?_of_coded hc]
    have hrest := ih hcs ⟨w.bits ++ Bits.ofNat 6 ((SixBit.upper c).toNat % 64)⟩
    rw [chars, hcode, List.map_cons, SixBit.bitsOf_cons, ← List.append_assoc, ← hrest]
    rfl

namespace BitField

variable {f : BitField} {v : f.Value} {bs : Bits}

/-! ## Values and bits -/

theorem length_encode (h : f.Holds v) : (f.encode v).length = f.size := by
  cases f with
  | uint width => exact Bits.length_ofInt _ _
  | sint width => exact Bits.length_ofInt _ _
  | flag => rfl
  | text count =>
    rw [encode, SixBit.length_bitsOf, List.length_map, SixBit.length_fit, size]
  | blob width =>
    have hwidth : width = v.length := h
    rw [size, hwidth]
    rfl

/-- What is written is received up to the width of the field. -/
theorem decode_encode (h : f.Holds v) : f.decode (f.encode v) = f.received v := by
  cases f with
  | uint width => exact Bits.toNat_ofInt _ _
  | sint width =>
    rw [decode, encode, received, Bits.toNat_ofInt]
    exact Bits.signed_congr (Bits.unsigned_unsigned _ _)
  | flag => cases v <;> rfl
  | text count =>
    have hcoded : ∀ c ∈ SixBit.fit count.toNat v, SixBit.Coded c :=
      SixBit.forall_coded_fit.mpr h.2
    have hlength : ((SixBit.fit count.toNat v).map SixBit.upper).length = count.toNat := by
      rw [List.length_map, SixBit.length_fit]
    have hread := SixBit.textAt_bitsOf_append (SixBit.forall_mem_map_upper hcoded) []
    rw [hlength, List.append_nil] at hread
    rw [decode, encode, received, hread, SixBit.map_upper_fit]
  | blob width => rfl

/-- What was decoded is written as the same bits. -/
theorem encode_decode (h : bs.length = f.size) : f.encode (f.decode bs) = bs := by
  cases f with
  | uint width => exact Bits.ofInt_toNat bs h
  | sint width =>
    rw [decode, encode, Bits.ofInt_congr (Bits.unsigned_signed _ _)]
    exact Bits.ofInt_toNat bs h
  | flag =>
    obtain ⟨b, rfl⟩ := List.length_eq_one_iff.mp h
    cases b <;> rfl
  | text count =>
    have hsize : bs.length = 6 * count.toNat := h
    have hfit : SixBit.fit count.toNat (SixBit.textAt count.toNat bs) =
        SixBit.textAt count.toNat bs := by
      rw [SixBit.fit, SixBit.length_textAt, Nat.sub_self, List.replicate_zero, List.append_nil,
        List.take_of_length_le (SixBit.length_textAt _ _).le]
    rw [decode, encode, hfit,
      SixBit.map_upper_eq_self fun c hc => SixBit.mem_alphabet_of_mem_textAt hc,
      SixBit.bitsOf_textAt hsize.ge, List.take_of_length_le hsize.le]
  | blob width => rfl

theorem holds_decode (hpos : 0 < f.size) (h : bs.length = f.size) : f.Holds (f.decode bs) := by
  cases f with
  | uint width => exact Int.lt_toNat.mp hpos
  | sint width => exact Int.lt_toNat.mp hpos
  | flag => trivial
  | text count =>
    rw [size] at hpos
    refine ⟨by omega, fun c hc => SixBit.coded_of_mem ?_⟩
    exact SixBit.mem_alphabet_of_mem_textAt (List.mem_of_mem_take hc)
  | blob width =>
    have hsize : bs.length = width.toNat := h
    rw [size] at hpos
    show width = (bs.length : Int)
    omega

theorem possible_of_holds (h : f.Holds v) : f.Possible := by
  cases f with
  | uint width => exact h
  | sint width => exact h
  | flag => trivial
  | text count => trivial
  | blob width =>
    have hwidth : width = v.length := h
    rw [Possible, hwidth]
    exact Int.natCast_nonneg _

theorem possible_of_pos (h : 0 < f.size) : f.Possible := by
  cases f with
  | uint width => exact Int.lt_toNat.mp h
  | sint width => exact Int.lt_toNat.mp h
  | flag => trivial
  | text count => trivial
  | blob width => exact (Int.lt_toNat.mp h).le

/-- A value that the field holds is appended. -/
theorem write_ok (h : f.Holds v) (w : Writer) :
    f.write v w = .ok () ⟨w.bits ++ f.encode v⟩ := by
  cases f with
  | uint width =>
    have hpos : 0 < width := h
    rw [write, Write.uint, if_neg (by omega)]
    rfl
  | sint width =>
    have hpos : 0 < width := h
    rw [write, Write.sint, if_neg (by omega), Write.uint, if_neg (by omega)]
    rfl
  | flag => rfl
  | text count =>
    obtain ⟨hcount, hcoded⟩ := h
    rw [write, Write.text, Write.fitted, if_neg (by omega),
      Write.chars_ok (SixBit.forall_coded_fit.mpr hcoded)]
    rfl
  | blob width => rfl

end BitField

/-! ## Sequences -/

/-- A field with a value. -/
structure FilledField where
  field : BitField
  value : field.Value

namespace FilledField

/-- Does the field hold the value? -/
def IsSound (e : FilledField) : Prop :=
  e.field.Holds e.value

/-- The bits of the value. -/
def bits (e : FilledField) : Bits :=
  e.field.encode e.value

/-- The field with what is received of its value. -/
def received (e : FilledField) : FilledField :=
  ⟨e.field, e.field.received e.value⟩

/-- The number of bits of some fields. -/
def totalSize (es : List FilledField) : Nat :=
  (es.map fun e => e.field.size).sum

theorem length_bits {e : FilledField} (h : e.IsSound) : e.bits.length = e.field.size :=
  BitField.length_encode h

theorem length_flatMap_bits {es : List FilledField} (h : ∀ e ∈ es, e.IsSound) :
    (es.flatMap bits).length = totalSize es := by
  induction es with
  | nil => rfl
  | cons e es ih =>
    obtain ⟨he, hes⟩ := List.forall_mem_cons.mp h
    rw [List.flatMap_cons, List.length_append, length_bits he, ih hes, totalSize, totalSize,
      List.map_cons, List.sum_cons]

end FilledField

/-- Asks the reader for some fields in order. -/
def BitField.readAll : List BitField → Access (List FilledField)
  | [] => pure []
  | f :: fs => do
    let value ← f.read
    let rest ← readAll fs
    return ⟨f, value⟩ :: rest

namespace Writer

/-- Something that a caller gives to a writer. -/
inductive Call
  | write (e : FilledField)
  | padToByte

namespace Call

/-- Does the writer take what it is given? -/
def IsSound : Call → Prop
  | write e => e.IsSound
  | padToByte => True

instance : (c : Call) → Decidable c.IsSound
  | write e => inferInstanceAs (Decidable (e.field.Holds e.value))
  | padToByte => inferInstanceAs (Decidable True)

/-- Carries out the call. -/
def perform : Call → Write Unit
  | write e => e.field.write e.value
  | padToByte => Write.padToByte

/-- The field that the call writes behind `position` bits. Padding is a blob of zeros. -/
def filled (position : Nat) : Call → FilledField
  | write e => e
  | padToByte => ⟨.blob (fillBits 8 position), ⟨Bits.zeros (fillBits 8 position)⟩⟩

theorem isSound_filled {c : Call} (h : c.IsSound) (position : Nat) :
    (c.filled position).IsSound := by
  cases c with
  | write e => exact h
  | padToByte =>
    show ((fillBits 8 position : Nat) : Int) = (Bits.zeros (fillBits 8 position)).length
    rw [Bits.length_zeros]

theorem perform_ok {c : Call} (h : c.IsSound) (w : Writer) :
    c.perform w = .ok () ⟨w.bits ++ (c.filled w.bits.length).bits⟩ := by
  cases c with
  | write e => exact BitField.write_ok h w
  | padToByte => rfl

end Call

/-- The fields that some calls write behind `position` bits. -/
def filled (position : Nat) : List Call → List FilledField
  | [] => []
  | c :: cs =>
    let e := c.filled position
    e :: filled (position + e.field.size) cs

/-- Carries out some calls in order. -/
def performAll : List Call → Write Unit
  | [] => pure ()
  | c :: cs => do
    c.perform
    performAll cs

theorem isSound_of_mem_filled {calls : List Call} (h : ∀ c ∈ calls, c.IsSound) (position : Nat) :
    ∀ e ∈ filled position calls, e.IsSound := by
  induction calls generalizing position with
  | nil => exact List.forall_mem_nil _
  | cons c calls ih =>
    obtain ⟨hc, hcalls⟩ := List.forall_mem_cons.mp h
    rw [filled]
    exact List.forall_mem_cons.mpr ⟨Call.isSound_filled hc position, ih hcalls _⟩

end Writer

/-- A computation on a state that succeeds is followed by the one after it. -/
theorem bind_ok_apply {ε σ α β : Type} {x : EStateM ε σ α} {s s' : σ} {a : α}
    (h : x s = .ok a s') (f : α → EStateM ε σ β) : (x >>= f) s = f a s' := by
  simp only [bind, EStateM.bind, h]

/-- The writer appends the bits of what it is given. -/
theorem Writer.performAll_ok {calls : List Call} (h : ∀ c ∈ calls, c.IsSound) (w : Writer) :
    performAll calls w =
      .ok () ⟨w.bits ++ (filled w.bits.length calls).flatMap FilledField.bits⟩ := by
  induction calls generalizing w with
  | nil =>
    rw [filled, List.flatMap_nil, List.append_nil]
    rfl
  | cons c calls ih =>
    obtain ⟨hc, hcalls⟩ := List.forall_mem_cons.mp h
    have hsound := Call.isSound_filled hc w.bits.length
    rw [performAll, bind_ok_apply (Call.perform_ok hc w), ih hcalls, filled, List.flatMap_cons]
    simp only [List.length_append, FilledField.length_bits hsound, List.append_assoc]

theorem Writer.performAll_empty {calls : List Call} (h : ∀ c ∈ calls, c.IsSound) :
    performAll calls {} = .ok () ⟨(filled 0 calls).flatMap FilledField.bits⟩ :=
  performAll_ok h {}

/-- Bits that were written in order are received in order. -/
theorem BitField.readAll_written {es : List FilledField} (h : ∀ e ∈ es, e.IsSound) {r : Reader}
    {tail : Bits} (hrest : r.rest = es.flatMap FilledField.bits ++ tail) :
    readAll (es.map FilledField.field) r =
      .ok (es.map FilledField.received) (r.skip (FilledField.totalSize es)) := by
  induction es generalizing r with
  | nil => exact congrArg (EStateM.Result.ok []) (Reader.skip_zero r).symm
  | cons e es ih =>
    obtain ⟨he, hes⟩ := List.forall_mem_cons.mp h
    have hlength := FilledField.length_bits he
    rw [List.flatMap_cons, List.append_assoc] at hrest
    have hle : e.field.size ≤ r.remaining := by
      rw [← Reader.length_rest, hrest, List.length_append, hlength]
      exact Nat.le_add_right _ _
    have hvalue : e.field.read r = .ok e.received.value (r.skip e.field.size) := by
      rw [read_complete (possible_of_holds he) hle, hrest, List.take_left' hlength]
      exact congrArg (EStateM.Result.ok · _) (decode_encode he)
    have hnext : (r.skip e.field.size).rest = es.flatMap FilledField.bits ++ tail := by
      rw [Reader.rest_skip, hrest, List.drop_left' hlength]
    rw [List.map_cons, readAll, bind_ok_apply hvalue, bind_ok_apply (ih hes hnext),
      Reader.skip_skip]
    rfl

/-- Any bits are read in fields that take them up, and these fields hold the bits. -/
theorem BitField.exists_readAll {fields : List BitField} (hpos : ∀ f ∈ fields, 0 < f.size)
    {r : Reader} (hle : (fields.map size).sum ≤ r.remaining) :
    ∃ es, readAll fields r = .ok es (r.skip (fields.map size).sum) ∧
      es.map FilledField.field = fields ∧ (∀ e ∈ es, e.IsSound) ∧
        es.flatMap FilledField.bits = r.rest.take (fields.map size).sum := by
  induction fields generalizing r with
  | nil =>
    refine ⟨[], ?_, rfl, List.forall_mem_nil _, ?_⟩
    · rw [List.map_nil, List.sum_nil, Reader.skip_zero]
      rfl
    · rw [List.map_nil, List.sum_nil, List.take_zero]
      rfl
  | cons f fields ih =>
    obtain ⟨hf, hfields⟩ := List.forall_mem_cons.mp hpos
    rw [List.map_cons, List.sum_cons] at hle ⊢
    have hlength : (r.rest.take f.size).length = f.size := by
      rw [List.length_take, Reader.length_rest]
      omega
    have hvalue := read_complete (possible_of_pos hf) (by omega : f.size ≤ r.remaining)
    obtain ⟨es, hes, hnames, hsound, hbits⟩ := ih hfields (r := r.skip f.size) (by
      rw [Reader.remaining_skip]
      omega)
    refine ⟨⟨f, f.decode (r.rest.take f.size)⟩ :: es, ?_, ?_, ?_, ?_⟩
    · rw [readAll, bind_ok_apply hvalue, bind_ok_apply hes, Reader.skip_skip]
      rfl
    · rw [List.map_cons, hnames]
    · exact List.forall_mem_cons.mpr ⟨holds_decode hf hlength, hsound⟩
    · rw [List.flatMap_cons, hbits, FilledField.bits, encode_decode hlength, Reader.rest_skip,
        ← List.take_add]

theorem Writer.filled_map_write (es : List FilledField) (position : Nat) :
    filled position (es.map Call.write) = es := by
  induction es generalizing position with
  | nil => rfl
  | cons e es ih =>
    rw [List.map_cons, filled, ih]
    rfl

/-- What is written is received from its armor in the same order and to the last bit, and what is
read of an armor text to its last bit is written back as the same text. -/
theorem Writer.transcript :
    (∀ calls : List Call, (∀ c ∈ calls, c.IsSound) →
      ∃ w, performAll calls {} = .ok () w ∧
        w.bits.length = FilledField.totalSize (filled 0 calls) ∧
        w.toArmor.bitLength = w.bits.length ∧ w.toArmor.text.length = (w.bits.length + 5) / 6 ∧
        (∀ c ∈ w.toArmor.text.toList, c ∈ Armor.alphabet) ∧
        Armor.decode w.toArmor.text =
          .ok (w.bits ++ Bits.zeros (fillBits 6 w.bits.length)) ∧
        ∃ r r', w.toReader = .ok r ∧ r'.remaining = 0 ∧
          BitField.readAll ((filled 0 calls).map FilledField.field) r =
            .ok ((filled 0 calls).map FilledField.received) r') ∧
    ∀ text : String, (∀ c ∈ text.toList, c ∈ Armor.alphabet) →
      ∀ fields : List BitField, (∀ f ∈ fields, 0 < f.size) →
        (fields.map BitField.size).sum = 6 * text.length →
        ∃ r es r', Reader.ofArmor text none = .ok r ∧ BitField.readAll fields r = .ok es r' ∧
          r'.remaining = 0 ∧ es.map FilledField.field = fields ∧
            ∃ w, performAll (es.map Call.write) {} = .ok () w ∧ w.toArmor.text = text := by
  constructor
  · intro calls hcalls
    have hsound := isSound_of_mem_filled hcalls 0
    have hlength := FilledField.length_flatMap_bits hsound
    obtain ⟨r, hr, hstart, hdeclared, hrest⟩ :=
      Reader.ofArmor_encode ((filled 0 calls).flatMap FilledField.bits)
    have hbits : r.rest = (filled 0 calls).flatMap FilledField.bits ++ [] := by
      rw [hrest, List.append_nil]
    have hread := BitField.readAll_written hsound hbits
    refine ⟨_, performAll_empty hcalls, hlength, rfl, (Armor.fillBits_encode _).1,
      fun c => Armor.mem_alphabet_of_mem_encode, Armor.decode_encode _, r, _, hr, ?_, hread⟩
    rw [Reader.remaining_skip, Reader.remaining_of_position_eq_zero hstart, hdeclared, hlength,
      Nat.sub_self]
  · intro text htext fields hpos hsum
    obtain ⟨values, -, -, hdecode⟩ := Armor.decode_of_forall_mem htext
    generalize Armor.bitsOf values = bits at hdecode
    have hlength : bits.length = 6 * text.length := Armor.length_of_decode hdecode
    have hall : (none : Option Int).getD bits.length = bits.length := rfl
    obtain ⟨r, hr, hstart, hdeclared, hrest⟩ := Reader.ofArmor_ok hdecode hall le_rfl
    have hremaining : r.remaining = (fields.map BitField.size).sum := by
      rw [Reader.remaining_of_position_eq_zero hstart, hdeclared, hlength, hsum]
    obtain ⟨es, hes, hfields, hsound, hspelled⟩ := BitField.exists_readAll hpos hremaining.ge
    have hbits : es.flatMap FilledField.bits = bits := by
      rw [hspelled, hrest, List.take_length, hsum, ← hlength, List.take_length]
    have hwrite : performAll (es.map Call.write) {} = .ok () ⟨bits⟩ := by
      rw [performAll_empty (List.forall_mem_map.mpr hsound), filled_map_write, hbits]
    -- The characters are whole, so there is no bit left for the writer to fill in.
    have hfill : fillBits 6 bits.length = 0 := fillBits_eq (by omega) (by omega)
    refine ⟨r, es, _, hr, hes, ?_, hfields, _, hwrite, ?_⟩
    · rw [Reader.remaining_skip, hremaining, Nat.sub_self]
    · apply Armor.text_encode_eq
      rw [hfill, Bits.zeros_zero, List.append_nil]
      exact hdecode

/-- Values too large for their fields, a text in small letters and a padded byte on their way
through an armor text, and an armor text on its way through two fields. -/
theorem Writer.transcript_mixed :
    let calls : List Call := [.write ⟨.uint 3, -2⟩, .write ⟨.sint 5, 21⟩, .write ⟨.flag, true⟩,
      .write ⟨.text 3, ['a', 'b']⟩, .write ⟨.blob 2, ⟨[true, false]⟩⟩, .padToByte]
    let fields : List BitField := [.uint 3, .sint 5, .flag, .text 3, .blob 2, .blob 3]
    (∃ w r r', performAll calls {} = .ok () w ∧ w.toReader = .ok r ∧
        BitField.readAll fields r = .ok [⟨.uint 3, (6 : Int)⟩, ⟨.sint 5, (-11 : Int)⟩,
          ⟨.flag, true⟩, ⟨.text 3, ['A', 'B', '@']⟩, ⟨.blob 2, ⟨[true, false]⟩⟩,
          ⟨.blob 3, ⟨Bits.zeros 3⟩⟩] r') ∧
      ∃ r es r' w, Reader.ofArmor "1K" none = .ok r ∧
        BitField.readAll [.uint 5, .sint 7] r = .ok es r' ∧
          performAll (es.map Call.write) {} = .ok () w ∧ w.toArmor.text = "1K" := by
  intro calls fields
  constructor
  · have hsound : ∀ c ∈ calls, c.IsSound := by decide
    obtain ⟨w, hw, -, -, -, -, -, r, r', hr, -, hread⟩ := transcript.1 calls hsound
    exact ⟨w, r, r', hw, hr, hread⟩
  · obtain ⟨r, es, r', hr, hes, -, -, w, hw, htext⟩ :=
      transcript.2 "1K" (by decide) [.uint 5, .sint 7] (by decide) rfl
    exact ⟨r, es, r', w, hr, hes, hw, htext⟩

end AisStation
