import AisStation.Proofs.Bits.Blobs
import AisStation.Proofs.Bits.Transcript

/-!
# Writers under any operations

Whatever is asked of a writer, what was written stays in front: a number, a flag or a blob is
appended as a whole, a number of impossible width not at all, and a text up to its first character
without a code. A writer can be kept as one number with the count of its bits, which is shifted
before the low bits of the next number are put behind it. Such a register goes through the same
operations with the same errors and always holds the bits that were written, so its number never has
more bits than were counted.
-/

namespace AisStation

namespace Writer

/-! ## Operations -/

/-- Something that is asked of a writer. -/
inductive Operation
  | uint (value width : Int)
  | sint (value width : Int)
  | flag (value : Bool)
  | text (cs : List Char) (count : Int)
  | blob (d : Blob)
  | padToByte
  | toArmor
  | toReader
deriving DecidableEq, Repr

/-- Carries out an operation. What is made of the bits is left aside. -/
def Operation.perform : Operation → Write Unit
  | uint value width => Write.uint value width
  | sint value width => Write.sint value width
  | flag value => Write.flag value
  | text cs count => Write.text cs count
  | blob d => Write.blob d
  | padToByte => Write.padToByte
  | toArmor => discard (Writer.toArmor <$> get)
  | toReader => fun w => match w.toReader with
    | .ok _ => .ok () w
    | .error why => .error (.malformed why) w

end Writer

/-- The state that a computation leaves, whether it succeeds or fails. -/
def stateLeft {ε σ α : Type} : EStateM.Result ε σ α → σ
  | .ok _ s => s
  | .error _ s => s

namespace Writer

/-- The writer after an operation. -/
def after (w : Writer) (op : Operation) : Writer :=
  stateLeft (op.perform w)

/-- The writer after some operations, failed ones included. -/
def run (w : Writer) (ops : List Operation) : Writer :=
  ops.foldl after w

end Writer

/-! ## Registers -/

/-- Bits as one number, with their count. -/
structure Register where
  value : Nat := 0
  length : Nat := 0
deriving DecidableEq, Repr

/-- The bits that were written, in a register. -/
def Writer.register (w : Writer) : Register :=
  ⟨w.bits.toNat, w.bits.length⟩

namespace Register

/-- A computation on a register. -/
abbrev Step := EStateM AccessError Register

/-- The register with its number shifted and the low bits of another one put behind it. -/
def push (g : Register) (value : Int) (width : Nat) : Register :=
  ⟨g.value <<< width ||| (unsigned width value).toNat, g.length + width⟩

/-- Puts the low `width` bits of a number behind the others. -/
def uint (value width : Int) : Step Unit :=
  if width ≤ 0 then throw .emptyWidth else modify (push · value width.toNat)

/-- Puts a number in two's complement behind the others. -/
def sint (value width : Int) : Step Unit :=
  if width < 0 then throw .negativeWidth else uint (unsigned width.toNat value) width

/-- Puts the codes of characters behind the other bits, one by one. -/
def chars : List Char → Step Unit
  | [] => pure ()
  | c :: cs => do
    match SixBit.codeOf [c] with
    | .ok code => uint code 6; chars cs
    | .error why => throw (.malformed why)

/-- Puts the number of a blob behind the other bits, unless the blob is empty. -/
def blob (d : Blob) : Step Unit :=
  if d.length = 0 then pure () else uint d.toNat d.length

/-- Puts zeros behind the other bits, unless they make whole bytes. -/
def padToByte : Step Unit := do
  let odd := (← get).length % 8
  if odd = 0 then pure () else uint 0 (8 - odd)

/-- Carries out an operation. -/
def perform : Writer.Operation → Step Unit
  | .uint value width => uint value width
  | .sint value width => sint value width
  | .flag value => uint (if value then 1 else 0) 1
  | .text cs count => chars (Write.fitted cs count)
  | .blob d => blob d
  | .padToByte => padToByte
  | .toArmor | .toReader => pure ()

/-- The register after some operations, failed ones included. -/
def run (g : Register) (ops : List Writer.Operation) : Register :=
  ops.foldl (fun g op => stateLeft (perform op g)) g

end Register

namespace Writer

/-! ## What an operation appends -/

theorem write_uint (w : Writer) (value : Int) {width : Int} (h : 0 < width) :
    Write.uint value width w = .ok () ⟨w.bits ++ Bits.ofInt width.toNat value⟩ := by
  rw [Write.uint, if_neg (Int.not_le.mpr h)]
  rfl

theorem write_sint (w : Writer) (value : Int) {width : Int} (h : 0 < width) :
    Write.sint value width w = .ok () ⟨w.bits ++ Bits.ofInt width.toNat value⟩ := by
  rw [Write.sint, if_neg (by omega), write_uint w value h]

theorem write_uint_of_nonpos (w : Writer) (value : Int) {width : Int} (h : width ≤ 0) :
    Write.uint value width w = .error .emptyWidth w := by
  rw [Write.uint, if_pos h]
  rfl

theorem write_sint_of_nonpos (w : Writer) (value : Int) {width : Int} (h : width ≤ 0) :
    Write.sint value width w =
      .error (if width < 0 then .negativeWidth else .emptyWidth) w := by
  rw [Write.sint]
  split
  · rfl
  · exact write_uint_of_nonpos w value h

/-- A text is appended up to its first character without a code. -/
theorem write_chars_error {front back : List Char} {c : Char} (w : Writer)
    (hfront : ∀ c ∈ front, SixBit.Coded c) (hc : ¬SixBit.Coded c) :
    Write.chars (front ++ c :: back) w = .error (.malformed (.notSixBit [c]))
      ⟨w.bits ++ SixBit.bitsOf (front.map SixBit.upper)⟩ := by
  have hcode : SixBit.code? c = none := not_not.mp hc
  induction front generalizing w with
  | nil =>
    rw [List.nil_append, Write.chars, SixBit.codeOf, hcode, List.map_nil, SixBit.bitsOf,
      List.flatMap_nil, List.append_nil]
    rfl
  | cons d front ih =>
    obtain ⟨hd, hfront⟩ := List.forall_mem_cons.mp hfront
    have hcode : SixBit.codeOf [d] = .ok ((SixBit.upper d).toNat % 64) := by
      rw [SixBit.codeOf, SixBit.code?_of_coded hd]
    have hrest := ih ⟨w.bits ++ Bits.ofNat 6 ((SixBit.upper d).toNat % 64)⟩ hfront
    rw [List.cons_append, Write.chars, hcode, List.map_cons, SixBit.bitsOf_cons,
      ← List.append_assoc, ← hrest]
    rfl

/-- All characters of a text have codes, or there is a first one that has none. -/
theorem exists_uncoded (cs : List Char) :
    (∀ c ∈ cs, SixBit.Coded c) ∨
      ∃ front c back, cs = front ++ c :: back ∧ (∀ c ∈ front, SixBit.Coded c) ∧
        ¬SixBit.Coded c := by
  induction cs with
  | nil => exact .inl (List.forall_mem_nil _)
  | cons d cs ih =>
    by_cases hd : SixBit.Coded d
    · rcases ih with hcs | ⟨front, c, back, rfl, hfront, hc⟩
      · exact .inl (List.forall_mem_cons.mpr ⟨hd, hcs⟩)
      · exact .inr ⟨d :: front, c, back, rfl, List.forall_mem_cons.mpr ⟨hd, hfront⟩, hc⟩
    · exact .inr ⟨[], d, cs, rfl, List.forall_mem_nil _, hd⟩

theorem write_chars (cs : List Char) (w : Writer) :
    ∃ bits, stateLeft (Write.chars cs w) = ⟨w.bits ++ bits⟩ := by
  rcases exists_uncoded cs with hcs | ⟨front, c, back, rfl, hfront, hc⟩
  · exact ⟨_, by rw [Write.chars_ok hcs, stateLeft]⟩
  · exact ⟨_, by rw [write_chars_error w hfront hc, stateLeft]⟩

theorem exists_toReader (w : Writer) : ∃ r, w.toReader = .ok r := by
  obtain ⟨r, hr, -⟩ := Reader.ofArmor_encode w.bits
  exact ⟨r, hr⟩

theorem after_toReader (w : Writer) : w.after .toReader = w := by
  obtain ⟨r, hr⟩ := exists_toReader w
  simp only [after, Operation.perform, hr, stateLeft]

/-- Every operation appends some bits, or none. -/
theorem exists_after_eq (w : Writer) (op : Operation) :
    ∃ bits, w.after op = ⟨w.bits ++ bits⟩ := by
  have hsame : w = ⟨w.bits ++ []⟩ := by rw [List.append_nil]
  cases op with
  | uint value width =>
    by_cases hpos : 0 < width
    · exact ⟨_, by rw [after, Operation.perform, write_uint w value hpos, stateLeft]⟩
    · refine ⟨[], ?_⟩
      rw [after, Operation.perform, write_uint_of_nonpos w value (Int.not_lt.mp hpos), stateLeft]
      exact hsame
  | sint value width =>
    by_cases hpos : 0 < width
    · exact ⟨_, by rw [after, Operation.perform, write_sint w value hpos, stateLeft]⟩
    · refine ⟨[], ?_⟩
      rw [after, Operation.perform, write_sint_of_nonpos w value (Int.not_lt.mp hpos), stateLeft]
      exact hsame
  | flag value => exact ⟨[value], rfl⟩
  | text cs count => exact write_chars (Write.fitted cs count) w
  | blob d => exact ⟨d.bits, rfl⟩
  | padToByte => exact ⟨_, rfl⟩
  | toArmor => exact ⟨[], hsame⟩
  | toReader => exact ⟨[], (after_toReader w).trans hsame⟩

theorem exists_run_eq (w : Writer) (ops : List Operation) :
    ∃ bits, w.run ops = ⟨w.bits ++ bits⟩ := by
  induction ops generalizing w with
  | nil => exact ⟨[], by rw [run, List.foldl_nil, List.append_nil]⟩
  | cons op ops ih =>
    obtain ⟨first, hfirst⟩ := exists_after_eq w op
    obtain ⟨rest, hrest⟩ := ih (w.after op)
    refine ⟨first ++ rest, ?_⟩
    rw [run, List.foldl_cons, ← run, hrest, hfirst, List.append_assoc]

end Writer

/-! ## Registers and writers -/

/-- The bits of a natural number are those of the same integer. -/
theorem Bits.ofInt_natCast (width n : Nat) : ofInt width n = ofNat width n := by
  apply eq_of_toNat_eq (by rw [length_ofInt, length_ofNat])
  have hint := toNat_ofInt width n
  have hnat := toNat_ofNat width n
  rw [unsigned] at hint
  zify
  rw [hint, hnat]
  norm_cast

theorem Bits.ofInt_zero (width : Nat) : ofInt width 0 = zeros width := by
  apply eq_of_toNat_eq (by rw [length_ofInt, length_zeros])
  have hint := toNat_ofInt width 0
  rw [unsigned, Int.zero_emod] at hint
  rw [toNat_zeros]
  exact Int.natCast_inj.mp hint

/-- A result with its state seen in another way. -/
def mapState {ε σ τ α : Type} (view : σ → τ) : EStateM.Result ε σ α → EStateM.Result ε τ α
  | .ok a s => .ok a (view s)
  | .error e s => .error e (view s)

namespace Register

/-- Putting bits behind the others in a register is appending them. -/
theorem push_register (w : Writer) (value : Int) (width : Nat) :
    w.register.push value width = (⟨w.bits ++ Bits.ofInt width value⟩ : Writer).register := by
  have hlow : (unsigned width value).toNat = (Bits.ofInt width value).toNat := by
    rw [← Bits.toNat_ofInt, Int.toNat_natCast]
  have hlt := Bits.toNat_lt (Bits.ofInt width value)
  rw [Bits.length_ofInt] at hlt
  -- The low bits end where the shifted number begins, so `or` adds.
  simp only [push, Writer.register, Bits.toNat_append, List.length_append, Bits.length_ofInt, hlow]
  rw [← Nat.shiftLeft_add_eq_or_of_lt hlt, Nat.shiftLeft_eq]

theorem uint_of_pos (w : Writer) (value : Int) {width : Int} (h : 0 < width) :
    uint value width w.register =
      .ok () (⟨w.bits ++ Bits.ofInt width.toNat value⟩ : Writer).register := by
  rw [uint, if_neg (Int.not_le.mpr h), ← push_register]
  rfl

theorem uint_register (value width : Int) (w : Writer) :
    uint value width w.register = mapState Writer.register (Write.uint value width w) := by
  by_cases hpos : 0 < width
  · rw [uint_of_pos w value hpos, Writer.write_uint w value hpos, mapState]
  · have hle : width ≤ 0 := Int.not_lt.mp hpos
    rw [Writer.write_uint_of_nonpos w value hle, uint, if_pos hle]
    rfl

theorem sint_register (value width : Int) (w : Writer) :
    sint value width w.register = mapState Writer.register (Write.sint value width w) := by
  by_cases hpos : 0 < width
  · have hlow : Bits.ofInt width.toNat (unsigned width.toNat value) =
        Bits.ofInt width.toNat value :=
      Bits.ofInt_congr (Bits.unsigned_unsigned _ _)
    rw [sint, if_neg (by omega), uint_of_pos w _ hpos, hlow, Writer.write_sint w value hpos,
      mapState]
  · have hle : width ≤ 0 := Int.not_lt.mp hpos
    rw [Writer.write_sint_of_nonpos w value hle, sint]
    split
    · rfl
    · rw [uint, if_pos hle]
      rfl

theorem flag_register (value : Bool) (w : Writer) :
    uint (if value then 1 else 0) 1 w.register =
      mapState Writer.register (Write.flag value w) := by
  have hbit : Bits.ofInt 1 (if value then 1 else 0) = [value] := by
    cases value <;> rfl
  rw [uint_of_pos w _ (by decide : (0 : Int) < 1)]
  exact congrArg (fun bits => EStateM.Result.ok () (Writer.register ⟨w.bits ++ bits⟩)) hbit

theorem chars_register (cs : List Char) (w : Writer) :
    chars cs w.register = mapState Writer.register (Write.chars cs w) := by
  induction cs generalizing w with
  | nil => rfl
  | cons c cs ih =>
    rw [chars, Write.chars]
    cases hcode : SixBit.codeOf [c] with
    | error why => rfl
    | ok code =>
      have hpush := uint_of_pos w code (by decide : (0 : Int) < 6)
      have happend : Write.append (Bits.ofNat 6 code) w = .ok () ⟨w.bits ++ Bits.ofNat 6 code⟩ :=
        rfl
      rw [Bits.ofInt_natCast] at hpush
      simp only
      rw [bind_ok_apply hpush, bind_ok_apply happend]
      exact ih _

theorem blob_register (d : Blob) (w : Writer) :
    blob d w.register = mapState Writer.register (Write.blob d w) := by
  by_cases hempty : d.length = 0
  · have hbits : w.bits ++ d.bits = w.bits := by
      rw [List.length_eq_zero_iff.mp hempty, List.append_nil]
    rw [blob, if_pos hempty]
    exact congrArg (fun bits => EStateM.Result.ok () (Writer.register ⟨bits⟩)) hbits.symm
  · have hbits : Bits.ofInt (d.length : Int).toNat d.toNat = d.bits :=
      Bits.ofInt_toNat d.bits rfl
    rw [blob, if_neg hempty, uint_of_pos w _ (by omega), hbits]
    rfl

theorem padToByte_register (w : Writer) :
    padToByte w.register = mapState Writer.register (Write.padToByte w) := by
  have hfill := add_fillBits_emod (by omega : 0 < 8) w.bits.length
  have hlt := fillBits_lt (by omega : 0 < 8) w.bits.length
  have hstep : padToByte w.register =
      (if w.bits.length % 8 = 0 then pure () else uint 0 (8 - (w.bits.length % 8 : Nat)))
        w.register := rfl
  rw [hstep]
  by_cases hwhole : w.bits.length % 8 = 0
  · have hnone : fillBits 8 w.bits.length = 0 := by omega
    have hbits : w.bits ++ Bits.zeros (fillBits 8 w.bits.length) = w.bits := by
      rw [hnone, Bits.zeros_zero, List.append_nil]
    rw [if_pos hwhole]
    exact congrArg (fun bits => EStateM.Result.ok () (Writer.register ⟨bits⟩)) hbits.symm
  · have hwidth : (8 - ((w.bits.length % 8 : Nat) : Int)).toNat = fillBits 8 w.bits.length := by
      omega
    rw [if_neg hwhole, uint_of_pos w 0 (by omega), hwidth, Bits.ofInt_zero]
    rfl

/-- A register goes through an operation as the writer does whose bits it holds. -/
theorem perform_register (op : Writer.Operation) (w : Writer) :
    perform op w.register = mapState Writer.register (op.perform w) := by
  cases op with
  | uint value width => exact uint_register value width w
  | sint value width => exact sint_register value width w
  | flag value => exact flag_register value w
  | text cs count => exact chars_register (Write.fitted cs count) w
  | blob d => exact blob_register d w
  | padToByte => exact padToByte_register w
  | toArmor => rfl
  | toReader =>
    obtain ⟨r, hr⟩ := Writer.exists_toReader w
    simp only [Writer.Operation.perform, hr, mapState]
    rfl

/-- A register that starts with the bits of a writer holds them after any operations. -/
theorem run_register (w : Writer) (ops : List Writer.Operation) :
    run w.register ops = (w.run ops).register := by
  induction ops generalizing w with
  | nil => rfl
  | cons op ops ih =>
    have hstep : stateLeft (perform op w.register) = (w.after op).register := by
      rw [perform_register, Writer.after]
      cases op.perform w <;> rfl
    rw [run, List.foldl_cons, hstep, ← run, ih]
    rfl

end Register

/-! ## Runs -/

namespace Writer

/-- The zeros that fill the last byte are as few as can be. -/
theorem write_padToByte (w : Writer) :
    ∃ n, Write.padToByte w = .ok () ⟨w.bits ++ Bits.zeros n⟩ ∧ 8 ∣ w.bits.length + n ∧
      ∀ m, 8 ∣ w.bits.length + m → n ≤ m := by
  have hfill := add_fillBits_emod (by omega : 0 < 8) w.bits.length
  have hlt := fillBits_lt (by omega : 0 < 8) w.bits.length
  refine ⟨_, rfl, Nat.dvd_of_mod_eq_zero hfill, ?_⟩
  intro m hm
  omega

theorem write_chars_getElem {cs : List Char} (w : Writer) {i : Nat} (hi : i < cs.length)
    (hfront : ∀ c ∈ cs.take i, SixBit.Coded c) (hat : ¬SixBit.Coded cs[i]) :
    Write.chars cs w = .error (.malformed (.notSixBit [cs[i]]))
      ⟨w.bits ++ SixBit.bitsOf ((cs.take i).map SixBit.upper)⟩ := by
  have hsplit : cs.take i ++ cs[i] :: cs.drop (i + 1) = cs := by
    rw [List.getElem_cons_drop, List.take_append_drop]
  have herror : Write.chars (cs.take i ++ cs[i] :: cs.drop (i + 1)) w = _ :=
    write_chars_error w hfront hat
  rw [hsplit] at herror
  exact herror

/-- After any operations a register holds the bits that were written and no others. What an
operation appends then, it appends behind all of them: as a whole, not at all, or, for a text, up to
its first character without a code. -/
theorem run_appends (ops : List Operation) :
    let w := ({} : Writer).run ops
    let g := ({} : Register).run ops
    (g = w.register ∧ g.value < 2 ^ g.length) ∧
      (∀ op, w.bits <+: (w.after op).bits) ∧
      (∀ value width : Int, 0 < width →
        ∃ bits : Bits, bits.length = width.toNat ∧ (bits.toNat : Int) = value % 2 ^ width.toNat ∧
          Write.uint value width w = .ok () ⟨w.bits ++ bits⟩ ∧
          Write.sint value width w = .ok () ⟨w.bits ++ bits⟩) ∧
      (∀ value width : Int, width ≤ 0 →
        Write.uint value width w = .error .emptyWidth w ∧
          Write.sint value width w =
            .error (if width < 0 then .negativeWidth else .emptyWidth) w) ∧
      (∀ value, Write.flag value w = .ok () ⟨w.bits ++ [value]⟩) ∧
      (∀ d : Blob, Write.blob d w = .ok () ⟨w.bits ++ d.bits⟩) ∧
      (∃ n, Write.padToByte w = .ok () ⟨w.bits ++ Bits.zeros n⟩ ∧ 8 ∣ w.bits.length + n ∧
        ∀ m, 8 ∣ w.bits.length + m → n ≤ m) ∧
      (w.after .toArmor = w ∧ w.after .toReader = w ∧ ∃ r, w.toReader = .ok r) ∧
      ∀ (cs : List Char) (count : Int),
        let fitted := Write.fitted cs count
        ((∀ c ∈ fitted, SixBit.Coded c) →
          ∃ bits : Bits, bits.length = 6 * fitted.length ∧
            Write.text cs count w = .ok () ⟨w.bits ++ bits⟩) ∧
        ∀ (i : Nat) (hi : i < fitted.length), (∀ c ∈ fitted.take i, SixBit.Coded c) →
          ¬SixBit.Coded fitted[i] →
          ∃ bits : Bits, bits.length = 6 * i ∧
            bits = SixBit.bitsOf ((fitted.take i).map SixBit.upper) ∧
            Write.text cs count w =
              .error (.malformed (.notSixBit [fitted[i]])) ⟨w.bits ++ bits⟩ := by
  intro w g
  have hg : g = w.register := Register.run_register {} ops
  refine ⟨⟨hg, ?_⟩, ?_, ?_, ?_, fun value => rfl, fun d => rfl, write_padToByte w,
    ⟨rfl, after_toReader w, exists_toReader w⟩, ?_⟩
  · rw [hg]
    exact Bits.toNat_lt w.bits
  · intro op
    obtain ⟨bits, hbits⟩ := exists_after_eq w op
    rw [hbits]
    exact List.prefix_append _ _
  · intro value width hpos
    exact ⟨_, Bits.length_ofInt _ _, Bits.toNat_ofInt _ _, write_uint w value hpos,
      write_sint w value hpos⟩
  · intro value width hle
    exact ⟨write_uint_of_nonpos w value hle, write_sint_of_nonpos w value hle⟩
  · intro cs count fitted
    constructor
    · intro hcoded
      refine ⟨_, ?_, Write.chars_ok hcoded w⟩
      rw [SixBit.length_bitsOf, List.length_map]
    · intro i hi hfront hat
      refine ⟨_, ?_, rfl, write_chars_getElem w hi hfront hat⟩
      rw [SixBit.length_bitsOf, List.length_map, List.length_take, min_eq_left hi.le]

/-- A text with a negative count that fails at its second character, behind a number too large for
its field and a number of no width, and before a text and a number that fit. -/
theorem run_appends_text :
    let w := ({} : Writer).run [.uint (-1) 3, .sint 5 (-2)]
    w.bits = [true, true, true] ∧
      Write.text "a~bc".toList (-1) w =
        .error (.malformed (.notSixBit ['~']))
          ⟨w.bits ++ [false, false, false, false, false, true]⟩ ∧
      (∃ bits : Bits, bits.length = 12 ∧ Write.text "abc".toList (-1) w = .ok () ⟨w.bits ++ bits⟩) ∧
      (∃ bits : Bits, bits.length = 4 ∧ (bits.toNat : Int) = 15 ∧
        Write.sint (-1) 4 w = .ok () ⟨w.bits ++ bits⟩) ∧
      Write.sint 5 (-2) w = .error .negativeWidth w := by
  intro w
  obtain ⟨-, -, hnumber, himpossible, -, -, -, -, htext⟩ := run_appends [.uint (-1) 3, .sint 5 (-2)]
  obtain ⟨-, hfails⟩ := htext "a~bc".toList (-1)
  obtain ⟨bits, -, hbits, herror⟩ := hfails 1 (by decide) (by decide) (by decide)
  obtain ⟨coded, hcoded, htaken⟩ := (htext "abc".toList (-1)).1 (by decide)
  obtain ⟨low, hlow, hvalue, -, hput⟩ := hnumber (-1) 4 (by decide)
  subst hbits
  exact ⟨rfl, herror, ⟨coded, hcoded, htaken⟩, ⟨low, hlow, hvalue, hput⟩,
    (himpossible 5 (-2) (by decide)).2⟩

end Writer

end AisStation
