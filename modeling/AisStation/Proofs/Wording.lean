import AisStation.Message.Error
import Mathlib.Order.Basic

/-!
# What can be told

The wording of a fault repeats the numbers that led to it, and a number of more than 4300 digits is
not written. A fault whose numbers are codes, sizes of what is at hand or small constants can always
be told, so it is raised as it is. A number of a caller that is too long turns a fault into another
error.
-/

namespace AisStation

namespace Text

-- Powers are those of core, also where Mathlib offers others.
attribute [local instance (high)] instPowNat

variable {n : Int}

/-- A number of at most eighteen digits is written. -/
theorem isWritable_of_lt (h : n.natAbs < 10 ^ (18 : Nat)) : IsWritable n := by
  have hle : 10 ^ (18 : Nat) ≤ overlong := by
    unfold overlong
    exact Nat.pow_le_pow_right (by decide) (by decide)
  exact Nat.lt_of_lt_of_le h hle

theorem not_isWritable_overlong : ¬IsWritable overlong :=
  Nat.lt_irrefl overlong

theorem decimal_of_isWritable (h : IsWritable n) : decimal n = .ok (toString n) :=
  if_pos h

theorem decimal_of_not_isWritable (h : ¬IsWritable n) : decimal n = .error .tooManyDigits :=
  if_neg h

end Text

/-! ## Faults of data -/

namespace Malformed

/-- The fault can be told. -/
def IsTold (why : Malformed) : Prop :=
  ∃ text, why.message = .ok text

/-- The numbers of a caller that the wording repeats. -/
def numbers : Malformed → List Int
  | overdeclared declared _ => [declared]
  | exhausted width _ => [(width : Int)]
  | peekOutside width offset _ => [width, offset]
  | _ => []

open Text in
/-- A fault can be told if the numbers of its wording can be written. -/
theorem isTold_iff {why : Malformed} : why.IsTold ↔ ∀ n ∈ why.numbers, IsWritable n := by
  cases why with
  | overdeclared declared available =>
    by_cases h : IsWritable declared <;> simp [IsTold, numbers, message, decimal, h]
  | exhausted width remaining =>
    by_cases h : IsWritable width <;> simp [IsTold, numbers, message, decimal, h]
  | peekOutside width offset length =>
    by_cases hw : IsWritable width <;> by_cases ho : IsWritable offset <;>
      simp [IsTold, numbers, message, decimal, bind, Except.bind, pure, Except.pure, hw, ho]
  | _ => exact iff_of_true ⟨_, rfl⟩ fun n hn => absurd hn List.not_mem_nil

theorem isTold_overdeclared_iff {declared : Int} {available : Nat} :
    (overdeclared declared available).IsTold ↔ Text.IsWritable declared :=
  isTold_iff.trans List.forall_mem_singleton

theorem isTold_exhausted_iff {width remaining : Nat} :
    (exhausted width remaining).IsTold ↔ Text.IsWritable width :=
  isTold_iff.trans List.forall_mem_singleton

end Malformed

/-! ## Errors that are raised -/

section

variable {why : Malformed}

theorem AccessError.raised_of_isTold (h : why.IsTold) : raised why = malformed why := by
  obtain ⟨text, htext⟩ := h
  rw [raised, htext]

theorem AccessError.raised_of_not_isTold (h : ¬why.IsTold) : raised why = unwritable := by
  rw [raised]
  cases hmessage : why.message with
  | ok text => exact absurd ⟨text, hmessage⟩ h
  | error e => rfl

theorem DecodeError.raised_unknownType {t : Int} (h : Text.IsWritable t) :
    raised (.unknownType t) = codec (.unknownType t) := by
  rw [raised, CodecError.message, Text.decimal_of_isWritable h]
  rfl

theorem EncodeError.raised_unknownType {t : Int} (h : Text.IsWritable t) :
    raised (.unknownType t) = codec (.unknownType t) := by
  rw [raised, CodecError.message, Text.decimal_of_isWritable h]
  rfl

theorem EncodeError.raised_unknownType_overlong {t : Int} (h : ¬Text.IsWritable t) :
    raised (.unknownType t) = unwritable := by
  rw [raised, CodecError.message, Text.decimal_of_not_isWritable h]
  rfl

theorem DecodeError.raised_of_isTold (h : why.IsTold) :
    raised (.malformed why) = codec (.malformed why) := by
  obtain ⟨text, htext⟩ := h
  rw [raised, CodecError.message, htext]

theorem DecodeError.raised_of_not_isTold (h : ¬why.IsTold) :
    raised (.malformed why) = unwritable := by
  rw [raised, CodecError.message]
  cases hmessage : why.message with
  | ok text => exact absurd ⟨text, hmessage⟩ h
  | error e => rfl

end

end AisStation
