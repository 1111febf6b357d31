import AisStation.Proofs.Bits.Fields

/-!
# Readers under any calls

A caller may ask a reader for any fields in any order, look at other bits in between, and go on
after failures. No call changes the bits or the declared length, and none moves the cursor back or
past the declared length. So after any calls the next field is served from where the cursor stands:
in full, or not at all, or, for a text, up to its last whole character. A width that is too long to
be told changes the error and nothing else.
-/

namespace AisStation

/-- A look at other bits, as a caller's access. -/
def Access.peek (offset width : Int) : Access Nat := fun r =>
  match r.peekUint offset width with
  | .ok n => .ok n r
  | .error e => .error e r

namespace Reader

/-- Something that a caller asks of a reader. -/
inductive Call
  | read (f : BitField)
  | peek (offset width : Int)
deriving DecidableEq, Repr

/-- The reader that a computation leaves, whether it succeeds or fails. -/
def left {ε α : Type} : EStateM.Result ε Reader α → Reader
  | .ok _ r => r
  | .error _ r => r

/-- The reader after a call. -/
def call (r : Reader) : Call → Reader
  | .read f => left (f.read r)
  | .peek offset width => left (Access.peek offset width r)

/-- The reader after some calls. -/
def run (r : Reader) (calls : List Call) : Reader :=
  calls.foldl call r

theorem call_peek (r : Reader) (offset width : Int) : r.call (.peek offset width) = r := by
  rw [call, Access.peek]
  cases r.peekUint offset width <;> rfl

/-- Every call moves the cursor past some of the bits that remain, or leaves it. -/
theorem exists_call_eq (r : Reader) (c : Call) : ∃ n ≤ r.remaining, r.call c = r.skip n := by
  cases c with
  | peek offset width => exact ⟨0, Nat.zero_le _, by rw [call_peek, skip_zero]⟩
  | read f =>
    by_cases hpossible : f.Possible
    · by_cases hle : f.size ≤ r.remaining
      · refine ⟨f.size, hle, ?_⟩
        rw [call, BitField.read_complete hpossible hle, left]
      · have hlt : r.remaining < f.size := Nat.not_le.mp hle
        by_cases hwhole : f.IsWhole
        · refine ⟨0, Nat.zero_le _, ?_⟩
          rw [call, BitField.read_exhausted hwhole hpossible hlt, left, skip_zero]
        · cases f with
          | text count =>
            rw [BitField.size] at hlt
            refine ⟨6 * (r.remaining / 6), Nat.mul_div_le r.remaining 6, ?_⟩
            rw [call, BitField.read_text_exhausted (by omega), left]
          | _ => exact absurd trivial hwhole
    · refine ⟨0, Nat.zero_le _, ?_⟩
      rw [call, BitField.read_impossible hpossible, left, skip_zero]

/-- Nothing but the cursor changes, and it never moves back. -/
theorem exists_run_eq (start : Reader) (calls : List Call) :
    ∃ n ≤ start.remaining, start.run calls = start.skip n := by
  induction calls generalizing start with
  | nil => exact ⟨0, Nat.zero_le _, (skip_zero start).symm⟩
  | cons c calls ih =>
    obtain ⟨m, hm, hcall⟩ := exists_call_eq start c
    obtain ⟨n, hn, hrun⟩ := ih (start.skip m)
    rw [remaining_skip] at hn
    refine ⟨m + n, by omega, ?_⟩
    rw [run, List.foldl_cons, hcall, ← run, hrun, skip_skip]

/-- After any calls the cursor stands between its start and the end of the declared bits, and the
next field is read from there. -/
theorem read_run (start : Reader) (calls : List Call) :
    let r := start.run calls
    (r.bits = start.bits ∧ r.length = start.length) ∧
      (start.position ≤ r.position ∧ r.position ≤ start.length ∧
        start.length ≤ start.bits.length) ∧
      (∀ offset width, r.call (.peek offset width) = r) ∧
      (∀ f : BitField, ¬f.Possible → f.read r = .error .emptyWidth r) ∧
      (∀ f : BitField, f.Possible → f.size ≤ r.remaining →
        f.read r = .ok (f.decode ((start.bits.drop r.position).take f.size)) (r.skip f.size) ∧
          (r.skip f.size).position = r.position + f.size) ∧
      (∀ f : BitField, f.IsWhole → f.Possible → r.remaining < f.size →
        f.read r = .error (if Text.IsWritable f.size then
            .malformed (.exhausted f.size r.remaining) else .unwritable) r) ∧
      ∀ count : Int, ((r.remaining / 6 : Nat) : Int) < count →
        (BitField.text count).read r = .error (.malformed (.exhausted 6 (r.remaining % 6)))
            (r.skip (6 * (r.remaining / 6))) ∧
          (r.skip (6 * (r.remaining / 6))).position = r.position + 6 * (r.remaining / 6) := by
  intro r
  obtain ⟨n, hn, hr⟩ : ∃ n ≤ start.remaining, r = start.skip n := exists_run_eq start calls
  have hbits : r.bits = start.bits := by rw [hr, bits_skip]
  have hlength : r.length = start.length := by rw [hr, length_skip]
  have hposition : start.position ≤ r.position := by
    rw [hr, skip_position hn]
    exact Nat.le_add_right _ _
  refine ⟨⟨hbits, hlength⟩, ⟨hposition, hlength ▸ r.position_le, start.length_le⟩,
    call_peek r, fun f h => BitField.read_impossible h r, ?_,
    fun f hwhole h hlt => BitField.read_exhausted_eq hwhole h hlt, ?_⟩
  · intro f hpossible hle
    refine ⟨?_, skip_position hle⟩
    rw [BitField.read_complete hpossible hle, take_rest hle, hbits]
  · intro count hlt
    exact ⟨BitField.read_text_exhausted hlt, skip_position (Nat.mul_div_le r.remaining 6)⟩

/-- More bits are asked for than can be told: fewer remain, but the read does not fail as one that
is short of bits. -/
theorem not_exhausted_overlong :
    ∃ r : Reader, ofArmor "0" none = .ok r ∧ r.remaining < (BitField.uint Text.overlong).size ∧
      (BitField.uint Text.overlong).read r = .error .unwritable r := by
  let r : Reader := ⟨Bits.zeros 6, 6, 0, by decide, by decide⟩
  have hmore : Text.IsWritable 6 := Text.isWritable_of_lt (by decide)
  have hsize : (BitField.uint Text.overlong).size = Text.overlong := Int.toNat_natCast _
  have hlt : r.remaining < (BitField.uint Text.overlong).size := by
    rw [hsize]
    exact hmore
  have hpossible : (BitField.uint Text.overlong).Possible :=
    Int.ofNat_lt.mpr ((Nat.zero_lt_succ 5).trans hmore)
  have hlong : ¬Text.IsWritable (BitField.uint Text.overlong).size := by
    rw [hsize]
    exact Text.not_isWritable_overlong
  refine ⟨r, by rfl, hlt, ?_⟩
  have hread := BitField.read_exhausted_eq (f := .uint Text.overlong) trivial hpossible hlt
  rw [if_neg hlong] at hread
  exact hread

end Reader

end AisStation
