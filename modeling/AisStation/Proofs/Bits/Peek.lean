import AisStation.Proofs.Bits.Calls

/-!
# Looks at other bits

A look at a window of the bits is refused if the window starts before the first bit or ends behind
the declared length. Any other window that ends behind the first bit shows the number that its bits
spell, and bits behind the declared length do not matter. A window of negative width may end before
the first bit. Its end is then counted from the end of all bits at hand, so what it shows is the
number of other bits, fill bits among them.
-/

namespace AisStation.Reader

/-- A look is refused, or the window lies within the declared bits and its number is shown. A window
of negative width has no bits. -/
def ShowsWindow (r : Reader) (offset width : Int) : Prop :=
  (∃ why, r.peekUint offset width = .error why) ∨
    (0 ≤ offset ∧ offset + width ≤ r.length ∧
      r.peekUint offset width = .ok (Bits.toNat ((r.bits.drop offset.toNat).take width.toNat)))

/-- A look has the same outcome on all readers with the same declared bits. -/
def HidesFill (r : Reader) (offset width : Int) : Prop :=
  ∀ s : Reader, s.length = r.length → s.bits.take s.length = r.bits.take r.length →
    s.peekUint offset width = r.peekUint offset width

variable {offset width : Int}

theorem peekUint_refused (r : Reader) (h : offset < 0 ∨ (r.length : Int) < offset + width) :
    r.peekUint offset width = .error (.raised (.peekOutside width offset r.length)) := by
  rw [peekUint, window, if_pos h]
  rfl

/-- The window of a look that is not refused lies within the declared bits. -/
theorem peekUint_window (r : Reader) (hstart : 0 ≤ offset) (hstop : 0 ≤ offset + width)
    (hle : offset + width ≤ r.length) :
    r.peekUint offset width =
      .ok (Bits.toNat (((r.bits.take r.length).drop offset.toNat).take width.toNat)) := by
  have hwindow : (r.bits.take (offset + width).toNat).drop offset.toNat =
      ((r.bits.take r.length).drop offset.toNat).take width.toNat := by
    rw [List.drop_take, List.drop_take, List.take_take]
    congr 1
    omega
  rw [peekUint, window, if_neg (by omega)]
  simp only [if_neg (Int.not_lt.mpr hstop), hwindow]
  rfl

/-- A window that ends before the first bit shows bits up to as many before the last one. -/
theorem peekUint_wrapped (r : Reader) (hstart : 0 ≤ offset) (hstop : offset + width < 0) :
    r.peekUint offset width =
      .ok (Bits.toNat
        ((r.bits.take (offset + width + r.bits.length).toNat).drop offset.toNat)) := by
  rw [peekUint, window, if_neg (by omega)]
  simp only [if_pos hstop]
  rfl

theorem showsWindow (r : Reader) (h : offset < 0 ∨ 0 ≤ offset + width) :
    r.ShowsWindow offset width := by
  by_cases hrefused : offset < 0 ∨ (r.length : Int) < offset + width
  · exact .inl ⟨_, peekUint_refused r hrefused⟩
  · have hstart : 0 ≤ offset := by omega
    have hle : offset + width ≤ r.length := by omega
    refine .inr ⟨hstart, hle, ?_⟩
    rw [peekUint_window r hstart (by omega) hle, List.drop_take, List.take_take,
      min_eq_left (by omega)]

theorem hidesFill (r : Reader) (h : offset < 0 ∨ 0 ≤ offset + width) :
    r.HidesFill offset width := by
  intro s hlength hdeclared
  by_cases hrefused : offset < 0 ∨ (r.length : Int) < offset + width
  · rw [peekUint_refused r hrefused, peekUint_refused s (hlength ▸ hrefused), hlength]
  · rw [peekUint_window r (by omega) (by omega) (by omega),
      peekUint_window s (by omega) (by omega) (by omega), hdeclared]

/-- The reader with `n` bits of one kind behind its declared ones. -/
def refill (r : Reader) (n : Nat) (b : Bool) : Reader where
  bits := r.bits.take r.length ++ List.replicate n b
  length := r.length
  position := r.position
  length_le := by
    have := r.length_le
    simp only [List.length_append, List.length_take]
    omega
  position_le := r.position_le

theorem declared_refill (r : Reader) (n : Nat) (b : Bool) :
    (r.refill n b).bits.take (r.refill n b).length = r.bits.take r.length := by
  have hle := r.length_le
  exact List.take_left' (by rw [List.length_take]; exact min_eq_left hle)

/-- A window that ends before the first bit tells fill bits apart. -/
theorem not_hidesFill (r : Reader) (hstart : 0 ≤ offset) (hstop : offset + width < 0) :
    ¬r.HidesFill offset width := by
  intro hhides
  -- With this much filling the window ends right behind the bit at `offset + r.length`, a fill bit.
  let n := offset.toNat + 1 + (-(offset + width)).toNat
  have hlength (b : Bool) : (r.refill n b).bits.length = r.length + n := by
    have := r.length_le
    simp only [refill, List.length_append, List.length_take, List.length_replicate]
    omega
  let shown (b : Bool) := ((r.refill n b).bits.take (r.length + offset.toNat + 1)).drop offset.toNat
  have hpeek (b : Bool) : (r.refill n b).peekUint offset width = .ok (Bits.toNat (shown b)) := by
    rw [peekUint_wrapped _ hstart hstop, hlength]
    congr 4
    omega
  have hsame : Bits.toNat (shown true) = Bits.toNat (shown false) := by
    have htrue := hhides (r.refill n true) rfl (declared_refill r n true)
    have hfalse := hhides (r.refill n false) rfl (declared_refill r n false)
    rw [hpeek] at htrue hfalse
    exact Except.ok.inj (htrue.trans hfalse.symm)
  have hshown : shown true = shown false := by
    apply Bits.eq_of_toNat_eq _ hsame
    simp only [shown, List.length_drop, List.length_take, hlength]
  have hlast (b : Bool) : (shown b)[r.length]? = some b := by
    have hle := r.length_le
    rw [List.getElem?_drop, List.getElem?_take_of_lt (by omega), refill,
      List.getElem?_append_right (by simp), List.getElem?_replicate,
      if_pos (by simp only [List.length_take]; omega)]
  have := hlast true
  rw [hshown, hlast false] at this
  exact absurd this (by simp)

/-- A look shows its window and hides the fill bits, unless the window ends before the first bit. It
never moves the cursor and does not depend on it. -/
theorem peek_confined_iff (r : Reader) (offset width : Int) :
    ((r.ShowsWindow offset width ∧ r.HidesFill offset width) ↔ offset < 0 ∨ 0 ≤ offset + width) ∧
      (0 ≤ offset → offset + width < 0 → r.peekUint offset width = .ok (Bits.toNat
        ((r.bits.take (offset + width + r.bits.length).toNat).drop offset.toNat))) ∧
      r.call (.peek offset width) = r ∧
      ∀ n, (r.skip n).peekUint offset width = r.peekUint offset width := by
  refine ⟨⟨?_, fun h => ⟨showsWindow r h, hidesFill r h⟩⟩, peekUint_wrapped r,
    call_peek r offset width, fun n => rfl⟩
  rintro ⟨-, hhides⟩
  by_contra h
  exact not_hidesFill r (by omega) (by omega) hhides

/-- Of six declared bits, all zero, a look of width -1 at the start shows the fill bits. -/
theorem peek_shows_fill :
    ∃ r s : Reader, ofArmor "0w" (some 6) = .ok r ∧ ofArmor "00" (some 6) = .ok s ∧
      s.length = r.length ∧ s.bits.take s.length = r.bits.take r.length ∧
      r.peekUint 0 (-1) = .ok 31 ∧ s.peekUint 0 (-1) = .ok 0 ∧
      ¬r.ShowsWindow 0 (-1) ∧ ¬r.HidesFill 0 (-1) := by
  let r : Reader := ⟨Bits.zeros 6 ++ List.replicate 6 true, 6, 0, by decide, by decide⟩
  let s : Reader := ⟨Bits.zeros 12, 6, 0, by decide, by decide⟩
  have hr : r.peekUint 0 (-1) = .ok 31 := rfl
  have hs : s.peekUint 0 (-1) = .ok 0 := rfl
  refine ⟨r, s, rfl, rfl, rfl, rfl, hr, hs, ?_, ?_⟩
  · rintro (⟨why, hwhy⟩ | ⟨-, -, hwindow⟩)
    · rw [hr] at hwhy
      contradiction
    · rw [hr] at hwindow
      exact absurd (Except.ok.inj hwindow) (by decide)
  · intro hhides
    have hsame := hhides s rfl rfl
    rw [hr, hs] at hsame
    exact absurd (Except.ok.inj hsame) (by decide)

end AisStation.Reader
