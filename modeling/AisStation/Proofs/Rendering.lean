import AisStation.Json.Render

/-!
# The characters of JSON texts

A JSON text consists of printable ASCII characters: control characters and what lies beyond ASCII
are escaped inside texts, and numbers have digits, signs, points and exponents only. So a JSON text
never ends a line.
-/

namespace AisStation

/-- Printable ASCII: the space and the visible characters. -/
def IsPlain (c : Char) : Prop :=
  32 ≤ c.toNat ∧ c.toNat < 127

instance (c : Char) : Decidable (IsPlain c) :=
  inferInstanceAs (Decidable (_ ∧ _))

theorem IsPlain.ne_newline {c : Char} (h : IsPlain c) : c ≠ '\n' := by
  rintro rfl
  exact absurd h.1 (by decide)

/-- Of a given list it can be evaluated. -/
theorem isPlain_of_all {cs : List Char} (h : cs.all (fun c => decide (IsPlain c)) = true) :
    ∀ c ∈ cs, IsPlain c := by
  simpa using h

/-! ## Digits -/

theorem isPlain_of_isDigit {c : Char} (h : c.isDigit = true) : IsPlain c := by
  simp only [Char.isDigit, Bool.and_eq_true, decide_eq_true_eq, UInt32.le_iff_toNat_le] at h
  have hbounds : 48 ≤ c.toNat ∧ c.toNat ≤ 57 := h
  unfold IsPlain
  omega

theorem isPlain_toDigits (n : Nat) : ∀ c ∈ Nat.toDigits 10 n, IsPlain c := by
  intro c hc
  exact isPlain_of_isDigit (Nat.isDigit_of_mem_toDigits (by decide) (by decide) hc)

theorem isPlain_hexDigit {n : Nat} (h : n < 16) : IsPlain (Text.hexDigit n) := by
  have hall : ∀ n < 16, IsPlain (Text.hexDigit n) := by decide
  exact hall n h

theorem isPlain_hexDigits (width n : Nat) : ∀ c ∈ Text.hexDigits width n, IsPlain c := by
  induction width with
  | zero => exact fun c hc => absurd hc List.not_mem_nil
  | succ width ih =>
    exact List.forall_mem_cons.mpr ⟨isPlain_hexDigit (Nat.mod_lt _ (by decide)), ih⟩

theorem isPlain_toString (n : Int) : ∀ c ∈ (toString n).toList, IsPlain c := by
  cases n with
  | ofNat n =>
    have htext : (toString (Int.ofNat n)).toList = Nat.toDigits 10 n := Nat.toList_repr
    rw [htext]
    exact isPlain_toDigits n
  | negSucc n =>
    have htext : (toString (Int.negSucc n)).toList = '-' :: Nat.toDigits 10 (n + 1) := by
      rw [← Nat.toList_repr]
      exact String.toList_append
    rw [htext]
    exact List.forall_mem_cons.mpr ⟨by decide, isPlain_toDigits (n + 1)⟩

/-! ## Numbers in double precision -/

namespace Decimal

theorem isPlain_significantDigits (d : Decimal) : ∀ c ∈ d.significantDigits, IsPlain c := by
  intro c hc
  unfold significantDigits at hc
  dsimp only at hc
  split at hc
  · rw [List.mem_singleton.mp hc]
    decide
  · rw [List.mem_reverse] at hc
    have hdigit := List.mem_reverse.mp ((List.dropWhile_sublist _).subset hc)
    exact isPlain_toDigits d.digits c hdigit

theorem isPlain_exponentText (e : Int) : ∀ c ∈ exponentText e, IsPlain c := by
  have hsign : IsPlain (if e < 0 then '-' else '+') := by
    split <;> decide
  have hdigits : ∀ c ∈ (if (Nat.toDigits 10 e.natAbs).length < 2 then
      '0' :: Nat.toDigits 10 e.natAbs else Nat.toDigits 10 e.natAbs), IsPlain c := by
    split
    · exact List.forall_mem_cons.mpr ⟨by decide, isPlain_toDigits _⟩
    · exact isPlain_toDigits _
  exact List.forall_mem_cons.mpr ⟨by decide, List.forall_mem_cons.mpr ⟨hsign, hdigits⟩⟩

theorem isPlain_text (d : Decimal) : ∀ c ∈ d.text, IsPlain c := by
  have hdigits := isPlain_significantDigits d
  have hpoint : ∀ c ∈ ['.', '0'], IsPlain c := isPlain_of_all rfl
  have hzero : ∀ n, ∀ c ∈ List.replicate n '0', IsPlain c := by
    intro n c hc
    rw [List.eq_of_mem_replicate hc]
    decide
  have hrest : ∀ n, ∀ c ∈ '.' :: d.significantDigits.drop n, IsPlain c := fun n =>
    List.forall_mem_cons.mpr ⟨by decide, fun c hc => hdigits c (List.mem_of_mem_drop hc)⟩
  unfold text
  dsimp only
  split
  · refine List.forall_mem_append.mpr ⟨List.forall_mem_append.mpr ⟨?_, ?_⟩, ?_⟩
    · exact fun c hc => hdigits c (List.mem_of_mem_take hc)
    · split
      · exact fun c hc => absurd hc List.not_mem_nil
      · exact hrest 1
    · exact isPlain_exponentText _
  · split
    · rw [List.cons_append, List.cons_append]
      exact List.forall_mem_cons.mpr ⟨by decide, List.forall_mem_cons.mpr ⟨by decide,
        List.forall_mem_append.mpr ⟨hzero _, hdigits⟩⟩⟩
    · split
      · exact List.forall_mem_append.mpr ⟨List.forall_mem_append.mpr ⟨hdigits, hzero _⟩, hpoint⟩
      · exact List.forall_mem_append.mpr
          ⟨fun c hc => hdigits c (List.mem_of_mem_take hc), hrest _⟩

end Decimal

theorem Binary64.isPlain_text (x : Binary64) : ∀ c ∈ x.text.toList, IsPlain c := by
  cases x with
  | nan => exact isPlain_of_all rfl
  | infinite negative => cases negative <;> exact isPlain_of_all rfl
  | finite negative significand exponent =>
    have hmagnitude : ∀ c ∈ (if significand = 0 then ['0', '.', '0'] else
        (Decimal.shortest significand exponent).text), IsPlain c := by
      split
      · exact isPlain_of_all rfl
      · exact Decimal.isPlain_text _
    rw [text, String.toList_ofList]
    cases negative with
    | false => exact hmagnitude
    | true => exact List.forall_mem_cons.mpr ⟨by decide, hmagnitude⟩

/-! ## Values -/

namespace Json

theorem isPlain_escapeUnit (n : Nat) : ∀ c ∈ escapeUnit n, IsPlain c :=
  List.forall_mem_cons.mpr ⟨by decide, List.forall_mem_cons.mpr ⟨by decide,
    isPlain_hexDigits 4 n⟩⟩

/-- Whatever a character is, its escape is printable. -/
theorem isPlain_escapeChar (c : Char) : ∀ c' ∈ escapeChar c, IsPlain c' := by
  unfold escapeChar
  split
  · rename_i hc
    rcases hc with rfl | rfl <;> exact isPlain_of_all rfl
  iterate 5
    split
    · exact isPlain_of_all rfl
  split
  · rename_i hc
    exact List.forall_mem_singleton.mpr hc
  split
  · exact isPlain_escapeUnit _
  · exact List.forall_mem_append.mpr ⟨isPlain_escapeUnit _, isPlain_escapeUnit _⟩

theorem isPlain_renderText (s : String) : ∀ c ∈ renderText s, IsPlain c := by
  refine List.forall_mem_append.mpr ⟨List.forall_mem_cons.mpr ⟨by decide, ?_⟩, isPlain_of_all rfl⟩
  intro c hc
  obtain ⟨c', -, hc⟩ := List.mem_flatMap.mp hc
  exact isPlain_escapeChar c' c hc

mutual

theorem isPlain_renderChars : ∀ (value : Json), ∀ c ∈ renderChars value, IsPlain c
  | null => isPlain_of_all rfl
  | bool b => by cases b <;> exact isPlain_of_all rfl
  | int n => by
    rw [renderChars]
    exact isPlain_toString n
  | real x => by
    rw [renderChars]
    exact x.isPlain_text
  | text s => by
    rw [renderChars]
    exact isPlain_renderText s
  | list items => by
    rw [renderChars]
    exact List.forall_mem_append.mpr
      ⟨List.forall_mem_cons.mpr ⟨by decide, isPlain_renderItems items⟩, isPlain_of_all rfl⟩
  | object members => by
    rw [renderChars]
    exact List.forall_mem_append.mpr
      ⟨List.forall_mem_cons.mpr ⟨by decide, isPlain_renderMembers members⟩, isPlain_of_all rfl⟩

theorem isPlain_renderItems : ∀ (items : List Json), ∀ c ∈ renderItems items, IsPlain c
  | [] => by
    rw [renderItems]
    exact fun c hc => absurd hc List.not_mem_nil
  | [item] => by
    rw [renderItems]
    exact isPlain_renderChars item
  | item :: item' :: items => by
    rw [renderItems]
    · exact List.forall_mem_append.mpr ⟨List.forall_mem_append.mpr
        ⟨isPlain_renderChars item, isPlain_of_all rfl⟩, isPlain_renderItems (item' :: items)⟩
    · exact List.cons_ne_nil _ _

theorem isPlain_renderMembers :
    ∀ (members : List (String × Json)), ∀ c ∈ renderMembers members, IsPlain c
  | [] => by
    rw [renderMembers]
    exact fun c hc => absurd hc List.not_mem_nil
  | [(name, value)] => by
    rw [renderMembers]
    exact List.forall_mem_append.mpr ⟨List.forall_mem_append.mpr
      ⟨isPlain_renderText name, isPlain_of_all rfl⟩, isPlain_renderChars value⟩
  | (name, value) :: member :: members => by
    rw [renderMembers]
    · exact List.forall_mem_append.mpr ⟨List.forall_mem_append.mpr ⟨List.forall_mem_append.mpr
        ⟨List.forall_mem_append.mpr ⟨isPlain_renderText name, isPlain_of_all rfl⟩,
          isPlain_renderChars value⟩, isPlain_of_all rfl⟩,
            isPlain_renderMembers (member :: members)⟩
    · exact List.cons_ne_nil _ _

end

/-- A JSON text does not end a line. -/
theorem newline_notMem_render (value : Json) : '\n' ∉ value.render.toList := by
  rw [render, String.toList_ofList]
  intro h
  exact (isPlain_renderChars value _ h).ne_newline rfl

end Json

end AisStation
