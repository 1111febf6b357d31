import AisStation.Proofs.Sentence.Grammar

/-!
# Corrupted characters

A change of a single character never turns one sentence into another. The checksum finds a change
within the body. A change that moves the body is found as well: there is one asterisk in a line that
is accepted, and from where its body starts there are five characters to the first comma, so neither
end of the body can move. What is left are the blanks around the sentence and the case of the two
digits behind the asterisk.
-/

namespace AisStation

/-! ## Places in a text -/

namespace Text

/-- Trimming takes blanks from both ends and nothing else. -/
theorem exists_trim (cs : List Char) :
    ∃ before after, cs = before ++ trim cs ++ after ∧ (∀ c ∈ before, isBlank c = true) ∧
      ∀ c ∈ after, isBlank c = true := by
  obtain ⟨after, hsplit, hafter, -⟩ := dropTailWhile_spec isBlank (cs.dropWhile isBlank)
  refine ⟨cs.takeWhile isBlank, after, ?_, fun c hc => List.mem_takeWhile_imp hc, hafter⟩
  rw [List.append_assoc]
  exact List.takeWhile_append_dropWhile.symm.trans (congrArg _ hsplit)

end Text

section Places

variable {α : Type} {m a b : α} {pre post front front' tail tail' : List α}

/-- The first place of a mark is the same however a text is taken apart. -/
theorem eq_of_append_cons_eq (hfront : m ∉ front) (hfront' : m ∉ front')
    (h : front ++ m :: tail = front' ++ m :: tail') : front = front' ∧ tail = tail' := by
  rcases List.append_eq_append_iff.mp h with ⟨mid, hmid, hrest⟩ | ⟨mid, hmid, hrest⟩
  · rcases List.cons_eq_append_iff.mp hrest with ⟨rfl, hcons⟩ | ⟨mid', rfl, -⟩
    · rw [List.append_nil] at hmid
      exact ⟨hmid.symm, (List.cons.inj hcons).2.symm⟩
    · exact absurd (hmid ▸ List.mem_append_right _ List.mem_cons_self) hfront'
  · rcases List.cons_eq_append_iff.mp hrest with ⟨rfl, hcons⟩ | ⟨mid', rfl, -⟩
    · rw [List.append_nil] at hmid
      exact ⟨hmid, (List.cons.inj hcons).2⟩
    · exact absurd (hmid ▸ List.mem_append_right _ List.mem_cons_self) hfront

/-- A character that is replaced in a text stands before its mark, is the mark, or stands behind
it. -/
theorem replaced_cases (h : pre ++ a :: post = front ++ m :: tail) :
    (∃ mid, front = pre ++ a :: mid ∧ post = mid ++ m :: tail) ∨
      (pre = front ∧ a = m ∧ post = tail) ∨
        ∃ mid, pre = front ++ m :: mid ∧ tail = mid ++ a :: post := by
  rcases List.append_eq_append_iff.mp h with ⟨mid, rfl, hrest⟩ | ⟨mid, rfl, hrest⟩
  · rcases List.cons_eq_append_iff.mp hrest with ⟨rfl, hcons⟩ | ⟨mid', rfl, hpost⟩
    · obtain ⟨rfl, rfl⟩ := List.cons.inj hcons
      exact .inr (.inl ⟨(List.append_nil _).symm, rfl, rfl⟩)
    · exact .inl ⟨mid', rfl, hpost⟩
  · rcases List.cons_eq_append_iff.mp hrest with ⟨rfl, hcons⟩ | ⟨mid', rfl, htail⟩
    · obtain ⟨rfl, rfl⟩ := List.cons.inj hcons
      exact .inr (.inl ⟨List.append_nil _, rfl, rfl⟩)
    · exact .inr (.inr ⟨mid', rfl, htail⟩)

/-- If a text has its mark once before and after a character is replaced, the mark stays in its
place: the character stands before it or behind it. -/
theorem replaced_around (hab : a ≠ b) (h : pre ++ a :: post = front ++ m :: tail)
    (h' : pre ++ b :: post = front' ++ m :: tail') (hfront : m ∉ front) (htail : m ∉ tail)
    (hfront' : m ∉ front') (htail' : m ∉ tail') :
    (∃ mid, front = pre ++ a :: mid ∧ front' = pre ++ b :: mid ∧ tail = tail') ∨
      ∃ mid, pre = front ++ m :: mid ∧ front = front' ∧ tail = mid ++ a :: post ∧
        tail' = mid ++ b :: post := by
  rcases replaced_cases h with ⟨mid, rfl, rfl⟩ | ⟨rfl, rfl, rfl⟩ | ⟨mid, rfl, rfl⟩
  · have hkept : (pre ++ b :: mid) ++ m :: tail = front' ++ m :: tail' := by
      rw [← h', List.append_assoc, List.cons_append]
    obtain ⟨hbefore, -, hbehind⟩ :=
      (List.append_cons_inj_of_notMem hfront' htail').mp hkept.symm
    exact .inl ⟨mid, rfl, hbefore, hbehind.symm⟩
  · obtain ⟨-, hb, -⟩ := (List.append_cons_inj_of_notMem hfront htail).mp h'
    exact absurd hb.symm hab
  · have hkept : front ++ m :: (mid ++ b :: post) = front' ++ m :: tail' := by
      rw [← h', List.append_assoc, List.cons_append]
    obtain ⟨hbefore, -, hbehind⟩ :=
      (List.append_cons_inj_of_notMem hfront' htail').mp hkept.symm
    exact .inr ⟨mid, rfl, hbefore.symm, rfl, hbehind⟩

end Places

namespace Sentence

/-! ## Checksums -/

theorem foldl_checksum (body : List Char) (sum : Nat) :
    body.foldl (fun sum c => sum ^^^ c.toNat) sum = sum ^^^ checksum body := by
  induction body generalizing sum with
  | nil => exact (Nat.xor_zero sum).symm
  | cons c body ih =>
    rw [checksum, List.foldl_cons, List.foldl_cons, ih, ih, Nat.zero_xor, Nat.xor_assoc]

theorem checksum_append (xs ys : List Char) :
    checksum (xs ++ ys) = checksum xs ^^^ checksum ys := by
  rw [checksum, List.foldl_append, foldl_checksum]
  rfl

theorem checksum_cons (c : Char) (cs : List Char) :
    checksum (c :: cs) = c.toNat ^^^ checksum cs := by
  rw [checksum, List.foldl_cons, foldl_checksum, Nat.zero_xor]

/-- Texts that differ in one character have different checksums. -/
theorem eq_of_checksum_eq {xs ys : List Char} {a b : Char}
    (h : checksum (xs ++ a :: ys) = checksum (xs ++ b :: ys)) : a = b := by
  rw [checksum_append, checksum_append, Nat.xor_right_inj, checksum_cons, checksum_cons,
    Nat.xor_left_inj] at h
  exact Char.toNat_inj.mp h

/-- Two digits in one place of a pair that spells a number are equal, but for their case. -/
theorem toUpper_eq_of_hexPair? {high high' low low' : Char} {n : Nat}
    (h : hexPair? high low = some n) (h' : hexPair? high' low' = some n) :
    (low = low' → high.toUpper = high'.toUpper) ∧ (high = high' → low.toUpper = low'.toUpper) := by
  obtain ⟨hhigh, hlow⟩ := isHexDigit_of_hexPair? h
  obtain ⟨hhigh', hlow'⟩ := isHexDigit_of_hexPair? h'
  obtain ⟨v, hv, -, hvUpper⟩ := hexValue?_spec hhigh
  obtain ⟨w, hw, -, hwUpper⟩ := hexValue?_spec hlow
  obtain ⟨v', hv', -, hvUpper'⟩ := hexValue?_spec hhigh'
  obtain ⟨w', hw', -, hwUpper'⟩ := hexValue?_spec hlow'
  rw [hexPair?, hv, hw] at h
  rw [hexPair?, hv', hw'] at h'
  have hsum : 16 * v + w = 16 * v' + w' := Option.some.inj (h.trans h'.symm)
  rw [hvUpper, hvUpper', hwUpper, hwUpper']
  constructor
  · rintro rfl
    have hww' := Option.some.inj (hw.symm.trans hw')
    rw [show v = v' by omega]
  · rintro rfl
    have hvv' := Option.some.inj (hv.symm.trans hv')
    rw [show w = w' by omega]

/-! ## Lines taken apart -/

/-- A line that is parsed, taken apart into blanks, its body, two digits and blanks. -/
structure Apart (line : List Char) (s : Sentence) (before body : List Char) (high low : Char)
    (after : List Char) : Prop where
  line_eq : line = (before ++ '!' :: body) ++ '*' :: high :: low :: after
  before_blank : ∀ c ∈ before, Text.isBlank c = true
  after_blank : ∀ c ∈ after, Text.isBlank c = true
  frames : Frames ('!' :: (body ++ ['*', high, low])) body high low
  fields : ∃ f : FieldTexts, splitAt ',' body = f.toList ∧ f.Write s

theorem exists_apart {line : List Char} {s : Sentence} (h : parse (String.ofList line) = .ok s) :
    ∃ before body high low after, Apart line s before body high low after := by
  rw [parse, String.toList_ofList] at h
  obtain ⟨body, high, low, hframes, hfields⟩ := parseTrimmed_eq_ok_iff.mp h
  obtain ⟨before, after, hline, hbefore, hafter⟩ := Text.exists_trim line
  have htext := hframes.text_eq
  rw [htext] at hframes hline
  refine ⟨before, body, high, low, after, ?_, hbefore, hafter, hframes,
    ofFields_eq_ok_iff.mp hfields⟩
  rw [hline]
  simp

namespace Apart

variable {line line' before before' body body' after after' : List Char} {s s' : Sentence}
  {high high' low low' : Char}

/-- The sentence is told by the body. -/
theorem sentence_eq (h : Apart line s before body high low after)
    (h' : Apart line' s' before' body high' low' after') : s' = s := by
  have hs : ofFields [] (splitAt ',' body) = .ok s := ofFields_eq_ok_iff.mpr h.fields
  have hs' : ofFields [] (splitAt ',' body) = .ok s' := ofFields_eq_ok_iff.mpr h'.fields
  exact Except.ok.inj (hs'.symm.trans hs)

theorem not_mem_before (h : Apart line s before body high low after) {c : Char}
    (hc : Text.isBlank c = false) : c ∉ before := by
  intro hmem
  rw [h.before_blank c hmem] at hc
  contradiction

theorem star_not_mem (h : Apart line s before body high low after) :
    '*' ∉ before ++ '!' :: body ∧ '*' ∉ high :: low :: after := by
  obtain ⟨hhigh, hlow⟩ := isHexDigit_of_hexPair? h.frames.spells
  constructor
  · intro hmem
    rcases List.mem_append.mp hmem with hmem | hmem
    · exact h.not_mem_before (by decide) hmem
    · exact h.frames.unmarked ((List.mem_cons.mp hmem).resolve_left (by decide))
  · intro hmem
    rcases List.mem_cons.mp hmem with rfl | hmem
    · exact absurd hhigh (by decide)
    · rcases List.mem_cons.mp hmem with rfl | hmem
      · exact absurd hlow (by decide)
      · exact absurd (h.after_blank _ hmem) (by decide)

/-- A body has five characters before its first comma. -/
theorem exists_address (h : Apart line s before body high low after) :
    ∃ address rest, body = address ++ ',' :: rest ∧ ',' ∉ address ∧ address.length = 5 := by
  obtain ⟨f, hpieces, hwrite⟩ := h.fields
  obtain ⟨hbody, hcommas⟩ := (splitAt_eq_iff (List.cons_ne_nil _ _)).mp hpieces
  change body = [','].intercalate (f.address :: f.count :: _) at hbody
  rw [List.intercalate_cons_cons, List.append_assoc] at hbody
  refine ⟨f.address, _, hbody, hcommas _ List.mem_cons_self, ?_⟩
  rw [hwrite.address, List.length_append, String.length_toList, hwrite.talker_length]
  cases s.kind <;> rfl

/-- A body does not start within another one: its first comma would come too late. -/
theorem body_ne_append (h : Apart line s before body high low after)
    (h' : Apart line' s' before' body' high' low' after') {shift : List Char}
    (hshift : ',' ∉ shift) : body ≠ shift ++ '!' :: body' := by
  intro heq
  obtain ⟨address, rest, hbody, hcomma, hlen⟩ := h.exists_address
  obtain ⟨address', rest', hbody', hcomma', hlen'⟩ := h'.exists_address
  have hstart : ',' ∉ shift ++ '!' :: address' := by
    intro hmem
    rcases List.mem_append.mp hmem with hmem | hmem
    · exact hshift hmem
    · exact hcomma' ((List.mem_cons.mp hmem).resolve_left (by decide))
  rw [hbody, hbody', ← List.cons_append, ← List.append_assoc] at heq
  obtain ⟨haddress, -⟩ := eq_of_append_cons_eq hcomma hstart heq
  have hlength := congrArg List.length haddress
  rw [List.length_append, List.length_cons] at hlength
  omega

variable {pre post mid : List Char} {a b : Char}

/-- A change before the asterisk is one among the blanks in front or one in the body: it never moves
the exclamation mark. -/
theorem replaced_front (h : Apart line s before body high low after)
    (h' : Apart line' s' before' body' high' low' after') (hab : a ≠ b)
    (hfront : before ++ '!' :: body = pre ++ a :: mid)
    (hfront' : before' ++ '!' :: body' = pre ++ b :: mid) :
    (∃ k, before = pre ++ a :: k ∧ before' = pre ++ b :: k ∧ body = body') ∨
      ∃ k, body = k ++ a :: mid ∧ body' = k ++ b :: mid := by
  have hmark : '!' ∉ before := h.not_mem_before (by decide)
  have hmark' : '!' ∉ before' := h'.not_mem_before (by decide)
  have hcomma : ',' ∉ before := h.not_mem_before (by decide)
  have hcomma' : ',' ∉ before' := h'.not_mem_before (by decide)
  -- the character before the change stands in front of the mark, is it, or stands in the body
  rcases replaced_cases hfront.symm with ⟨k, rfl, hmid⟩ | ⟨rfl, ha, hmid⟩ | ⟨k, rfl, hbody⟩
  · -- and so does the one after the change
    rcases replaced_cases hfront'.symm with ⟨k', rfl, hmid'⟩ | ⟨-, -, hbody'⟩ | ⟨k', rfl, -⟩
    · have hk : '!' ∉ k := fun hmem => hmark (by simp [hmem])
      have hk' : '!' ∉ k' := fun hmem => hmark' (by simp [hmem])
      obtain ⟨rfl, hbody⟩ := eq_of_append_cons_eq hk hk' (hmid.symm.trans hmid')
      exact .inl ⟨k, rfl, rfl, hbody⟩
    · have hk : ',' ∉ k := fun hmem => hcomma (by simp [hmem])
      exact absurd (hbody'.symm.trans hmid) (h'.body_ne_append h hk)
    · exact absurd (by simp) hmark
  · rcases replaced_cases hfront'.symm with ⟨k', rfl, hmid'⟩ | ⟨-, hb, -⟩ | ⟨k', rfl, -⟩
    · have hk' : ',' ∉ k' := fun hmem => hcomma' (by simp [hmem])
      exact absurd (hmid.symm.trans hmid') (h.body_ne_append h' hk')
    · exact absurd (ha.trans hb.symm) hab
    · exact absurd (by simp) hmark
  · rcases replaced_cases hfront'.symm with ⟨k', rfl, -⟩ | ⟨rfl, -, -⟩ | ⟨k', hpre, hbody'⟩
    · exact absurd (by simp) hmark'
    · exact absurd (by simp) hmark'
    · obtain ⟨-, rfl⟩ := eq_of_append_cons_eq hmark hmark' hpre
      exact .inr ⟨k, hbody, hbody'⟩

/-- A change behind the asterisk is one of a digit or one among the blanks at the end. -/
theorem replaced_tail (h : Apart line s before body high low after)
    (h' : Apart line' s' before' body high' low' after')
    (htail : high :: low :: after = mid ++ a :: post)
    (htail' : high' :: low' :: after' = mid ++ b :: post) :
    (mid.length ≤ 1 ∧ isHexDigit a = true ∧ isHexDigit b = true ∧ a.toUpper = b.toUpper) ∨
      (Text.isBlank a = true ∧ Text.isBlank b = true ∧ ∀ c ∈ post, Text.isBlank c = true) := by
  obtain ⟨hhigh, hlow⟩ := isHexDigit_of_hexPair? h.frames.spells
  obtain ⟨hhigh', hlow'⟩ := isHexDigit_of_hexPair? h'.frames.spells
  obtain ⟨hupperHigh, hupperLow⟩ := toUpper_eq_of_hexPair? h.frames.spells h'.frames.spells
  match mid with
  | [] =>
    obtain ⟨rfl, hpost⟩ := List.cons.inj htail
    obtain ⟨rfl, hpost'⟩ := List.cons.inj htail'
    obtain ⟨hlows, -⟩ := List.cons.inj (hpost.trans hpost'.symm)
    exact .inl ⟨by simp, hhigh, hhigh', hupperHigh hlows⟩
  | [c] =>
    obtain ⟨rfl, hrest⟩ := List.cons.inj htail
    obtain ⟨hhighs, hrest'⟩ := List.cons.inj htail'
    obtain ⟨rfl, -⟩ := List.cons.inj hrest
    obtain ⟨rfl, -⟩ := List.cons.inj hrest'
    exact .inl ⟨by simp, hlow, hlow', hupperLow hhighs.symm⟩
  | c :: d :: k =>
    obtain ⟨-, hrest⟩ := List.cons.inj htail
    obtain ⟨-, hrest'⟩ := List.cons.inj htail'
    obtain ⟨-, hafter⟩ := List.cons.inj hrest
    obtain ⟨-, hafter'⟩ := List.cons.inj hrest'
    change after = k ++ a :: post at hafter
    change after' = k ++ b :: post at hafter'
    have hblank := h.after_blank
    have hblank' := h'.after_blank
    rw [hafter, List.forall_mem_append, List.forall_mem_cons] at hblank
    rw [hafter', List.forall_mem_append, List.forall_mem_cons] at hblank'
    exact .inr ⟨hblank.2.1, hblank'.2.1, hblank.2.2⟩

end Apart

/-! ## Corrupted lines -/

/-- A blank in front of the sentence or behind it is replaced by a blank, or one of the two digits
behind the asterisk by the same digit in the other case. -/
def Harmless (pre : List Char) (a b : Char) (post : List Char) : Prop :=
  (Text.isBlank a = true ∧ Text.isBlank b = true ∧
      ((∀ c ∈ pre, Text.isBlank c = true) ∨ ∀ c ∈ post, Text.isBlank c = true)) ∨
    (isHexDigit a = true ∧ isHexDigit b = true ∧ a.toUpper = b.toUpper ∧
      ∃ front digits, pre = front ++ '*' :: digits ∧ digits.length ≤ 1)

theorem Apart.replaced {pre post : List Char} {a b : Char} (hab : a ≠ b)
    {before before' body body' after after' : List Char} {s s' : Sentence}
    {high high' low low' : Char}
    (h : Apart (pre ++ a :: post) s before body high low after)
    (h' : Apart (pre ++ b :: post) s' before' body' high' low' after') :
    s' = s ∧ Harmless pre a b post := by
  obtain ⟨hfront, htail⟩ := h.star_not_mem
  obtain ⟨hfront', htail'⟩ := h'.star_not_mem
  rcases replaced_around hab h.line_eq h'.line_eq hfront htail hfront' htail' with
    ⟨mid, heq, heq', hdigits⟩ | ⟨mid, hpre, heq, htails, htails'⟩
  · rcases h.replaced_front h' hab heq heq' with ⟨k, hbefore, hbefore', rfl⟩ | ⟨k, hbody, hbody'⟩
    · have hblank := h.before_blank
      have hblank' := h'.before_blank
      rw [hbefore, List.forall_mem_append, List.forall_mem_cons] at hblank
      rw [hbefore', List.forall_mem_append, List.forall_mem_cons] at hblank'
      exact ⟨h.sentence_eq h', .inl ⟨hblank.2.1, hblank'.2.1, .inl hblank.1⟩⟩
    · -- the digits are the same, so the checksum finds the change
      obtain ⟨rfl, hrest⟩ := List.cons.inj hdigits
      obtain ⟨rfl, -⟩ := List.cons.inj hrest
      have hsum := Option.some.inj (h.frames.spells.symm.trans h'.frames.spells)
      rw [hbody, hbody'] at hsum
      exact absurd (eq_of_checksum_eq hsum) hab
  · have hmark : '!' ∉ before := h.not_mem_before (by decide)
    have hmark' : '!' ∉ before' := h'.not_mem_before (by decide)
    obtain ⟨-, rfl⟩ := eq_of_append_cons_eq hmark hmark' heq
    refine ⟨h.sentence_eq h', ?_⟩
    rcases h.replaced_tail h' htails htails' with ⟨hlen, ha, hb, hupper⟩ | ⟨ha, hb, hpost⟩
    · exact .inr ⟨ha, hb, hupper, _, mid, hpre, hlen⟩
    · exact .inl ⟨ha, hb, .inr hpost⟩

/-- A line that is accepted, and in which one character is replaced by another, is refused or gives
the same sentence; the latter only where a blank around the sentence becomes another blank or a
digit of the checksum changes its case. -/
theorem parse_replaced {pre post : List Char} {a b : Char} {s : Sentence}
    (h : parse (String.ofList (pre ++ a :: post)) = .ok s) (hab : a ≠ b) :
    (∃ error, parse (String.ofList (pre ++ b :: post)) = .error error) ∨
      parse (String.ofList (pre ++ b :: post)) = .ok s ∧ Harmless pre a b post := by
  cases hresult : parse (String.ofList (pre ++ b :: post)) with
  | error why => exact .inl ⟨why, rfl⟩
  | ok s' =>
    obtain ⟨before, body, high, low, after, hapart⟩ := exists_apart h
    obtain ⟨before', body', high', low', after', hapart'⟩ := exists_apart hresult
    obtain ⟨rfl, hharmless⟩ := Apart.replaced hab hapart hapart'
    exact .inr ⟨rfl, hharmless⟩

/-- A digit of the checksum in the other case. -/
theorem parse_replaced_digit :
    let pre := "!AIVDO,+2, 1,,B,ww,2*2".toList
    let s : Sentence := {
      talker := "AI", kind := .vdo, fragmentCount := 2, fragmentNumber := 1, sequenceId := none,
      channel := "B", payload := "ww", fillBits := 2 }
    parse (String.ofList (pre ++ 'D' :: ['\r', '\n'])) = .ok s ∧ 'D' ≠ 'd' ∧
      ((∃ error, parse (String.ofList (pre ++ 'd' :: ['\r', '\n'])) = .error error) ∨
        parse (String.ofList (pre ++ 'd' :: ['\r', '\n'])) = .ok s ∧
          Harmless pre 'D' 'd' ['\r', '\n']) := by
  intro pre s
  have h : parse (String.ofList (pre ++ 'D' :: ['\r', '\n'])) = .ok s := by decide
  exact ⟨h, by decide, parse_replaced h (by decide)⟩

/-- The checksum alone does not find every change that moves the start of the body. -/
example : (parse "\t \x0b\n!AIVDM,1,1,,B,ww,2*27").toOption.isSome = true ∧
    parse "! \x0b\n!AIVDM,1,1,,B,ww,2*27" =
      .error (.unsupportedAddress " \x0b\n!AIVDM".toList) := by
  decide

end Sentence

end AisStation
