import AisStation.Config.Reading
import AisStation.Proofs.Alphabet
import AisStation.Text.Integer
import Mathlib.Data.List.TakeWhile

/-!
# Two readings of numerals

A numeral in a configuration is read twice: by the schema, which drops margins, leading zeros, a
fraction of zeros and separators before it looks at digits, and by the components, which read digits
and separators as they come, those of other scripts too. The two do not accept the same texts. Where
both accept one, they read the same number: what the schema drops of such a text has no value.
-/

namespace AisStation

namespace Text

/-- A digit, or a separator of digits. -/
def IsPlace (c : Char) : Prop :=
  ('0' ≤ c ∧ c ≤ '9') ∨ c = '_'

/-- The number that digits spell, separators aside. -/
def spelled (cs : List Char) : Nat :=
  ofDigits ((cs.filter (· ≠ '_')).map fun c => c.toNat - 48)

theorem IsPlace.ne {c : Char} (h : IsPlace c) : c ≠ '-' ∧ c ≠ '+' ∧ c ≠ '.' := by
  refine ⟨?_, ?_, ?_⟩ <;> rintro rfl <;> exact absurd h (by unfold IsPlace; decide)

theorem spelled_zero (cs : List Char) : spelled ('0' :: cs) = spelled cs := rfl

theorem spelled_separator (cs : List Char) : spelled ('_' :: cs) = spelled cs := rfl

theorem spelled_filter (cs : List Char) : spelled (cs.filter (· ≠ '_')) = spelled cs := by
  rw [spelled, List.filter_filter, spelled]
  simp only [Bool.and_self]

/-- A zero or a separator, which has no value before the digits of a number. -/
def IsNought (c : Char) : Prop :=
  c = '0' ∨ c = '_'

theorem spelled_append_of_noughts {noughts : List Char} (h : ∀ c ∈ noughts, IsNought c)
    (cs : List Char) : spelled (noughts ++ cs) = spelled cs := by
  induction noughts with
  | nil => rfl
  | cons c noughts ih =>
    obtain ⟨hc, hrest⟩ := List.forall_mem_cons.mp h
    rw [List.cons_append, ← ih hrest]
    rcases hc with rfl | rfl
    · exact spelled_zero _
    · exact spelled_separator _

theorem numeralDigits_eq_some {needed : Bool} {cs : List Char} {digits : List Nat}
    (h : numeralDigits needed cs = some digits) :
    (∀ c ∈ cs, IsPlace c) ∧ digits = (cs.filter (· ≠ '_')).map fun c => c.toNat - 48 := by
  induction cs generalizing needed digits with
  | nil =>
    rw [numeralDigits] at h
    split at h
    · contradiction
    · exact ⟨fun c hc => absurd hc List.not_mem_nil, (Option.some.inj h).symm⟩
  | cons c cs ih =>
    rw [numeralDigits] at h
    split at h
    · rename_i hdigit
      obtain ⟨rest, hrest, rfl⟩ := Option.map_eq_some_iff.mp h
      obtain ⟨hplaces, rfl⟩ := ih hrest
      have hne : c ≠ '_' := by
        rintro rfl
        exact absurd hdigit (by decide)
      refine ⟨List.forall_mem_cons.mpr ⟨.inl hdigit, hplaces⟩, ?_⟩
      rw [List.filter_cons_of_pos (by simpa using hne), List.map_cons]
    · split at h
      · rename_i hseparator
        obtain ⟨hplaces, rfl⟩ := ih h
        refine ⟨List.forall_mem_cons.mpr ⟨.inr hseparator.1, hplaces⟩, ?_⟩
        rw [List.filter_cons_of_neg (by simp [hseparator.1])]
      · contradiction

theorem numeral?_eq_some {cs : List Char} {n : Nat} (h : numeral? cs = some n) :
    (∀ c ∈ cs, IsPlace c) ∧ n = spelled cs := by
  obtain ⟨digits, hdigits, hn⟩ := Option.bind_eq_some_iff.mp h
  obtain ⟨hplaces, rfl⟩ := numeralDigits_eq_some hdigits
  split at hn
  · exact ⟨hplaces, (Option.some.inj hn).symm⟩
  · contradiction

/-! ## Blanks around a numeral -/

theorem dropTailWhile_map (p : Char → Bool) (f : Char → Char) (cs : List Char) :
    dropTailWhile p (cs.map f) = (dropTailWhile (p ∘ f) cs).map f := by
  rw [dropTailWhile, ← List.map_reverse, List.dropWhile_map, ← List.map_reverse, dropTailWhile]

theorem map_eq_self {f : Char → Char} {cs : List Char} (h : ∀ c ∈ cs, f c = c) :
    cs.map f = cs :=
  (List.map_congr_left h).trans (List.map_id' cs)

/-- Nothing is dropped from the ends of a text in which nothing is to be dropped. -/
theorem trim_eq_self {p : Char → Bool} {cs : List Char} (h : ∀ c ∈ cs, p c = false) :
    dropTailWhile p (cs.dropWhile p) = cs := by
  have hdrop : cs.dropWhile p = cs := by
    rw [List.dropWhile_eq_self_iff]
    intro hpos
    rw [h _ (List.getElem_mem hpos)]
    exact Bool.false_ne_true
  rw [hdrop, dropTailWhile_eq_self fun c hc => h c (List.mem_of_getLast? hc)]

theorem decimalDigit?_lt {c : Char} {d : Nat} (h : decimalDigit? c = some d) : d < 10 := by
  obtain ⟨first, hfirst, rfl⟩ := Option.map_eq_some_iff.mp h
  have hrange := List.find?_some hfirst
  simp only [Bool.and_eq_true, decide_eq_true_eq] at hrange
  omega

end Text

open Text

namespace Config.Reading

/-- Written in ASCII, the white space around a numeral is what the components skip. -/
theorem isAsciiBlank_asciiNumeral (c : Char) : isAsciiBlank (asciiNumeral c) = isMargin c := by
  have hdigits : ∀ d < 10, isAsciiBlank (Char.ofNat (48 + d)) = false := by decide
  rw [asciiNumeral]
  split
  · rename_i hlt
    rw [Bool.eq_iff_iff]
    simp only [isAsciiBlank, isMargin, isBlank, Bool.or_eq_true, Bool.and_eq_true, beq_iff_eq,
      decide_eq_true_eq, Bool.not_eq_true', Bool.and_eq_false_iff, decide_eq_false_iff_not]
    omega
  · rename_i hge
    split
    · rename_i hblank
      have hmargin : isMargin c = true := by
        rw [isMargin, hblank, Bool.true_and, Bool.not_eq_true', Bool.and_eq_false_iff]
        exact .inr (decide_eq_false (by omega))
      rw [hmargin]
      rfl
    · rename_i hblank
      have hmargin : isMargin c = false := by
        rw [isMargin, Bool.not_eq_true _ |>.mp hblank, Bool.false_and]
      rw [hmargin]
      split
      · rename_i d hd
        exact hdigits d (decimalDigit?_lt hd)
      · decide

/-! ## What the schema drops -/

/-- All that the shorter text lacks is ASCII. -/
def Keeps (cs short : List Char) : Prop :=
  ∀ c ∈ cs, c ∈ short ∨ c.toNat < 127

variable {cs r : List Char} {last : Char}

theorem Keeps.refl (cs : List Char) : Keeps cs cs := fun _ hc => .inl hc

theorem Keeps.trans {middle : List Char} (h : Keeps cs middle) (h' : Keeps middle r) :
    Keeps cs r := by
  intro c hc
  rcases h c hc with hmiddle | hascii
  · exact h' c hmiddle
  · exact .inr hascii

theorem Keeps.cons (h : Keeps cs r) {c : Char} (hc : c.toNat < 127) : Keeps (c :: cs) r :=
  List.forall_mem_cons.mpr ⟨.inr hc, h⟩

theorem Keeps.cons_cons (h : Keeps cs r) (c : Char) : Keeps (c :: cs) (c :: r) := by
  refine List.forall_mem_cons.mpr ⟨.inl List.mem_cons_self, ?_⟩
  intro d hd
  exact (h d hd).imp_left (List.mem_cons_of_mem c)

theorem keeps_dropPlus? (h : dropPlus? cs = some r) : Keeps cs r := by
  rw [dropPlus?.eq_def] at h
  split at h
  · contradiction
  · obtain rfl := Option.some.inj h
    exact (Keeps.refl _).cons (by decide)
  · obtain rfl := Option.some.inj h
    exact Keeps.refl _

theorem dropZeros?_eq_some (h : dropZeros? last cs = some r) (hlast : IsNought last) :
    ∃ noughts, (∀ c ∈ noughts, IsNought c) ∧ last :: cs = noughts ++ r := by
  induction cs generalizing last with
  | nil =>
    obtain rfl := Option.some.inj h
    exact ⟨[], List.forall_mem_nil _, rfl⟩
  | cons c cs ih =>
    rw [dropZeros?] at h
    split at h
    · rename_i hc
      obtain ⟨noughts, hnoughts, heq⟩ := ih h hc
      exact ⟨last :: noughts, List.forall_mem_cons.mpr ⟨hlast, hnoughts⟩,
        congrArg (last :: ·) heq⟩
    · split at h
      · obtain rfl := Option.some.inj h
        exact ⟨[last], List.forall_mem_singleton.mpr hlast, rfl⟩
      · split at h
        · obtain rfl := Option.some.inj h
          exact ⟨[], List.forall_mem_nil _, rfl⟩
        · contradiction

/-- All that is dropped are zeros and separators in front. -/
theorem dropLeadingZeros?_eq_some (h : dropLeadingZeros? cs = some r) :
    ∃ noughts, (∀ c ∈ noughts, IsNought c) ∧ cs = noughts ++ r := by
  rw [dropLeadingZeros?.eq_def] at h
  split at h
  · exact dropZeros?_eq_some h (.inl rfl)
  · split at h
    · obtain rfl := Option.some.inj h
      exact ⟨[], List.forall_mem_nil _, rfl⟩
    · contradiction
  · contradiction

theorem keeps_dropLeadingZeros? (h : dropLeadingZeros? cs = some r) : Keeps cs r := by
  obtain ⟨noughts, hnoughts, rfl⟩ := dropLeadingZeros?_eq_some h
  intro c hc
  rcases List.mem_append.mp hc with hnought | hmem
  · right
    rcases hnoughts c hnought with rfl | rfl <;> decide
  · exact .inl hmem

theorem keeps_dropSignedZeros? (h : dropSignedZeros? cs = some r) : Keeps cs r := by
  obtain ⟨signed, hsigned, hr⟩ := Option.bind_eq_some_iff.mp h
  refine (keeps_dropLeadingZeros? hsigned).trans ?_
  split at hr
  · obtain ⟨rest, hrest, hr⟩ := Option.bind_eq_some_iff.mp hr
    obtain rfl := Option.some.inj hr
    exact (keeps_dropLeadingZeros? hrest).cons_cons '-'
  · obtain rfl := Option.some.inj hr
    exact Keeps.refl _

theorem keeps_dropFraction (cs : List Char) : Keeps cs (dropFraction cs) := by
  rw [dropFraction]
  split
  · rename_i point places hplaces
    split
    · rename_i hzeros
      have hpoint : point = '.' := by
        have hhead := List.head?_dropWhile_not (· ≠ '.') cs
        rw [hplaces] at hhead
        simpa using hhead
      intro c hc
      rw [← List.takeWhile_append_dropWhile (p := (· ≠ '.')) (l := cs), hplaces] at hc
      rcases List.mem_append.mp hc with hbefore | hafter
      · exact .inl hbefore
      · right
        rcases List.mem_cons.mp hafter with rfl | hzero
        · rw [hpoint]
          decide
        · have hc0 : c = '0' := by
            rcases List.mem_cons.mp hzero with hfirst | hmem
            · exact hfirst
            · simpa using List.all_eq_true.mp hzeros c hmem
          rw [hc0]
          decide
    · exact Keeps.refl cs
  · exact Keeps.refl cs

theorem keeps_dropSeparators (cs : List Char) : Keeps cs (dropSeparators cs) := by
  rw [dropSeparators]
  split
  · exact Keeps.refl cs
  · intro c hc
    by_cases hsep : c = '_'
    · rw [hsep]
      exact .inr (by decide)
    · exact .inl (List.mem_filter.mpr ⟨hc, by simpa using hsep⟩)

/-! ## Digits and separators -/

theorem dropLeadingZeros?_places (h : dropLeadingZeros? cs = some r)
    (hcs : ∀ c ∈ cs, IsPlace c) : (∀ c ∈ r, IsPlace c) ∧ spelled r = spelled cs := by
  obtain ⟨noughts, hnoughts, rfl⟩ := dropLeadingZeros?_eq_some h
  exact ⟨fun c hc => hcs c (List.mem_append_right noughts hc),
    (spelled_append_of_noughts hnoughts r).symm⟩

theorem dropFraction_eq_self (h : ∀ c ∈ cs, c ≠ '.') : dropFraction cs = cs := by
  have hnone : cs.dropWhile (· ≠ '.') = [] := by
    rw [List.dropWhile_eq_nil_iff]
    intro c hc
    simpa using h c hc
  rw [dropFraction, hnone]

theorem dropSeparators_places (hcs : ∀ c ∈ cs, IsPlace c) :
    (∀ c ∈ dropSeparators cs, IsPlace c) ∧ spelled (dropSeparators cs) = spelled cs := by
  rw [dropSeparators]
  split
  · exact ⟨hcs, rfl⟩
  · exact ⟨fun c hc => hcs c (List.mem_filter.mp hc).1, spelled_filter cs⟩

theorem foldl_digits (cs : List Char) (h : ∀ c ∈ cs, '0' ≤ c ∧ c ≤ '9') (n : Nat) :
    cs.foldl (fun (n : Int) c => 10 * n + (c.toNat - 48)) n =
      ((cs.map fun c => c.toNat - 48).foldl (10 * · + ·) n : Nat) := by
  induction cs generalizing n with
  | nil => rfl
  | cons c cs ih =>
    obtain ⟨hc, hrest⟩ := List.forall_mem_cons.mp h
    have hge : 48 ≤ c.toNat := hc.1
    rw [List.foldl_cons, List.map_cons, List.foldl_cons, ← ih hrest]
    congr 1
    omega

theorem unsignedNumeral_eq_value {negative : Bool} {n : Int}
    (h : unsignedNumeral negative cs = .value n) :
    (∀ c ∈ cs, '0' ≤ c ∧ c ≤ '9') ∧ n = if negative then -(spelled cs : Int) else spelled cs := by
  rw [unsignedNumeral] at h
  split at h
  · contradiction
  · split at h
    · contradiction
    · split at h
      · contradiction
      · rename_i hall
        have hdigits : ∀ c ∈ cs, '0' ≤ c ∧ c ≤ '9' := by
          have hboth : ¬cs = [] ∧ ∀ c ∈ cs, '0' ≤ c ∧ c ≤ '9' := by simpa using hall
          exact hboth.2
        have hplain : cs.filter (· ≠ '_') = cs := by
          rw [List.filter_eq_self]
          intro c hc
          have hne : c ≠ '_' := by
            rintro rfl
            exact absurd (hdigits _ hc) (by decide)
          simpa using hne
        have hvalue := foldl_digits cs hdigits 0
        have hspelled : spelled cs = (cs.map fun c => c.toNat - 48).foldl (10 * · + ·) 0 := by
          rw [spelled, hplain]
          rfl
        rw [← hspelled] at hvalue
        refine ⟨hdigits, ?_⟩
        rw [← hvalue]
        exact (Numeral.value.inj h).symm

/-! ## Both readings -/

variable {n k : Int} {p : List Char}

/-- What the components read is a sign, or none, before digits and separators. -/
theorem signedNumeral?_eq_some (h : signedNumeral? cs = some k) :
    ∃ ds, (∀ c ∈ ds, IsPlace c) ∧ (cs = '-' :: ds ∧ k = -(spelled ds : Int) ∨
      (cs = ds ∨ cs = '+' :: ds) ∧ k = spelled ds) := by
  rw [signedNumeral?.eq_def] at h
  split at h
  · rename_i ds
    obtain ⟨m, hm, rfl⟩ := Option.map_eq_some_iff.mp h
    obtain ⟨m', hm', hcast⟩ := Option.bind_eq_some_iff.mp hm
    obtain rfl := Option.some.inj hcast
    obtain ⟨hplaces, rfl⟩ := numeral?_eq_some hm'
    exact ⟨ds, hplaces, .inl ⟨rfl, rfl⟩⟩
  · rename_i ds
    obtain ⟨m, hm, rfl⟩ := Option.map_eq_some_iff.mp h
    obtain ⟨hplaces, rfl⟩ := numeral?_eq_some hm
    exact ⟨ds, hplaces, .inr ⟨.inr rfl, rfl⟩⟩
  · obtain ⟨m, hm, rfl⟩ := Option.map_eq_some_iff.mp h
    obtain ⟨hplaces, rfl⟩ := numeral?_eq_some hm
    exact ⟨cs, hplaces, .inr ⟨.inl rfl, rfl⟩⟩

theorem ne_cons_of_places (hcs : ∀ c ∈ cs, IsPlace c) {sign : Char} (hsign : ¬IsPlace sign)
    (rest : List Char) : cs ≠ sign :: rest := by
  rintro rfl
  exact hsign (hcs sign List.mem_cons_self)

theorem not_isPlace_minus : ¬IsPlace '-' := fun h => h.ne.1 rfl

theorem not_isPlace_plus : ¬IsPlace '+' := fun h => h.ne.2.1 rfl

theorem dropPlus?_places (hcs : ∀ c ∈ cs, IsPlace c) : dropPlus? cs = some cs := by
  rw [dropPlus?.eq_def]
  split
  · exact absurd rfl (ne_cons_of_places hcs not_isPlace_plus _)
  · exact absurd rfl (ne_cons_of_places hcs not_isPlace_plus _)
  · rfl

theorem dropPlus?_plus_places (hcs : ∀ c ∈ cs, IsPlace c) : dropPlus? ('+' :: cs) = some cs := by
  rw [dropPlus?.eq_def]
  split
  · rename_i rest heq
    exact absurd (List.cons.inj heq).2 (ne_cons_of_places hcs not_isPlace_minus rest)
  · rename_i heq
    rw [(List.cons.inj heq).2]
  · rename_i hplus
    exact absurd rfl (hplus cs)

theorem plainNumeral_places (hcs : ∀ c ∈ cs, IsPlace c) :
    plainNumeral cs = unsignedNumeral false cs := by
  rw [plainNumeral.eq_def]
  split
  · exact absurd rfl (ne_cons_of_places hcs not_isPlace_minus _)
  · rfl

theorem dropSignedZeros?_places (hcs : ∀ c ∈ cs, IsPlace c) (h : dropSignedZeros? cs = some r) :
    (∀ c ∈ r, IsPlace c) ∧ spelled r = spelled cs := by
  obtain ⟨signed, hsigned, hr⟩ := Option.bind_eq_some_iff.mp h
  have hsignedPlaces := dropLeadingZeros?_places hsigned hcs
  split at hr
  · exact absurd rfl (ne_cons_of_places hsignedPlaces.1 not_isPlace_minus _)
  · obtain rfl := Option.some.inj hr
    exact hsignedPlaces

/-- What the schema drops of digits and separators has no value. -/
theorem eq_spelled_of_places (hcs : ∀ c ∈ cs, IsPlace c) (hr : dropSignedZeros? cs = some r)
    (hn : plainNumeral (dropSeparators (dropFraction r)) = .value n) : n = spelled cs := by
  obtain ⟨hplaces, hspelled⟩ := dropSignedZeros?_places hcs hr
  obtain ⟨hdropped, hsame⟩ := dropSeparators_places hplaces
  rw [dropFraction_eq_self fun c hc => (hplaces c hc).ne.2.2, plainNumeral_places hdropped] at hn
  obtain ⟨-, hvalue⟩ := unsignedNumeral_eq_value hn
  rw [hvalue, hsame, hspelled]
  rfl

/-- Nor has what it drops behind a minus sign. -/
theorem eq_neg_spelled_of_places (hcs : ∀ c ∈ cs, IsPlace c)
    (hr : dropSignedZeros? ('-' :: cs) = some r)
    (hn : plainNumeral (dropSeparators (dropFraction r)) = .value n) :
    n = -(spelled cs : Int) := by
  obtain ⟨rest, hrest, hr⟩ := Option.bind_eq_some_iff.mp
    (show (dropLeadingZeros? cs).bind (fun rest => some ('-' :: rest)) = some r from hr)
  obtain rfl := Option.some.inj hr
  obtain ⟨hplaces, hspelled⟩ := dropLeadingZeros?_places hrest hcs
  have hpoint : ∀ c ∈ '-' :: rest, c ≠ '.' :=
    List.forall_mem_cons.mpr ⟨by decide, fun c hc => (hplaces c hc).ne.2.2⟩
  rw [dropFraction_eq_self hpoint, dropSeparators] at hn
  split at hn
  · have hunsigned : unsignedNumeral true rest = .value n := hn
    obtain ⟨-, hvalue⟩ := unsignedNumeral_eq_value hunsigned
    rw [hvalue, hspelled]
    rfl
  · rw [List.filter_cons_of_pos (by decide)] at hn
    have hunsigned : unsignedNumeral true (rest.filter (· ≠ '_')) = .value n := hn
    obtain ⟨-, hvalue⟩ := unsignedNumeral_eq_value hunsigned
    rw [hvalue, spelled_filter, hspelled]
    rfl

/-- A text that both read, without margins. -/
theorem signedNumeral?_of_trimmed {plus zeros : List Char} (hplus : dropPlus? cs = some plus)
    (hzeros : dropSignedZeros? plus = some zeros)
    (hn : plainNumeral (dropSeparators (dropFraction zeros)) = .value n)
    (hk : signedNumeral? cs = some k) : k = n := by
  obtain ⟨ds, hds, ⟨rfl, rfl⟩ | ⟨rfl | rfl, rfl⟩⟩ := signedNumeral?_eq_some hk
  · obtain rfl := Option.some.inj hplus
    exact (eq_neg_spelled_of_places hds hzeros hn).symm
  · rw [dropPlus?_places hds] at hplus
    obtain rfl := Option.some.inj hplus
    exact (eq_spelled_of_places hds hzeros hn).symm
  · rw [dropPlus?_plus_places hds] at hplus
    obtain rfl := Option.some.inj hplus
    exact (eq_spelled_of_places hds hzeros hn).symm

/-- A text that the schema reads as it stands. -/
theorem signedNumeral?_of_plainNumeral (hn : plainNumeral cs = .value n)
    (hk : signedNumeral? cs = some k) : k = n := by
  obtain ⟨ds, hds, ⟨rfl, rfl⟩ | ⟨rfl | rfl, rfl⟩⟩ := signedNumeral?_eq_some hk
  · have hunsigned : unsignedNumeral true ds = .value n := hn
    exact (unsignedNumeral_eq_value hunsigned).2.symm
  · rw [plainNumeral_places hds] at hn
    exact (unsignedNumeral_eq_value hn).2.symm
  · have hunsigned : unsignedNumeral false ('+' :: ds) = .value n := hn
    have hplus := (unsignedNumeral_eq_value hunsigned).1 '+' List.mem_cons_self
    exact absurd hplus (by decide)

theorem mem_of_plainNumeral (hn : plainNumeral cs = .value n) :
    ∀ c ∈ cs, ('0' ≤ c ∧ c ≤ '9') ∨ c = '-' := by
  rw [plainNumeral.eq_def] at hn
  split at hn
  · refine List.forall_mem_cons.mpr ⟨.inr rfl, ?_⟩
    intro c hc
    exact .inl ((unsignedNumeral_eq_value hn).1 c hc)
  · intro c hc
    exact .inl ((unsignedNumeral_eq_value hn).1 c hc)

/-- Blanks and digits of other scripts apart, the components read the characters that the schema
reads, and skip the same margins. -/
theorem integer?_eq (s : String) : ∃ f : Char → Char, (∀ c, c.toNat < 127 → f c = c) ∧
    integer? s =
      signedNumeral? ((dropTailWhile isMargin (s.toList.dropWhile isMargin)).map f) := by
  have htrim {f : Char → Char} (hf : ∀ c, isAsciiBlank (f c) = isMargin c) :
      dropTailWhile isAsciiBlank ((s.toList.map f).dropWhile isAsciiBlank) =
        (dropTailWhile isMargin (s.toList.dropWhile isMargin)).map f := by
    have hcomp : isAsciiBlank ∘ f = isMargin := funext hf
    rw [List.dropWhile_map, dropTailWhile_map, hcomp]
  rw [integer?]
  split
  · rename_i hascii
    -- An ASCII text is read as it stands. This function leaves it so too, and unlike the identity
    -- it skips the same margins whatever the character.
    have hf (c : Char) :
        isAsciiBlank (if c.toNat < 128 then c else asciiNumeral c) = isMargin c := by
      rw [← isAsciiBlank_asciiNumeral]
      split
      · by_cases hlt : c.toNat < 127
        · rw [asciiNumeral, if_pos hlt]
        · obtain rfl : c = Char.ofNat 127 := by
            rw [← Char.ofNat_toNat c, show c.toNat = 127 by omega]
          decide
      · rfl
    have hself : (s.toList.map fun c => if c.toNat < 128 then c else asciiNumeral c) = s.toList :=
      map_eq_self fun c hc => if_pos (of_decide_eq_true (List.all_eq_true.mp hascii c hc))
    refine ⟨fun c => if c.toNat < 128 then c else asciiNumeral c, ?_, ?_⟩
    · intro c hc
      exact if_pos (by omega)
    · rw [← htrim hf, hself]
  · refine ⟨asciiNumeral, ?_, ?_⟩
    · intro c hc
      rw [asciiNumeral, if_pos hc]
    · rw [htrim isAsciiBlank_asciiNumeral]

theorem lt_of_mem_plainNumeral (hn : plainNumeral cs = .value n) :
    ∀ c ∈ cs, c.toNat < 127 ∧ isMargin c = false := by
  intro c hc
  have hrange : 45 ≤ c.toNat ∧ c.toNat ≤ 57 := by
    rcases mem_of_plainNumeral hn c hc with ⟨h0, h9⟩ | rfl
    · have hge : 48 ≤ c.toNat := h0
      have hle : c.toNat ≤ 57 := h9
      omega
    · decide
  refine ⟨by omega, ?_⟩
  rw [← isAsciiBlank_asciiNumeral, asciiNumeral, if_pos (by omega), isAsciiBlank]
  simp only [Bool.or_eq_false_iff, Bool.and_eq_false_iff, decide_eq_false_iff_not,
    beq_eq_false_iff_ne]
  omega

/-- Where both read a text, they read the same number. -/
theorem integer?_of_numeral {s : String} (hn : numeral s = .ok n) (hk : integer? s = some k) :
    k = n := by
  obtain ⟨f, hf, heq⟩ := integer?_eq s
  rw [heq] at hk
  rw [numeral] at hn
  split at hn
  · rename_i m hplain
    obtain rfl := Except.ok.inj hn
    have hmem := lt_of_mem_plainNumeral hplain
    rw [trim_eq_self fun c hc => (hmem c hc).2, map_eq_self fun c hc => hf c (hmem c hc).1] at hk
    exact signedNumeral?_of_plainNumeral hplain hk
  · contradiction
  · split at hn
    · rename_i m hplain
      obtain rfl := Except.ok.inj hn
      obtain ⟨p, hp, hvalue⟩ := Option.map_eq_some_iff.mp hplain
      obtain ⟨plus, hplus, hp⟩ := Option.bind_eq_some_iff.mp hp
      obtain ⟨zeros, hzeros, hp⟩ := Option.bind_eq_some_iff.mp hp
      obtain rfl := Option.some.inj hp
      have hkeeps := (keeps_dropPlus? hplus).trans <| (keeps_dropSignedZeros? hzeros).trans <|
        (keeps_dropFraction zeros).trans (keeps_dropSeparators _)
      have hascii : ∀ c ∈ dropTailWhile isMargin (s.toList.dropWhile isMargin), f c = c := by
        intro c hc
        rcases hkeeps c hc with hmem | hlt
        · exact hf c (lt_of_mem_plainNumeral hvalue c hmem).1
        · exact hf c hlt
      rw [map_eq_self hascii] at hk
      exact signedNumeral?_of_trimmed hplus hzeros hvalue hk
    · contradiction
    · contradiction

end Config.Reading

end AisStation
