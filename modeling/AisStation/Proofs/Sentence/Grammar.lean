import AisStation.Proofs.Acceptance
import AisStation.Proofs.Framing

/-!
# The grammar of sentences

What a sentence is, told by how it is written: an exclamation mark, seven fields between commas, an
asterisk, and two hexadecimal digits of either case that spell the exclusive or of the characters
between the two marks. Parsing finds a sentence exactly where one is written, and reports an error
everywhere else; what it finds never declares more bits than its payload has, nor less than none.
-/

namespace AisStation

namespace Sentence

/-! ## Pieces -/

theorem splitAt_eq_splitOn (mark : Char) (cs : List Char) : splitAt mark cs = cs.splitOn mark := by
  induction cs with
  | nil => rfl
  | cons c cs ih =>
    rw [splitAt, List.splitOn_cons_eq_if_modifyHead, ih]
    by_cases hc : c = mark
    · rw [if_pos hc, if_pos (beq_iff_eq.mpr hc)]
    · rw [if_neg hc, if_neg (by simpa using hc)]
      cases hpieces : cs.splitOn mark with
      | nil => exact absurd hpieces (List.splitOn_ne_nil mark cs)
      | cons piece pieces => rfl

theorem not_mem_of_mem_splitAt {mark : Char} {cs piece : List Char} (h : piece ∈ splitAt mark cs) :
    mark ∉ piece := by
  induction cs generalizing piece with
  | nil =>
    rw [List.mem_singleton.mp h]
    exact List.not_mem_nil
  | cons c cs ih =>
    rw [splitAt] at h
    split at h
    · rcases List.mem_cons.mp h with rfl | h
      · exact List.not_mem_nil
      · exact ih h
    · rename_i hc
      split at h
      · rw [List.mem_singleton.mp h]
        simpa using Ne.symm hc
      · rename_i first pieces hpieces
        rw [hpieces] at ih
        rcases List.mem_cons.mp h with rfl | h
        · exact List.not_mem_cons_of_ne_of_not_mem (Ne.symm hc) (ih List.mem_cons_self)
        · exact ih (List.mem_cons_of_mem _ h)

/-- The pieces of a text are those that it is joined from, none of which holds the mark. -/
theorem splitAt_eq_iff {mark : Char} {cs : List Char} {pieces : List (List Char)}
    (hne : pieces ≠ []) :
    splitAt mark cs = pieces ↔ cs = [mark].intercalate pieces ∧ ∀ piece ∈ pieces, mark ∉ piece := by
  constructor
  · rintro rfl
    refine ⟨?_, fun piece => not_mem_of_mem_splitAt⟩
    rw [splitAt_eq_splitOn, List.intercalate_splitOn]
  · rintro ⟨rfl, hpieces⟩
    rw [splitAt_eq_splitOn, List.splitOn_intercalate mark hpieces hne]

/-! ## Hexadecimal digits -/

/-- The value of a hexadecimal digit of either case. -/
def hexValue? (c : Char) : Option Nat :=
  if '0' ≤ c ∧ c ≤ '9' then some (c.toNat - 48)
  else if 'A' ≤ c ∧ c ≤ 'F' then some (c.toNat - 55)
  else if 'a' ≤ c ∧ c ≤ 'f' then some (c.toNat - 87)
  else none

/-- The number that two hexadecimal digits spell. -/
def hexPair? (high low : Char) : Option Nat := do
  let high ← hexValue? high
  let low ← hexValue? low
  return 16 * high + low

/-- The hexadecimal digits of both cases. -/
def hexDigits : List Char :=
  "0123456789ABCDEFabcdef".toList

/-- The upper-case digit of a value below sixteen. -/
def upperDigit (value : Nat) : Char :=
  if value < 10 then Char.ofNat (48 + value) else Char.ofNat (55 + value)

theorem isHexDigit_iff {c : Char} : isHexDigit c = true ↔ c ∈ hexDigits := by
  constructor
  · intro h
    have hbounds : 48 ≤ c.toNat ∧ c.toNat ≤ 57 ∨ 65 ≤ c.toNat ∧ c.toNat ≤ 70 ∨
        97 ≤ c.toNat ∧ c.toNat ≤ 102 := by
      simpa [isHexDigit, Char.le_def, UInt32.le_iff_toNat_le, or_assoc] using h
    have hall : ∀ n < 103, 48 ≤ n ∧ n ≤ 57 ∨ 65 ≤ n ∧ n ≤ 70 ∨ 97 ≤ n ∧ n ≤ 102 →
        Char.ofNat n ∈ hexDigits := by decide
    rw [← Char.ofNat_toNat c]
    exact hall c.toNat (by omega) hbounds
  · intro h
    have hall : ∀ c ∈ hexDigits, isHexDigit c = true := by decide
    exact hall c h

theorem isSome_hexValue? (c : Char) : (hexValue? c).isSome = isHexDigit c := by
  rw [hexValue?, isHexDigit]
  split
  · rename_i h
    simp [h]
  · rename_i hdigit
    split
    · rename_i h
      simp [h]
    · rename_i hupper
      split
      · rename_i h
        simp [h]
      · rename_i hlower
        simp_all

/-- A hexadecimal digit is its value's upper-case digit, but for its case. -/
theorem hexValue?_spec {c : Char} (h : isHexDigit c = true) :
    ∃ value, hexValue? c = some value ∧ value < 16 ∧ c.toUpper = upperDigit value := by
  have hall : ∀ c ∈ hexDigits,
      ((hexValue? c).any fun value => value < 16 ∧ c.toUpper = upperDigit value) = true := by decide
  obtain ⟨value, hvalue, hspec⟩ := (Option.any_eq_true _ _).mp (hall c (isHexDigit_iff.mp h))
  exact ⟨value, hvalue, by simpa using hspec⟩

theorem upperDigit_injective : ∀ v < 16, ∀ w < 16, upperDigit v = upperDigit w → v = w := by
  decide

theorem checksumText_eq :
    ∀ n < 128, checksumText n = [upperDigit (n / 16), upperDigit (n % 16)] := by
  decide

/-- Two digits are, case ignored, the text of a checksum exactly if they spell its number. -/
theorem map_toUpper_eq_iff {high low : Char} (hhigh : isHexDigit high = true)
    (hlow : isHexDigit low = true) {n : Nat} (hn : n < 128) :
    [high, low].map Char.toUpper = checksumText n ↔ hexPair? high low = some n := by
  obtain ⟨v, hv, hv16, hvUpper⟩ := hexValue?_spec hhigh
  obtain ⟨w, hw, hw16, hwUpper⟩ := hexValue?_spec hlow
  have hpair : hexPair? high low = some (16 * v + w) := by
    rw [hexPair?, hv, hw]
    rfl
  rw [hpair, checksumText_eq n hn, List.map_cons, List.map_singleton, hvUpper, hwUpper]
  constructor
  · intro h
    obtain ⟨hdiv, hrest⟩ := List.cons.inj h
    have hv' := upperDigit_injective v hv16 (n / 16) (by omega) hdiv
    have hw' := upperDigit_injective w hw16 (n % 16) (by omega) (List.singleton_inj.mp hrest)
    exact congrArg some (by omega)
  · intro h
    have hsum := Option.some.inj h
    rw [show v = n / 16 by omega, show w = n % 16 by omega]

theorem isHexDigit_of_hexPair? {high low : Char} {n : Nat} (h : hexPair? high low = some n) :
    isHexDigit high = true ∧ isHexDigit low = true := by
  obtain ⟨v, hv, hrest⟩ := Option.bind_eq_some_iff.mp h
  obtain ⟨w, hw, -⟩ := Option.bind_eq_some_iff.mp hrest
  rw [← isSome_hexValue?, ← isSome_hexValue?, hv, hw]
  exact ⟨rfl, rfl⟩

/-- What follows the asterisk is accepted exactly if it is two digits that spell the checksum. -/
theorem checkChecksum_eq_ok_iff {body given : List Char} (hascii : ∀ c ∈ body, c.toNat < 128) :
    checkChecksum body given = .ok () ↔
      ∃ high low, given = [high, low] ∧ hexPair? high low = some (checksum body) := by
  rw [checkChecksum]
  constructor
  · intro h
    split at h
    · contradiction
    · rename_i hdigits
      obtain ⟨hlen, hhex⟩ := not_not.mp hdigits
      obtain ⟨high, low, rfl⟩ := List.length_eq_two.mp hlen
      obtain ⟨hhigh, hrest⟩ := List.forall_mem_cons.mp (List.all_eq_true.mp hhex)
      have hlow := hrest low List.mem_cons_self
      simp only at h
      split at h
      · contradiction
      · rename_i hequal
        exact ⟨high, low, rfl,
          (map_toUpper_eq_iff hhigh hlow (checksum_lt hascii)).mp (not_not.mp hequal)⟩
  · rintro ⟨high, low, rfl, hpair⟩
    obtain ⟨hhigh, hlow⟩ := isHexDigit_of_hexPair? hpair
    have hdigits : [high, low].length = 2 ∧ [high, low].all isHexDigit = true := by
      simp [hhigh, hlow]
    rw [if_neg (not_not.mpr hdigits)]
    exact if_neg (not_not.mpr ((map_toUpper_eq_iff hhigh hlow (checksum_lt hascii)).mpr hpair))

/-! ## Frames -/

/-- The text frames the body: an exclamation mark stands before it, an asterisk and two digits that
spell its checksum stand behind it. A body is ASCII and holds no asterisk. -/
structure Frames (text body : List Char) (high low : Char) : Prop where
  text_eq : text = '!' :: (body ++ ['*', high, low])
  isAscii : ∀ c ∈ body, c.toNat < 128
  unmarked : '*' ∉ body
  spells : hexPair? high low = some (checksum body)

theorem Frames.isAscii_text {text body : List Char} {high low : Char}
    (h : Frames text body high low) :
    Text.isAscii ('!' :: (body ++ ['*', high, low])) = true := by
  obtain ⟨hhigh, hlow⟩ := isHexDigit_of_hexPair? h.spells
  have hdigits : ∀ c ∈ hexDigits, c.toNat < 128 := by decide
  have hhigh := hdigits high (isHexDigit_iff.mp hhigh)
  have hlow := hdigits low (isHexDigit_iff.mp hlow)
  rw [Text.isAscii, List.all_cons, List.all_append]
  simp only [Bool.and_eq_true, decide_eq_true_eq, List.all_eq_true, List.forall_mem_cons]
  exact ⟨by decide, h.isAscii, by decide, hhigh, hlow, by simp⟩

/-- What is parsed is a framed body whose pieces are the fields of a sentence. -/
theorem parseTrimmed_eq_ok_iff {text : List Char} {s : Sentence} :
    parseTrimmed text = .ok s ↔
      ∃ body high low, Frames text body high low ∧ ofFields text (splitAt ',' body) = .ok s := by
  constructor
  · intro h
    rw [parseTrimmed.eq_def] at h
    split at h
    · rename_i rest
      split at h
      · contradiction
      · rename_i hascii
        have hall : Text.isAscii ('!' :: rest) = true := by simpa using hascii
        have hchars := List.all_eq_true.mp hall
        have hrest := List.takeWhile_append_dropWhile (p := (· ≠ '*')) (l := rest)
        have hbody : ∀ c ∈ rest.takeWhile (· ≠ '*'), c.toNat < 128 := by
          intro c hc
          have hc := hchars c (List.mem_cons_of_mem _ ((List.takeWhile_prefix _).subset hc))
          simpa using hc
        have hstar : '*' ∉ rest.takeWhile (· ≠ '*') := by
          intro hc
          simpa using List.mem_takeWhile_imp hc
        simp only at h
        split at h
        · contradiction
        · rename_i mark given hdrop
          obtain ⟨⟨⟩, hgiven, hfields⟩ := bind_eq_ok_iff.mp h
          obtain ⟨high, low, rfl, hspells⟩ := (checkChecksum_eq_ok_iff hbody).mp hgiven
          have hmark : mark = '*' := by
            have hhead := List.head?_dropWhile_not (· ≠ '*') rest
            rw [hdrop] at hhead
            simpa using hhead
          rw [hdrop, hmark] at hrest
          exact ⟨_, high, low, ⟨congrArg _ hrest.symm, hbody, hstar, hspells⟩, hfields⟩
    · contradiction
  · rintro ⟨body, high, low, hframes, hfields⟩
    rw [hframes.text_eq] at hfields ⊢
    rw [parseTrimmed_append hframes.unmarked hframes.isAscii_text,
      (checkChecksum_eq_ok_iff hframes.isAscii).mpr ⟨high, low, rfl, hframes.spells⟩]
    exact hfields

/-! ## Fields -/

/-- The texts of the seven fields of a sentence. -/
structure FieldTexts where
  address : List Char
  count : List Char
  number : List Char
  sequence : List Char
  channel : List Char
  payload : List Char
  fill : List Char

namespace FieldTexts

/-- The fields in their order. -/
def toList (f : FieldTexts) : List (List Char) :=
  [f.address, f.count, f.number, f.sequence, f.channel, f.payload, f.fill]

/-- The fields with commas between them. -/
def body (f : FieldTexts) : List Char :=
  [','].intercalate f.toList

end FieldTexts

/-- The text is that of an integer, or empty if there is none. -/
def WritesOptional (cs : List Char) : Option Int → Prop
  | none => cs = []
  | some n => cs ≠ [] ∧ Text.integer? (String.ofList cs) = some n

/-- The fields write a sentence: the address is its talker of two characters and its kind, the
numbers are integers, of which the third and the last may be left out, and the fragment and the fill
bits are in range. -/
structure FieldTexts.Write (f : FieldTexts) (s : Sentence) : Prop where
  address : f.address = s.talker.toList ++ s.kind.text
  talker_length : s.talker.length = 2
  count : Text.integer? (String.ofList f.count) = some s.fragmentCount
  number : Text.integer? (String.ofList f.number) = some s.fragmentNumber
  sequence : WritesOptional f.sequence s.sequenceId
  channel : f.channel = s.channel.toList
  payload : f.payload = s.payload.toList
  fill : ∃ n?, WritesOptional f.fill n? ∧ s.fillBits = n?.getD 0
  fragment : 1 ≤ s.fragmentNumber ∧ s.fragmentNumber ≤ s.fragmentCount
  fillBits : 0 ≤ s.fillBits ∧ s.fillBits ≤ 5
  filled : s.fillBits ≠ 0 → s.payload ≠ ""

theorem optionalInteger?_eq_some_iff {cs : List Char} {n? : Option Int} :
    optionalInteger? cs = some n? ↔ WritesOptional cs n? := by
  rw [optionalInteger?]
  cases cs with
  | nil => cases n? <;> simp [WritesOptional]
  | cons c cs => cases n? <;> simp [WritesOptional]

theorem ofText?_eq_some_iff {cs : List Char} {kind : SentenceKind} :
    SentenceKind.ofText? cs = some kind ↔ cs = kind.text := by
  rw [SentenceKind.ofText?]
  constructor
  · intro h
    split at h
    · rename_i hcs
      rwa [← Option.some.inj h]
    · split at h
      · rename_i hcs
        rwa [← Option.some.inj h]
      · contradiction
  · rintro rfl
    cases kind <;> rfl

theorem address?_eq_some_iff {address talker : List Char} {kind : SentenceKind} :
    address? address = some (talker, kind) ↔ address = talker ++ kind.text ∧ talker.length = 2 := by
  constructor
  · intro h
    rw [address?.eq_def] at h
    split at h
    · rename_i a b c d e
      obtain ⟨kind', hkind, heq⟩ := Option.map_eq_some_iff.mp h
      obtain ⟨rfl, rfl⟩ := Prod.mk.inj heq
      rw [← ofText?_eq_some_iff.mp hkind]
      exact ⟨rfl, rfl⟩
    · contradiction
  · rintro ⟨rfl, hlen⟩
    obtain ⟨a, b, rfl⟩ := List.length_eq_two.mp hlen
    cases kind <;> rfl

theorem numericFields?_eq_some_iff {count number sequence fill : List Char} {c n f : Int}
    {q : Option Int} :
    numericFields? count number sequence fill = some (c, n, q, f) ↔
      Text.integer? (String.ofList count) = some c ∧ Text.integer? (String.ofList number) = some n ∧
        WritesOptional sequence q ∧ ∃ n?, WritesOptional fill n? ∧ f = n?.getD 0 := by
  simp only [numericFields?, Option.bind_eq_bind, Option.bind_eq_some_iff, Option.pure_def,
    Option.some.injEq, Prod.mk.injEq, ← optionalInteger?_eq_some_iff]
  constructor
  · rintro ⟨c, hc, n, hn, q, hq, n?, hfill, rfl, rfl, rfl, rfl⟩
    exact ⟨hc, hn, hq, n?, hfill, rfl⟩
  · rintro ⟨hc, hn, hq, n?, hfill, rfl⟩
    exact ⟨c, hc, n, hn, q, hq, n?, hfill, rfl, rfl, rfl, rfl⟩

/-- Seven fields give a sentence exactly if they write it, whatever line an error would show. -/
theorem ofFields_eq_ok_iff {line : List Char} {fields : List (List Char)} {s : Sentence} :
    ofFields line fields = .ok s ↔ ∃ f : FieldTexts, fields = f.toList ∧ f.Write s := by
  constructor
  · intro h
    rw [ofFields.eq_def] at h
    split at h
    · rename_i address count number sequence channel payload fill
      split at h
      · contradiction
      · rename_i talker kind haddress
        split at h
        · contradiction
        · rename_i hnumeric
          obtain ⟨haddress, hlen⟩ := address?_eq_some_iff.mp haddress
          obtain ⟨hcount, hnumber, hsequence, hfill⟩ := numericFields?_eq_some_iff.mp hnumeric
          split at h
          · contradiction
          · rename_i hfragment
            split at h
            · contradiction
            · rename_i hbits
              split at h
              · contradiction
              · rename_i hfilled
                obtain rfl := Except.ok.inj h
                refine ⟨⟨address, count, number, sequence, channel, payload, fill⟩, rfl, ?_⟩
                exact {
                  address := by rw [String.toList_ofList]; exact haddress
                  talker_length := by rw [String.length_ofList]; exact hlen
                  count := hcount
                  number := hnumber
                  sequence := hsequence
                  channel := String.toList_ofList.symm
                  payload := String.toList_ofList.symm
                  fill := hfill
                  fragment := not_not.mp hfragment
                  fillBits := not_not.mp hbits
                  filled := by simpa using hfilled }
    · contradiction
  · rintro ⟨f, rfl, h⟩
    have haddress := address?_eq_some_iff.mpr ⟨h.address, h.talker_length⟩
    have hnumeric := numericFields?_eq_some_iff.mpr ⟨h.count, h.number, h.sequence, h.fill⟩
    have hfilled : ¬(s.fillBits ≠ 0 ∧ f.payload = []) := by
      rintro ⟨hbits, hempty⟩
      rw [h.payload, String.toList_eq_nil_iff] at hempty
      exact h.filled hbits hempty
    rw [FieldTexts.toList, ofFields]
    simp only [haddress, hnumeric]
    rw [if_neg (not_not.mpr h.fragment), if_neg (not_not.mpr h.fillBits), if_neg hfilled, h.channel,
      h.payload, String.ofList_toList, String.ofList_toList, String.ofList_toList]

/-! ## Sentences -/

/-- The text is a sentence in writing: it frames seven fields, none of which holds a comma. -/
def IsWritten (text : List Char) (s : Sentence) : Prop :=
  ∃ (f : FieldTexts) (high low : Char), Frames text f.body high low ∧
    (∀ field ∈ f.toList, ',' ∉ field) ∧ f.Write s

theorem parseTrimmed_eq_ok_iff_isWritten {text : List Char} {s : Sentence} :
    parseTrimmed text = .ok s ↔ IsWritten text s := by
  rw [parseTrimmed_eq_ok_iff]
  constructor
  · rintro ⟨body, high, low, hframes, hfields⟩
    obtain ⟨f, hf, hwrite⟩ := ofFields_eq_ok_iff.mp hfields
    obtain ⟨rfl, hcommas⟩ := (splitAt_eq_iff (List.cons_ne_nil _ _)).mp hf
    exact ⟨f, high, low, hframes, hcommas, hwrite⟩
  · rintro ⟨f, high, low, hframes, hcommas, hwrite⟩
    refine ⟨f.body, high, low, hframes, ofFields_eq_ok_iff.mpr ⟨f, ?_, hwrite⟩⟩
    exact (splitAt_eq_iff (List.cons_ne_nil _ _)).mpr ⟨rfl, hcommas⟩

theorem FieldTexts.Write.bitLength_mem {f : FieldTexts} {s : Sentence} (h : f.Write s) :
    0 ≤ s.bitLength ∧ s.bitLength ≤ 6 * s.payload.length := by
  have hfill := h.fillBits
  have hempty := h.filled
  rw [ne_eq, ne_eq, ← String.length_eq_zero_iff] at hempty
  rw [bitLength]
  omega

/-- A line is parsed as a sentence exactly if, without the blanks around it, it is that sentence in
writing; any other line is an error. The declared length of a sentence is never a reason to refuse
its payload: if that is armor, decoding it ends as the declared bits tell. -/
theorem parse_eq_ok_iff (line : String) :
    (∀ s, parse line = .ok s ↔ IsWritten (Text.trim line.toList) s) ∧
      ((∃ error, parse line = .error error) ↔ ∀ s, ¬IsWritten (Text.trim line.toList) s) ∧
        ∀ s, parse line = .ok s → 0 ≤ s.bitLength ∧ s.bitLength ≤ 6 * s.payload.length ∧
          ∀ bits, Armor.decode s.payload = .ok bits →
            (∃ reader, Reader.ofArmor s.payload (some s.bitLength) = .ok reader) ∧
              Outcome.of (decode s.payload (some s.bitLength)) =
                .ofBits (bits.take s.bitLength.toNat) := by
  have hparse (s : Sentence) : parse line = .ok s ↔ IsWritten (Text.trim line.toList) s :=
    parseTrimmed_eq_ok_iff_isWritten
  refine ⟨hparse, ?_, fun s hs => ?_⟩
  · simp only [← hparse]
    cases parse line with
    | error why => simp
    | ok s => simp
  · obtain ⟨f, high, low, -, -, hwrite⟩ := (hparse s).mp hs
    obtain ⟨hnonneg, hle⟩ := hwrite.bitLength_mem
    refine ⟨hnonneg, hle, fun bits hbits => ?_⟩
    have hlen := Armor.length_of_decode hbits
    have hdeclared : (some s.bitLength).getD bits.length = s.bitLength.toNat :=
      (Int.toNat_of_nonneg hnonneg).symm
    obtain ⟨reader, hreader, h0, -, hrest⟩ := Reader.ofArmor_ok hbits hdeclared (by omega)
    refine ⟨⟨reader, hreader⟩, ?_⟩
    rw [of_decode hreader h0, ofResult_message h0, hrest]

/-- Blanks around a sentence and a number, a sign and a checksum in lower case do not matter. -/
theorem parse_vdo_fragment :
    let s : Sentence := {
      talker := "AI", kind := .vdo, fragmentCount := 2, fragmentNumber := 1, sequenceId := none,
      channel := "B", payload := "ww", fillBits := 2 }
    parse "\t!AIVDO,+2, 1,,B,ww,2*2d\r\n" = .ok s ∧
      IsWritten (Text.trim "\t!AIVDO,+2, 1,,B,ww,2*2d\r\n".toList) s ∧
        0 ≤ s.bitLength ∧ s.bitLength ≤ 6 * s.payload.length := by
  intro s
  have h : parse "\t!AIVDO,+2, 1,,B,ww,2*2d\r\n" = .ok s := by rfl
  obtain ⟨hwritten, -, hlength⟩ := parse_eq_ok_iff "\t!AIVDO,+2, 1,,B,ww,2*2d\r\n"
  obtain ⟨hnonneg, hle, -⟩ := hlength s h
  exact ⟨h, (hwritten s).mp h, hnonneg, hle⟩

end Sentence

end AisStation
