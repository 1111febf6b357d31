import AisStation.Proofs.Alphabet
import AisStation.Sentence

/-!
# Sentences that were built

A sentence is parsed as it was built: the checksum of its body is that which stands behind the
asterisk, none of its fields holds a comma, and the two numbers and the fill bits are read as they
were written. Blanks around the sentence do not matter, since it neither starts nor ends with one.
-/

namespace AisStation

namespace Text

/-- Blanks around a text that neither starts nor ends with one are dropped. -/
theorem trim_append {before cs after : List Char} (hbefore : ∀ c ∈ before, isBlank c = true)
    (hafter : ∀ c ∈ after, isBlank c = true) (hhead : ∀ c, cs.head? = some c → isBlank c = false)
    (hlast : ∀ c, cs.getLast? = some c → isBlank c = false) (hne : cs ≠ []) :
    trim (before ++ cs ++ after) = cs := by
  obtain ⟨c, cs, rfl⟩ := List.exists_cons_of_ne_nil hne
  have hc : isBlank c = false := hhead c rfl
  rw [trim, List.append_assoc, List.dropWhile_append_of_pos hbefore, List.cons_append,
    List.dropWhile_cons_of_neg (by rw [hc]; decide), ← List.cons_append, trimRight,
    dropTailWhile_append_of_forall _ hafter, dropTailWhile_eq_self hlast]

/-- The numeral of a digit is read as that digit. -/
theorem integer?_digit : ∀ n : Nat, n < 10 → integer? (toString n) = some (n : Int) := by decide

end Text

namespace Sentence

/-! ## Splitting -/

/-- A text without the mark is a single piece. -/
theorem splitAt_of_not_mem {mark : Char} {cs : List Char} (h : mark ∉ cs) :
    splitAt mark cs = [cs] := by
  induction cs with
  | nil => rfl
  | cons c cs ih =>
    obtain ⟨hc, hcs⟩ := not_or.mp (mt List.mem_cons.mpr h)
    rw [splitAt, if_neg (Ne.symm hc), ih hcs]

/-- The first piece ends at the first mark. -/
theorem splitAt_append_mark {mark : Char} {cs : List Char} (h : mark ∉ cs) (rest : List Char) :
    splitAt mark (cs ++ mark :: rest) = cs :: splitAt mark rest := by
  induction cs with
  | nil => simp [splitAt]
  | cons c cs ih =>
    obtain ⟨hc, hcs⟩ := not_or.mp (mt List.mem_cons.mpr h)
    rw [List.cons_append, splitAt, if_neg (Ne.symm hc), ih hcs]

/-! ## Checksums -/

theorem checksum_lt {body : List Char} (h : ∀ c ∈ body, c.toNat < 128) : checksum body < 128 := by
  have hfold : ∀ sum < 2 ^ 7, body.foldl (fun sum c => sum ^^^ c.toNat) sum < 2 ^ 7 := by
    induction body with
    | nil => exact fun sum hsum => hsum
    | cons c body ih =>
      intro sum hsum
      have hc : c.toNat < 2 ^ 7 := h c List.mem_cons_self
      exact ih (fun d hd => h d (List.mem_cons_of_mem _ hd)) _ (Nat.xor_lt_two_pow hsum hc)
  exact hfold 0 (by decide)

/-- The text of a checksum is two upper-case hexadecimal digits. -/
theorem checksumText_spec : ∀ n < 128,
    (checksumText n).length = 2 ∧ (checksumText n).all isHexDigit = true ∧
      (checksumText n).map Char.toUpper = checksumText n := by
  decide

theorem checksumText_isAscii : ∀ n < 128, ∀ c ∈ checksumText n, c.toNat < 128 := by
  decide

theorem checksumText_last : ∀ n < 128, checksumText n ≠ [] ∧
    ((checksumText n).getLast?.all fun c => !Text.isBlank c) = true := by
  decide

/-- A body is followed by its checksum. -/
theorem checkChecksum_checksumText {body : List Char} (h : ∀ c ∈ body, c.toNat < 128) :
    checkChecksum body (checksumText (checksum body)) = .ok () := by
  obtain ⟨hlen, hhex, hupper⟩ := checksumText_spec _ (checksum_lt h)
  rw [checkChecksum, if_neg (not_not.mpr ⟨hlen, hhex⟩)]
  exact if_neg (not_not.mpr hupper)

/-! ## Built sentences -/

/-- A character that may stand in a field: ASCII, and neither a comma nor an asterisk. -/
def IsFieldChar (c : Char) : Prop :=
  c.toNat < 128 ∧ c ≠ ',' ∧ c ≠ '*'

instance (c : Char) : Decidable (IsFieldChar c) :=
  inferInstanceAs (Decidable (_ ∧ _))

theorem isFieldChar_of_mem_alphabet {c : Char} (h : c ∈ Armor.alphabet) : IsFieldChar c := by
  have hc := Armor.toNat_of_mem_alphabet h
  refine ⟨by omega, ?_, ?_⟩
  · rintro rfl
    exact absurd hc.1 (by decide)
  · rintro rfl
    exact absurd hc.1 (by decide)

theorem isFieldChar_digit : ∀ n : Nat, n < 10 → ∀ c ∈ (toString n).toList, IsFieldChar c := by
  decide

theorem isFieldChar_kind (kind : SentenceKind) : ∀ c ∈ kind.text, IsFieldChar c := by
  cases kind <;> decide

/-- The fields of a sentence that carries a whole payload. -/
def fieldsOf (payload : Payload) (channel talker : String) (kind : SentenceKind) :
    List (List Char) :=
  [talker.toList ++ kind.text, ['1'], ['1'], [], channel.toList, payload.text.toList,
    (toString payload.fillBits).toList]

/-- A body whose fields hold no comma is split into its fields. -/
theorem splitAt_bodyOf {payload : Payload} {channel talker : String} {kind : SentenceKind}
    (h : ∀ field ∈ fieldsOf payload channel talker kind, ',' ∉ field) :
    splitAt ',' (bodyOf payload channel talker kind) = fieldsOf payload channel talker kind := by
  simp only [fieldsOf, List.forall_mem_cons] at h
  obtain ⟨haddress, hone, -, hempty, hchannel, hpayload, hfill, -⟩ := h
  have hbody : bodyOf payload channel talker kind = talker.toList ++ kind.text ++ ',' ::
      (['1'] ++ ',' :: (['1'] ++ ',' :: ([] ++ ',' :: (channel.toList ++ ',' ::
        (payload.text.toList ++ ',' :: (toString payload.fillBits).toList))))) := by
    simp [bodyOf]
  rw [hbody, splitAt_append_mark haddress, splitAt_append_mark hone, splitAt_append_mark hone,
    splitAt_append_mark hempty, splitAt_append_mark hchannel, splitAt_append_mark hpayload,
    splitAt_of_not_mem hfill, fieldsOf]

/-- The sentence that a whole payload is framed in. -/
def ofPayload (payload : Payload) (channel talker : String) (kind : SentenceKind) : Sentence where
  talker := talker
  kind := kind
  fragmentCount := 1
  fragmentNumber := 1
  sequenceId := none
  channel := channel
  payload := payload.text
  fillBits := payload.fillBits

theorem address?_eq {talker : String} (h : talker.length = 2) (kind : SentenceKind) :
    address? (talker.toList ++ kind.text) = some (talker.toList, kind) := by
  rw [← String.length_toList] at h
  obtain ⟨a, b, hab⟩ := List.length_eq_two.mp h
  rw [hab]
  cases kind <;> rfl

theorem numericFields?_eq {n : Nat} (h : n < 10) :
    numericFields? ['1'] ['1'] [] (toString n).toList = some (1, 1, none, (n : Int)) := by
  have hone : Text.integer? (String.ofList ['1']) = some 1 := Text.integer?_digit 1 (by decide)
  have hfill : optionalInteger? (toString n).toList = some (some (n : Int)) := by
    have hne : ∀ n : Nat, n < 10 → (toString n).toList.isEmpty = false := by decide
    rw [optionalInteger?, hne n h, String.ofList_toList, Text.integer?_digit n h]
    rfl
  rw [numericFields?, hone, hfill]
  rfl

/-- The fields of a sentence are read as they were written. -/
theorem ofFields_fieldsOf {payload : Payload} {talker : String} (htalker : talker.length = 2)
    (hfill : payload.fillBits ≤ 5) (hpayload : payload.text ≠ "") (line : List Char)
    (channel : String) (kind : SentenceKind) :
    ofFields line (fieldsOf payload channel talker kind) =
      .ok (ofPayload payload channel talker kind) := by
  have hnumeric := numericFields?_eq (by omega : payload.fillBits < 10)
  have hne : payload.text.toList ≠ [] := by simpa using hpayload
  rw [fieldsOf, ofFields]
  simp only [address?_eq htalker, hnumeric]
  rw [if_neg (by decide), if_neg (by omega), if_neg fun h => hne h.2, String.ofList_toList,
    String.ofList_toList, String.ofList_toList]
  rfl

/-- All characters of a body but the commas between its fields belong to its fields. -/
theorem mem_bodyOf {payload : Payload} {channel talker : String} {kind : SentenceKind} {c : Char}
    (h : c ∈ bodyOf payload channel talker kind) :
    c = ',' ∨ ∃ field ∈ fieldsOf payload channel talker kind, c ∈ field := by
  simp only [bodyOf, fieldsOf] at h ⊢
  simp at h ⊢
  tauto

/-- What holds of all characters that may stand in a field holds of those of a payload. -/
theorem forall_mem_fieldsOf {p : Char → Prop} (hp : ∀ c, IsFieldChar c → p c) {payload : Payload}
    {channel talker : String} (htalker : ∀ c ∈ talker.toList, p c)
    (hchannel : ∀ c ∈ channel.toList, p c)
    (hpayload : ∀ c ∈ payload.text.toList, c ∈ Armor.alphabet) (hfill : payload.fillBits < 10)
    (kind : SentenceKind) : ∀ field ∈ fieldsOf payload channel talker kind, ∀ c ∈ field, p c := by
  have hone : p '1' := hp '1' (by decide)
  have haddress : ∀ c ∈ talker.toList ++ kind.text, p c := by
    rw [List.forall_mem_append]
    exact ⟨htalker, fun c hc => hp c (isFieldChar_kind kind c hc)⟩
  have htext : ∀ c ∈ payload.text.toList, p c :=
    fun c hc => hp c (isFieldChar_of_mem_alphabet (hpayload c hc))
  have hdigit : ∀ c ∈ (toString payload.fillBits).toList, p c :=
    fun c hc => hp c (isFieldChar_digit _ hfill c hc)
  simp only [fieldsOf, List.forall_mem_cons]
  exact ⟨haddress, ⟨hone, by simp⟩, ⟨hone, by simp⟩, by simp, hchannel, htext, hdigit, by simp⟩

theorem toList_frame (body : List Char) :
    (frame body).toList = '!' :: (body ++ '*' :: checksumText (checksum body)) := by
  rw [frame, String.toList_ofList]
  rfl

theorem isAscii_frame {body : List Char} (h : ∀ c ∈ body, c.toNat < 128) :
    Text.isAscii (frame body).toList = true := by
  have hsum := checksumText_isAscii _ (checksum_lt h)
  rw [toList_frame, Text.isAscii, List.all_cons, List.all_append, List.all_cons]
  simp only [Bool.and_eq_true, decide_eq_true_eq, List.all_eq_true]
  exact ⟨by decide, h, by decide, hsum⟩

/-- The body of a text is taken up to its first asterisk, and what follows is held against it. -/
theorem parseTrimmed_append {body given : List Char} (hstar : '*' ∉ body)
    (hascii : Text.isAscii ('!' :: (body ++ '*' :: given)) = true) :
    parseTrimmed ('!' :: (body ++ '*' :: given)) = (do
      checkChecksum body given
      ofFields ('!' :: (body ++ '*' :: given)) (splitAt ',' body)) := by
  have hmark : ∀ c ∈ body, decide (c ≠ '*') = true := by
    intro c hc
    rw [decide_eq_true_eq]
    rintro rfl
    exact hstar hc
  have htake : (body ++ '*' :: given).takeWhile (· ≠ '*') = body := by
    rw [List.takeWhile_append_of_pos hmark, List.takeWhile_cons_of_neg (by decide), List.append_nil]
  have hdrop : (body ++ '*' :: given).dropWhile (· ≠ '*') = '*' :: given := by
    rw [List.dropWhile_append_of_pos hmark, List.dropWhile_cons_of_neg (by decide)]
  simp only [parseTrimmed, hascii, htake, hdrop, Bool.not_true, Bool.false_eq_true, if_false]

/-- The body of a framed sentence is taken up to the asterisk and agrees with the checksum. -/
theorem parseTrimmed_frame {body : List Char} (h : ∀ c ∈ body, c.toNat < 128) (hstar : '*' ∉ body) :
    parseTrimmed (frame body).toList = ofFields (frame body).toList (splitAt ',' body) := by
  have hascii := isAscii_frame h
  rw [toList_frame] at hascii ⊢
  rw [parseTrimmed_append hstar hascii, checkChecksum_checksumText h]
  rfl

/-- A framed sentence neither starts nor ends with a blank. -/
theorem trim_frame {body : List Char} (h : ∀ c ∈ body, c.toNat < 128) {before after : String}
    (hbefore : Text.isBlankLine before = true) (hafter : Text.isBlankLine after = true) :
    Text.trim (before ++ frame body ++ after).toList = (frame body).toList := by
  obtain ⟨hne, hlast⟩ := checksumText_last _ (checksum_lt h)
  rw [String.toList_append, String.toList_append]
  apply Text.trim_append (List.all_eq_true.mp hbefore) (List.all_eq_true.mp hafter)
  · rw [toList_frame]
    rintro c ⟨⟩
    decide
  · have hend : (frame body).toList =
        ('!' :: body ++ ['*']) ++ checksumText (checksum body) := by
      simp [toList_frame]
    intro c hc
    rw [hend, List.getLast?_append_of_ne_nil _ hne] at hc
    rw [hc] at hlast
    simpa using hlast
  · rw [toList_frame]
    exact List.cons_ne_nil _ _

/-- Parsing gives the sentence that was built, whatever blanks stand around it. -/
theorem parse_build {payload : Payload} {channel talker : String} (htalker : talker.length = 2)
    (htalkerChars : ∀ c ∈ talker.toList, IsFieldChar c)
    (hchannelChars : ∀ c ∈ channel.toList, IsFieldChar c)
    (hpayloadChars : ∀ c ∈ payload.text.toList, c ∈ Armor.alphabet) (hpayload : payload.text ≠ "")
    (hfill : payload.fillBits ≤ 5) (kind : SentenceKind) {before after : String}
    (hbefore : Text.isBlankLine before = true) (hafter : Text.isBlankLine after = true) :
    parse (before ++ build payload channel talker kind ++ after) =
      .ok (ofPayload payload channel talker kind) := by
  have hfields := forall_mem_fieldsOf (fun _ hc => hc) htalkerChars hchannelChars hpayloadChars
    (by omega) kind
  have hascii : ∀ c ∈ bodyOf payload channel talker kind, c.toNat < 128 := by
    intro c hc
    rcases mem_bodyOf hc with rfl | ⟨field, hfield, hc⟩
    · decide
    · exact (hfields field hfield c hc).1
  have hstar : '*' ∉ bodyOf payload channel talker kind := by
    intro hc
    rcases mem_bodyOf hc with h | ⟨field, hfield, hc⟩
    · exact absurd h (by decide)
    · exact (hfields field hfield _ hc).2.2 rfl
  rw [parse, build, trim_frame hascii hbefore hafter, parseTrimmed_frame hascii hstar,
    splitAt_bodyOf fun field hfield hc => (hfields field hfield _ hc).2.1 rfl,
    ofFields_fieldsOf htalker hfill hpayload]

end Sentence

end AisStation
