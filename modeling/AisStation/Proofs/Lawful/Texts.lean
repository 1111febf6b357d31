import AisStation.Proofs.Lawful

/-!
# Records that end in text

A safety message gives the rest of its bits to the text, so the bits that make no character are lost
and the filling is kept. An aid to navigation drops the filling of its name extension and completes
the message to whole bytes.
-/

namespace AisStation

open WireRecord

/-! ## Safety messages -/

/-- The characters that fill the rest of a message up to bits that make none. -/
def restText (before : Nat) (bs : Bits) : String :=
  String.ofList (SixBit.textAt ((bs.length - before) / 6) (bs.drop before))

theorem fitsRest_restText {before count : Nat} {bs : Bits}
    (h : bs.length < before + 6 * (count + 1)) :
    FitsRest count (restText before bs) := by
  refine ⟨?_, fun c hc => ?_⟩
  · rw [restText, String.length_ofList, SixBit.length_textAt]
    omega
  · rw [restText, String.toList_ofList] at hc
    exact SixBit.mem_alphabet_of_mem_textAt hc

theorem encode_restText (before : Nat) (bs : Bits) :
    SixBit.encode (restText before bs).toList =
      .ok ((bs.drop before).take (6 * ((bs.length - before) / 6))) := by
  rw [restText, String.toList_ofList,
    SixBit.encode_of_forall_mem fun c hc => SixBit.mem_alphabet_of_mem_textAt hc,
    SixBit.bitsOf_textAt (by rw [List.length_drop]; omega)]

/-- A record that ends in a text is lawful if its messages have room for its head and for no more
characters than are sent. -/
theorem LawfulTailField.lawful_text {R : Type} [WireRecord R] {message : R → Message}
    {set : R → String → R} {get : R → String} {width count : Nat}
    (h : LawfulTailField R message set get) (hwidth : (layout R).width = width)
    (hcount : 1008 - width < 6 * (count + 1) ∧ width + 6 * count ≤ 1008)
    (hread : ∀ r : R, readTail r =
      (do return set r (String.ofList (← Read.text ((← Read.bitsRemaining) / 6)))))
    (hencode : ∀ r : R, encodeTail r = SixBit.encode ((get r).toList.take count))
    (htail : ∀ r bs, message (set r (restText width bs)) = (message r).tailAt bs)
    (hfits : ∀ r, (message r).FitsTail ↔ FitsRest count (get r))
    (hsent : ∀ r bs, (message r).resent bs = bs.take (bs.length - (bs.length - width) % 6)) :
    LawfulRecord R (.between width 1008) message fun r bs => set r (restText width bs) where
  message_tailAt := htail
  wellFormed := Layout.wellFormed_of_all h.wellFormed
  head_ofHead := h.head_ofHead
  head_tailAt r bs := h.head_set r _
  type_ofHead := h.type_ofHead
  type_tailAt r bs := h.type_set r _
  width_le n hacc := hwidth.trans_le (Lengths.accepts_between.mp hacc).1
  readTail_ok r s h0 hacc hr := by
    have hle : width ≤ s.remaining := by
      rw [Reader.remaining_of_position_eq_zero h0]
      exact (Lengths.accepts_between.mp hacc).1
    refine ⟨s.skip (width + 6 * ((s.remaining - width) / 6)), ?_⟩
    rw [hread, hwidth, Read.bind_ok (Read.bitsRemaining_apply _), Reader.remaining_skip,
      Read.bind_ok (Read.text_skip (by omega)), Read.pure_apply, restText, Reader.length_rest]
  readTail_error r s h0 hacc hr := absurd (h.hasRoom r _) hr
  encodeTail_tailAt r bs _ hacc hr := by
    obtain ⟨hle, hmax⟩ := Lengths.accepts_between.mp hacc
    have hfit : FitsRest count (restText width bs) := fitsRest_restText (by omega)
    refine ⟨(bs.drop width).take (6 * ((bs.length - width) / 6)), ?_, ?_⟩
    · rw [hencode, h.get_set, List.take_of_length_le (by rw [String.length_toList]; exact hfit.1),
        encode_restText]
    · rw [hwidth, hsent, ← List.take_add]
      congr 1
      omega
  fitsTail_tailAt r bs _ hacc hr := by
    obtain ⟨hle, hmax⟩ := Lengths.accepts_between.mp hacc
    rw [hfits, h.get_set]
    exact fitsRest_restText (by omega)
  encodeTail_of_fits r hf := by
    rw [hfits] at hf
    obtain ⟨hlen, hmem⟩ := hf
    rw [← String.length_toList] at hlen
    refine ⟨SixBit.bitsOf (get r).toList, ?_, ?_, h.hasRoom _ _, fun first hfirst => ?_⟩
    · rw [hencode, List.take_of_length_le hlen, SixBit.encode_of_forall_mem hmem]
    · rw [Lengths.accepts_between, SixBit.length_bitsOf]
      omega
    · have htext := SixBit.textAt_bitsOf_append hmem []
      rw [List.append_nil] at htext
      have hnumber : ((first ++ SixBit.bitsOf (get r).toList).length - width) / 6 =
          (get r).toList.length := by
        rw [List.length_append, SixBit.length_bitsOf]
        omega
      show set _ (restText width (first ++ SixBit.bitsOf (get r).toList)) = r
      rw [restText, hnumber, List.drop_left' (hfirst.trans hwidth), htext, String.ofList_toList,
        h.set_get]

theorem AddressedSafetyMessage.lawfulTailField :
    LawfulTailField AddressedSafetyMessage .addressedSafetyMessage (fun r text => { r with text })
      AddressedSafetyMessage.text := by
  constructor <;> intros <;> first | rfl | trivial

theorem SafetyBroadcastMessage.lawfulTailField :
    LawfulTailField SafetyBroadcastMessage .safetyBroadcastMessage (fun r text => { r with text })
      SafetyBroadcastMessage.text := by
  constructor <;> intros <;> first | rfl | trivial

theorem addressedSafetyMessage_lawful :
    LawfulRecord AddressedSafetyMessage RecordKind.addressedSafetyMessage.lengths
      .addressedSafetyMessage AddressedSafetyMessage.tailAt :=
  AddressedSafetyMessage.lawfulTailField.lawful_text rfl (by decide) (fun _ => rfl) (fun _ => rfl)
    (fun _ _ => rfl) (fun _ => Iff.rfl) fun _ _ => rfl

theorem safetyBroadcastMessage_lawful :
    LawfulRecord SafetyBroadcastMessage RecordKind.safetyBroadcastMessage.lengths
      .safetyBroadcastMessage SafetyBroadcastMessage.tailAt :=
  SafetyBroadcastMessage.lawfulTailField.lawful_text rfl (by decide) (fun _ => rfl) (fun _ => rfl)
    (fun _ _ => rfl) (fun _ => Iff.rfl) fun _ _ => rfl

/-! ## Aids to navigation -/

/-- What is left of a text that was read has the first of the bits that were read. -/
theorem SixBit.bitsOf_stripPadding {count : Nat} {bs : Bits} (h : 6 * count ≤ bs.length) :
    bitsOf (stripPadding (textAt count bs)) =
      bs.take (6 * (stripPadding (textAt count bs)).length) := by
  obtain ⟨k, hk, -⟩ := stripPadding_spec (textAt count bs)
  have hbits := bitsOf_textAt h
  have hle := length_stripPadding_le (textAt count bs)
  rw [length_textAt] at hle
  rw [hk, bitsOf_append] at hbits
  have htake := congrArg (List.take (6 * (stripPadding (textAt count bs)).length)) hbits
  rw [List.take_left' (length_bitsOf _), List.take_take, min_eq_left (by omega)] at htake
  exact htake

/-- A text is read back before zeros, which are read as filling. -/
theorem SixBit.stripPadding_textAt_bitsOf {cs : List Char} (h : ∀ c ∈ cs, c ∈ alphabet)
    (hlast : cs.getLast? ≠ some pad) (k n : Nat) :
    stripPadding (textAt (cs.length + k) (bitsOf cs ++ Bits.zeros n)) = cs := by
  rw [textAt_add, textAt_bitsOf_append h, List.drop_left' (length_bitsOf cs), textAt_zeros,
    stripPadding_append_replicate, stripPadding_eq_self hlast]

namespace AidToNavigationReport

theorem readTail_ok (r : AidToNavigationReport) {s : Reader} (h : 272 ≤ s.remaining) :
    ∃ s', readTail r (s.skip 272) = .ok (r.tailAt s.rest) s' := by
  have hcount : 6 * extensionCount s.remaining ≤ s.remaining - 272 := by
    rw [extensionCount]
    omega
  have hread : Read.text (extensionCount s.remaining) (s.skip 272) = _ :=
    Read.text_skip (by omega)
  refine ⟨s.skip (272 + 6 * extensionCount s.remaining), ?_⟩
  show (Read.text (min ((s.skip 272).remaining / 6) maxExtension) >>= fun extension =>
    (pure { r with nameExtension := String.ofList (SixBit.stripPadding extension) } :
      Read AidToNavigationReport)) (s.skip 272) = _
  rw [Reader.remaining_skip, ← extensionCount, Read.bind_ok hread, Read.pure_apply, tailAt,
    Reader.length_rest]

/-- A fitting extension is written whole and completed to whole bytes. -/
theorem encodeTail_eq {r : AidToNavigationReport} (hf : FitsText maxExtension r.nameExtension) :
    encodeTail r = .ok (SixBit.bitsOf r.nameExtension.toList ++
      Bits.zeros (fillBits 8 (272 + 6 * r.nameExtension.length : Nat))) := by
  have htake : r.nameExtension.toList.take maxExtension = r.nameExtension.toList :=
    List.take_of_length_le (by rw [String.length_toList]; exact hf.1)
  have hbits : SixBit.encode (r.nameExtension.toList.take maxExtension) =
      .ok (SixBit.bitsOf r.nameExtension.toList) := by
    rw [htake, SixBit.encode_of_forall_mem hf.2.1]
  have hlen := SixBit.length_bitsOf r.nameExtension.toList
  rw [String.length_toList] at hlen
  show (SixBit.encode (r.nameExtension.toList.take maxExtension) >>= fun bits =>
    .ok (bits ++ Bits.zeros (fillBits 8 (272 + bits.length : Nat)))) = _
  rw [hbits, ← hlen]
  rfl

theorem fitsTail_tailAt (r : AidToNavigationReport) (bs : Bits) :
    FitsText maxExtension (r.tailAt bs).nameExtension := by
  obtain ⟨hlen, hmem, hlast⟩ : FitsText (extensionCount bs.length) (r.tailAt bs).nameExtension :=
    SixBit.fitsText_strip (bs.drop 272)
  exact ⟨hlen.trans (min_le_right _ _), hmem, hlast⟩

/-- Writing the extension that was read gives its bits, completed to whole bytes. -/
theorem encodeTail_tailAt (r : AidToNavigationReport) {bs : Bits} (h : 272 ≤ bs.length) :
    ∃ tail, encodeTail (r.tailAt bs) = .ok tail ∧
      bs.take 272 ++ tail =
        (Message.aidToNavigationReport (r.tailAt bs)).resent bs := by
  have hcount : 6 * extensionCount bs.length ≤ (bs.drop 272).length := by
    rw [extensionCount, List.length_drop]
    omega
  have hbits : SixBit.bitsOf (r.tailAt bs).nameExtension.toList =
      (bs.drop 272).take (6 * (r.tailAt bs).nameExtension.length) := by
    rw [tailAt, String.toList_ofList, SixBit.bitsOf_stripPadding hcount, String.length_ofList]
  refine ⟨_, encodeTail_eq (fitsTail_tailAt r bs), ?_⟩
  rw [hbits, ← List.append_assoc, ← List.take_add]
  rfl

/-- A message that fits is read back from behind its head. -/
theorem tailAt_encode {r : AidToNavigationReport} (hf : FitsText maxExtension r.nameExtension)
    {first : Bits} (hfirst : first.length = 272) :
    r.tailAt (first ++ (SixBit.bitsOf r.nameExtension.toList ++
      Bits.zeros (fillBits 8 (272 + 6 * r.nameExtension.length : Nat)))) = r := by
  obtain ⟨hlen, hmem, hlast⟩ := hf
  have hfill := fillBits_lt (by decide : 0 < 8) (272 + 6 * r.nameExtension.length : Nat)
  generalize fillBits 8 (272 + 6 * r.nameExtension.length : Nat) = fill at hfill ⊢
  have hcount : extensionCount (first ++ (SixBit.bitsOf r.nameExtension.toList ++
      Bits.zeros fill)).length = r.nameExtension.toList.length +
        (min ((6 * r.nameExtension.length + fill) / 6) maxExtension - r.nameExtension.length) := by
    rw [List.length_append, List.length_append, SixBit.length_bitsOf, Bits.length_zeros, hfirst,
      String.length_toList, extensionCount, Nat.add_sub_cancel_left, Nat.add_sub_cancel']
    omega
  rw [tailAt, hcount, List.drop_left' hfirst, SixBit.stripPadding_textAt_bitsOf hmem hlast,
    String.ofList_toList]

end AidToNavigationReport

theorem aidToNavigationReport_lawful :
    LawfulRecord AidToNavigationReport RecordKind.aidToNavigationReport.lengths
      .aidToNavigationReport AidToNavigationReport.tailAt where
  message_tailAt r bs := rfl
  wellFormed := Layout.wellFormed_of_all rfl
  head_ofHead values := rfl
  head_tailAt r bs := rfl
  type_ofHead bs := rfl
  type_tailAt r bs := rfl
  width_le n hacc := (Lengths.accepts_between.mp hacc).1
  readTail_ok r s h0 hacc hr := by
    apply AidToNavigationReport.readTail_ok
    rw [Reader.remaining_of_position_eq_zero h0]
    exact (Lengths.accepts_between.mp hacc).1
  readTail_error r s h0 hacc hr := absurd trivial hr
  encodeTail_tailAt r bs _ hacc hr :=
    AidToNavigationReport.encodeTail_tailAt r (Lengths.accepts_between.mp hacc).1
  fitsTail_tailAt r bs _ hacc hr := AidToNavigationReport.fitsTail_tailAt r bs
  encodeTail_of_fits r hf := by
    refine ⟨_, AidToNavigationReport.encodeTail_eq hf, ?_, trivial, fun first hfirst => ?_⟩
    · have hlen : r.nameExtension.length ≤ 14 := hf.1
      have hfill := fillBits_lt (by decide : 0 < 8) (272 + 6 * r.nameExtension.length : Nat)
      have hbyte := add_fillBits_emod (by decide : 0 < 8) (272 + 6 * r.nameExtension.length)
      show (Lengths.between 272 360).accepts (272 + _ : Nat) = true
      rw [Lengths.accepts_between, List.length_append, SixBit.length_bitsOf, Bits.length_zeros,
        String.length_toList]
      omega
    · exact AidToNavigationReport.tailAt_encode hf hfirst

end AisStation
