import AisStation.Proofs.Canonical
import AisStation.Proofs.Kept

/-!
# Lawful records

What a type of records owes to messages: its tail is read from its places whenever the length of the
message is one of its own and there is room for what the flags announce; writing what was read gives
the bits that are to be sent again; and what fits is read back from where it was written. From these
laws of the tail and the laws of layouts follow those of the whole record.
-/

namespace AisStation

/-- The bits that are sent for a message that was read from `bs`. Texts lose the bits that make no
character, and completions become zeros; nothing else is lost. -/
def Message.resent (m : Message) (bs : Bits) : Bits :=
  match m with
  | addressedSafetyMessage _ => bs.take (bs.length - (bs.length - 72) % 6)
  | safetyBroadcastMessage _ => bs.take (bs.length - (bs.length - 40) % 6)
  | dataLinkManagement r =>
    let kept := 40 + 30 * r.reservations.length
    bs.take kept ++ Bits.zeros (bs.length - kept)
  | aidToNavigationReport r =>
    let kept := 272 + 6 * r.nameExtension.length
    bs.take kept ++ Bits.zeros (fillBits 8 kept)
  | _ => bs

theorem Lengths.accepts_between {least greatest n : Nat} :
    (Lengths.between least greatest).accepts n = true ↔ least ≤ n ∧ n ≤ greatest := by
  simp [Lengths.accepts]

open WireRecord

/-- A layout is well-formed if none of its fields is a signed number without bits. -/
theorem Layout.wellFormed_of_all {layout : Layout}
    (h : layout.all fun field => decide (field.kind ≠ .signed 0)) : layout.WellFormed := by
  intro field hf
  have hne := of_decide_eq_true (List.all_eq_true.mp h field hf)
  unfold FieldKind.WellFormed
  split
  · rename_i width hw
    rw [hw] at hne
    exact Nat.pos_of_ne_zero fun h0 => hne (by rw [h0])
  · trivial

/-- The laws of a type of records whose messages have the given lengths. A tail is written over a
record that has its head only: `ofHead (head r) = r` says that nothing else was set. -/
structure LawfulRecord (R : Type) [WireRecord R] (lengths : Lengths) (message : R → Message)
    (tailAt : R → Bits → R) : Prop where
  message_tailAt : ∀ r bs, message (tailAt r bs) = (message r).tailAt bs
  wellFormed : (layout R).WellFormed
  head_ofHead : ∀ values, head (ofHead values : R) = values
  head_tailAt : ∀ r bs, head (tailAt r bs) = head r
  type_ofHead : ∀ bs : Bits,
    (message (ofHead ((layout R).valuesAt bs 0))).messageType = bs.uintAt 0 6
  type_tailAt : ∀ r bs, (message (tailAt r bs)).messageType = (message r).messageType
  width_le : ∀ n : Nat, lengths.accepts n = true → (layout R).width ≤ n
  readTail_ok : ∀ r (s : Reader), s.position = 0 → lengths.accepts s.length = true →
    (message r).HasRoom s.length →
      ∃ s', readTail r (s.skip (layout R).width) = .ok (tailAt r s.rest) s'
  readTail_error : ∀ r (s : Reader), s.position = 0 → lengths.accepts s.length = true →
    ¬(message r).HasRoom s.length →
      Read.Fails (readTail r) (s.skip (layout R).width)
  encodeTail_tailAt : ∀ r (bs : Bits), ofHead (head r) = r → lengths.accepts bs.length = true →
    (message r).HasRoom bs.length →
      ∃ tail, encodeTail (tailAt r bs) = .ok tail ∧
        bs.take (layout R).width ++ tail = (message (tailAt r bs)).resent bs
  fitsTail_tailAt : ∀ r (bs : Bits), ofHead (head r) = r → lengths.accepts bs.length = true →
    (message r).HasRoom bs.length → (message (tailAt r bs)).FitsTail
  encodeTail_of_fits : ∀ r, (message r).FitsTail →
    ∃ tail, encodeTail r = .ok tail ∧
      lengths.accepts ((layout R).width + tail.length : Nat) = true ∧
      (message (ofHead (head r))).HasRoom ((layout R).width + tail.length) ∧
      ∀ first : Bits, first.length = (layout R).width →
        tailAt (ofHead (head r)) (first ++ tail) = r

/-- The laws of a type of records that have a head and one field behind it, set by `set` and given
by `get`, whatever the length of the message. -/
structure LawfulTailField (R : Type) [WireRecord R] (message : R → Message) {α : Type}
    (set : R → α → R) (get : R → α) : Prop where
  wellFormed : (layout R).all fun field => decide (field.kind ≠ .signed 0)
  head_ofHead : ∀ values, head (ofHead values : R) = values
  head_set : ∀ r a, head (set r a) = head r
  get_set : ∀ r a, get (set r a) = a
  set_get : ∀ r, set (ofHead (head r)) (get r) = r
  type_ofHead : ∀ bs : Bits,
    (message (ofHead ((layout R).valuesAt bs 0))).messageType = bs.uintAt 0 6
  type_set : ∀ r a, (message (set r a)).messageType = (message r).messageType
  hasRoom : ∀ r n, (message r).HasRoom n

namespace LawfulRecord

variable {R : Type} [WireRecord R] {lengths : Lengths} {message : R → Message}
  {tailAt : R → Bits → R}

/-- Reading a record reads its head from the places of the layout, then its tail. -/
theorem read_eq (h : LawfulRecord R lengths message tailAt) {s : Reader} (h0 : s.position = 0)
    (hacc : lengths.accepts s.length = true) :
    WireRecord.read R s =
      readTail (ofHead ((layout R).valuesAt s.rest 0)) (s.skip (layout R).width) := by
  have hle : 0 + (layout R).width ≤ s.remaining := by
    rw [Reader.remaining_of_position_eq_zero h0, Nat.zero_add]
    exact h.width_le _ hacc
  have hread := Layout.read_skip (layout R) hle
  rw [Reader.skip_zero, Nat.zero_add] at hread
  rw [WireRecord.read, Read.bind_ok hread]

/-- With room for all that is announced, a record is read from its places. -/
theorem read_ok (h : LawfulRecord R lengths message tailAt) {s : Reader} (h0 : s.position = 0)
    (hacc : lengths.accepts s.length = true)
    (hroom : (message (ofHead ((layout R).valuesAt s.rest 0))).HasRoom s.length) :
    ∃ s', (message <$> WireRecord.read R) s =
      .ok ((message (ofHead ((layout R).valuesAt s.rest 0))).tailAt s.rest) s' := by
  obtain ⟨s', htail⟩ := h.readTail_ok _ s h0 hacc hroom
  refine ⟨s', ?_⟩
  rw [← h.message_tailAt]
  exact Read.map_ok ((h.read_eq h0 hacc).trans htail) message

/-- Without room a record is not read. -/
theorem read_error (h : LawfulRecord R lengths message tailAt) {s : Reader} (h0 : s.position = 0)
    (hacc : lengths.accepts s.length = true)
    (hroom : ¬(message (ofHead ((layout R).valuesAt s.rest 0))).HasRoom s.length) :
    Read.Fails (message <$> WireRecord.read R) s := by
  obtain ⟨why, s', htold, htail⟩ := h.readTail_error _ s h0 hacc hroom
  exact ⟨why, s', htold, Read.map_error ((h.read_eq h0 hacc).trans htail) message⟩

/-- A record that was read carries the type that its first bits tell. -/
theorem type_at (h : LawfulRecord R lengths message tailAt) (bs : Bits) :
    ((message (ofHead ((layout R).valuesAt bs 0))).tailAt bs).messageType = bs.uintAt 0 6 := by
  rw [← h.message_tailAt, h.type_tailAt, h.type_ofHead]

/-- The fields of a record that was read fit their widths. -/
theorem fits_at (h : LawfulRecord R lengths message tailAt) {bs : Bits}
    (hacc : lengths.accepts bs.length = true)
    (hroom : (message (ofHead ((layout R).valuesAt bs 0))).HasRoom bs.length) :
    ∃ r, message r = (message (ofHead ((layout R).valuesAt bs 0))).tailAt bs ∧
      (layout R).Fits (head r) ∧ (message r).FitsTail := by
  refine ⟨tailAt (ofHead ((layout R).valuesAt bs 0)) bs, h.message_tailAt _ _, ?_, ?_⟩
  · rw [h.head_tailAt, h.head_ofHead]
    exact Layout.fits_valuesAt h.wellFormed bs 0
  · exact h.fitsTail_tailAt _ _ (congrArg ofHead (h.head_ofHead _)) hacc hroom

/-- A record that was read from `bs` has the bits that are to be sent again for `bs`. -/
theorem encode_at (h : LawfulRecord R lengths message tailAt) {bs : Bits}
    (hacc : lengths.accepts bs.length = true)
    (hroom : (message (ofHead ((layout R).valuesAt bs 0))).HasRoom bs.length) :
    ∃ r, message r = (message (ofHead ((layout R).valuesAt bs 0))).tailAt bs ∧
      WireRecord.encode r = .ok ((message r).resent bs) := by
  have hle : 0 + (layout R).width ≤ bs.length := by
    rw [Nat.zero_add]
    exact h.width_le _ hacc
  refine ⟨tailAt (ofHead ((layout R).valuesAt bs 0)) bs, h.message_tailAt _ _, ?_⟩
  obtain ⟨tail, htail, hsent⟩ :=
    h.encodeTail_tailAt _ bs (congrArg ofHead (h.head_ofHead _)) hacc hroom
  have hhead := Layout.encode_valuesAt (layout R) hle
  rw [WireRecord.encode, h.head_tailAt, h.head_ofHead, hhead, htail, ← hsent]
  rfl

/-- A record that fits has bits of a length of its own, from which it is read back. -/
theorem encode_of_fits (h : LawfulRecord R lengths message tailAt) {r : R}
    (hhead : (layout R).Fits (head r)) (htail : (message r).FitsTail) :
    ∃ bs, WireRecord.encode r = .ok bs ∧ lengths.accepts bs.length = true ∧
      (message (ofHead ((layout R).valuesAt bs 0))).HasRoom bs.length ∧
      (message (ofHead ((layout R).valuesAt bs 0))).tailAt bs = message r := by
  obtain ⟨first, hfirst, hlen, hat⟩ := Layout.encode_of_fits h.wellFormed hhead
  obtain ⟨tail, htail, hacc, hroom, hback⟩ := h.encodeTail_of_fits r htail
  have hvalues : (layout R).valuesAt (first ++ tail) 0 = head r := hat [] 0 rfl tail
  have hsum : (first ++ tail).length = (layout R).width + tail.length := by
    rw [List.length_append, hlen]
  refine ⟨first ++ tail, ?_, ?_, ?_, ?_⟩
  · rw [WireRecord.encode, hfirst, htail]
    rfl
  · rw [hsum]
    exact hacc
  · rw [hvalues, hsum]
    exact hroom
  · rw [hvalues, ← h.message_tailAt, hback first hlen]

end LawfulRecord

end AisStation
