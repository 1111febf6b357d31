import AisStation.Proofs.Lawful

/-!
# Records that end in opaque data

The data take whatever bits are left, so reading them never fails and writing them loses nothing.
The slot messages first read what their flags announce; the message is refused if that leaves no
room for the communication state at its end.
-/

namespace AisStation

open WireRecord

/-- The data that are left are read up to the end of the message. -/
theorem Read.blob_rest {r : Reader} {k : Nat} (h : k ≤ r.remaining) :
    Read.blob (r.skip k).remaining (r.skip k) = .ok ⟨r.rest.drop k⟩ (r.skip r.remaining) := by
  have hk : k + (r.remaining - k) = r.remaining := by omega
  rw [Reader.remaining_skip, Read.blob_skip hk.le, hk, List.take_of_length_le]
  rw [List.length_drop, Reader.length_rest]

/-- A record that ends in opaque data is lawful if its messages have room for its head and no more
data than are allowed. -/
theorem LawfulTailField.lawful_data {R : Type} [WireRecord R] {message : R → Message}
    {set : R → Blob → R} {get : R → Blob} {width greatest : Nat}
    (h : LawfulTailField R message set get) (hwidth : (layout R).width = width)
    (hread : ∀ r : R, readTail r = (do return set r (← Read.blob (← Read.bitsRemaining))))
    (hencode : ∀ r : R, encodeTail r = .ok (get r).bits)
    (htail : ∀ r bs, message (set r ⟨bs.drop width⟩) = (message r).tailAt bs)
    (hfits : ∀ r, (message r).FitsTail ↔ FitsData width greatest (get r))
    (hsent : ∀ r bs, (message r).resent bs = bs) :
    LawfulRecord R (.between width greatest) message fun r bs => set r ⟨bs.drop width⟩ where
  message_tailAt := htail
  wellFormed := Layout.wellFormed_of_all h.wellFormed
  head_ofHead := h.head_ofHead
  head_tailAt r bs := h.head_set r _
  type_ofHead := h.type_ofHead
  type_tailAt r bs := h.type_set r _
  width_le n hacc := hwidth.trans_le (Lengths.accepts_between.mp hacc).1
  readTail_ok r s h0 hacc hr := by
    have hle : width ≤ s.remaining := by
      rw [Reader.remaining_of_position_eq_zero h0]
      exact (Lengths.accepts_between.mp hacc).1
    refine ⟨s.skip s.remaining, ?_⟩
    rw [hread, hwidth, Read.bind_ok (Read.bitsRemaining_apply _),
      Read.bind_ok (Read.blob_rest hle), Read.pure_apply]
  readTail_error r s h0 hacc hr := absurd (h.hasRoom r _) hr
  encodeTail_tailAt r bs _ hacc hr := by
    refine ⟨bs.drop width, by rw [hencode, h.get_set], ?_⟩
    rw [hwidth, hsent, List.take_append_drop]
  fitsTail_tailAt r bs _ hacc hr := by
    have hle := Lengths.accepts_between.mp hacc
    rw [hfits, h.get_set, FitsData, Blob.length, List.length_drop]
    omega
  encodeTail_of_fits r hf := by
    rw [hfits, FitsData, Blob.length] at hf
    refine ⟨(get r).bits, hencode r, ?_, h.hasRoom _ _, fun first hfirst => ?_⟩
    · rw [Lengths.accepts_between]
      omega
    · rw [List.drop_left' (hfirst.trans hwidth)]
      exact h.set_get r

theorem AddressedBinaryMessage.lawfulTailField :
    LawfulTailField AddressedBinaryMessage .addressedBinaryMessage (fun r data => { r with data })
      AddressedBinaryMessage.data := by
  constructor <;> intros <;> first | rfl | trivial

theorem BinaryBroadcastMessage.lawfulTailField :
    LawfulTailField BinaryBroadcastMessage .binaryBroadcastMessage (fun r data => { r with data })
      BinaryBroadcastMessage.data := by
  constructor <;> intros <;> first | rfl | trivial

theorem DgnssBroadcast.lawfulTailField :
    LawfulTailField DgnssBroadcast .dgnssBroadcast (fun r data => { r with data })
      DgnssBroadcast.data := by
  constructor <;> intros <;> first | rfl | trivial

theorem addressedBinaryMessage_lawful :
    LawfulRecord AddressedBinaryMessage RecordKind.addressedBinaryMessage.lengths
      .addressedBinaryMessage AddressedBinaryMessage.tailAt :=
  AddressedBinaryMessage.lawfulTailField.lawful_data rfl (fun _ => rfl) (fun _ => rfl)
    (fun _ _ => rfl) (fun _ => Iff.rfl) fun _ _ => rfl

theorem binaryBroadcastMessage_lawful :
    LawfulRecord BinaryBroadcastMessage RecordKind.binaryBroadcastMessage.lengths
      .binaryBroadcastMessage BinaryBroadcastMessage.tailAt :=
  BinaryBroadcastMessage.lawfulTailField.lawful_data rfl (fun _ => rfl) (fun _ => rfl)
    (fun _ _ => rfl) (fun _ => Iff.rfl) fun _ _ => rfl

theorem dgnssBroadcast_lawful :
    LawfulRecord DgnssBroadcast RecordKind.dgnssBroadcast.lengths .dgnssBroadcast
      DgnssBroadcast.tailAt :=
  DgnssBroadcast.lawfulTailField.lawful_data rfl (fun _ => rfl) (fun _ => rfl) (fun _ _ => rfl)
    (fun _ => Iff.rfl) fun _ _ => rfl

/-! ## Slot messages -/

namespace Read

variable {β : Type}

/-- What a flag announces is read from its place, if there is room for it. -/
theorem announced_skip {r : Reader} {b : Bool} {k w : Nat}
    (h : k + (if b then w else 0) ≤ r.remaining) :
    announced b w (r.skip k) =
      .ok (if b then r.rest.uintAt k w else 0) (r.skip (k + if b then w else 0)) := by
  cases b with
  | false => rfl
  | true => exact uint_skip h

theorem fails_announced_bind {r : Reader} {b : Bool} {k w : Nat} (hw : Text.IsWritable w)
    {f : Int → Read β} (h : ∀ a, k + (if b then w else 0) ≤ r.remaining →
      Fails (f a) (r.skip (k + if b then w else 0))) (hk : k ≤ r.remaining) :
    Fails (announced b w >>= f) (r.skip k) := by
  cases b with
  | false => exact fails_bind_ok rfl (h 0 hk)
  | true => exact fails_uint_bind hw (h _) hk

/-- Data are read up to the last `trailer` bits of the message. -/
theorem dataBefore_skip {r : Reader} {k trailer : Nat} {messageType : Int}
    (h : k + trailer ≤ r.remaining) :
    dataBefore trailer messageType (r.skip k) =
      .ok ⟨(r.rest.take (r.remaining - trailer)).drop k⟩ (r.skip (r.remaining - trailer)) := by
  have hk : k + (r.remaining - k - trailer) = r.remaining - trailer := by omega
  rw [dataBefore, bind_ok (bitsRemaining_apply _), Reader.remaining_skip, if_neg (by omega)]
  show blob (r.remaining - k - trailer) (r.skip k) = _
  rw [blob_skip (by omega), hk, List.drop_take, show r.remaining - trailer - k =
    r.remaining - k - trailer by omega]

theorem fails_dataBefore {r : Reader} {k trailer : Nat} {messageType : Int}
    (h : r.remaining < k + trailer) (hk : k ≤ r.remaining) :
    Fails (dataBefore trailer messageType) (r.skip k) := by
  rw [dataBefore]
  refine fails_bind_ok (bitsRemaining_apply _) ?_
  rw [Reader.remaining_skip, if_pos (by omega)]
  exact ⟨_, _, ⟨_, rfl⟩, rfl⟩

end Read

theorem le_slotApplication (addressed : Bool) : 40 ≤ slotApplication addressed := by
  cases addressed <;> decide

theorem slotApplication_le (addressed structured : Bool) :
    slotApplication addressed ≤ slotData addressed structured :=
  Nat.le_add_right _ _

theorem le_slotData (addressed structured : Bool) : 40 ≤ slotData addressed structured :=
  (le_slotApplication addressed).trans (slotApplication_le addressed structured)

namespace SlotAddress

variable {β : Type} {r : Reader} {addressed structured : Bool}

/-- What the flags announce is read from its places, if there is room for it. -/
theorem read_skip {f : Int → Int → Int → Read β} (h : slotData addressed structured ≤ r.remaining) :
    (Read.announced addressed 30 >>= fun destMmsi => Read.announced addressed 2 >>= fun spare =>
        Read.announced structured 16 >>= fun appId => f destMmsi spare appId) (r.skip 40) =
      f (if addressed then r.rest.uintAt 40 30 else 0) (if addressed then r.rest.uintAt 70 2 else 0)
        (if structured then r.rest.uintAt (slotApplication addressed) 16 else 0)
        (r.skip (slotData addressed structured)) := by
  have happ := slotApplication_le addressed structured
  cases addressed with
  | false =>
    have hread := Read.announced_skip (b := structured) (k := 40) (w := 16) h
    exact Read.bind_ok hread fun appId => f 0 0 appId
  | true =>
    have h72 : 72 ≤ r.remaining := happ.trans h
    have hread := Read.announced_skip (b := structured) (k := 72) (w := 16) h
    rw [Read.bind_ok (Read.announced_skip (b := true) (by simp; omega))]
    rw [Read.bind_ok (Read.announced_skip (b := true) (by simp; omega))]
    exact Read.bind_ok hread fun appId => f (r.rest.uintAt 40 30) (r.rest.uintAt 70 2) appId

/-- Without room the read fails in what the flags announce, or after it. -/
theorem fails_read {f : Int → Int → Int → Read β} (h40 : 40 ≤ r.remaining)
    (h : slotData addressed structured ≤ r.remaining → ∀ destMmsi spare appId,
      Read.Fails (f destMmsi spare appId) (r.skip (slotData addressed structured))) :
    Read.Fails (Read.announced addressed 30 >>= fun destMmsi => Read.announced addressed 2 >>=
      fun spare => Read.announced structured 16 >>= fun appId => f destMmsi spare appId)
      (r.skip 40) := by
  have hsum : 40 + (if addressed then 30 else 0) + (if addressed then 2 else 0) =
      slotApplication addressed := by
    cases addressed <;> rfl
  have hwidth {w : Nat} (h : w ≤ 30) : Text.IsWritable w := Text.isWritable_of_lt (by omega)
  apply Read.fails_announced_bind (hwidth (by decide)) (fun destMmsi h1 => ?_) h40
  apply Read.fails_announced_bind (hwidth (by decide)) (fun spare h2 => ?_) h1
  apply Read.fails_announced_bind (hwidth (by decide)) (fun appId h3 => ?_) h2
  rw [hsum, ← slotData] at h3 ⊢
  exact h h3 destMmsi spare appId

theorem length_encode (addressed structured : Bool) (destMmsi spare appId : Int) :
    40 + (encode addressed structured destMmsi spare appId).length =
      slotData addressed structured := by
  cases addressed <;> cases structured <;> simp [encode, slotData, slotApplication]

/-- Writing what was announced gives the bits between the head and the data. -/
theorem encode_at {bs : Bits}
    (h : slotData addressed structured ≤ bs.length) :
    encode addressed structured (if addressed then bs.uintAt 40 30 else 0)
        (if addressed then bs.uintAt 70 2 else 0)
        (if structured then bs.uintAt (slotApplication addressed) 16 else 0) =
      (bs.drop 40).take (slotData addressed structured - 40) := by
  cases addressed <;> cases structured <;> simp [slotData, slotApplication] at h ⊢ <;>
    simp only [encode, if_true, if_false, Bool.false_eq_true, List.nil_append, List.append_nil]
  · rw [Bits.ofInt_uintAt (by omega)]
  · rw [Bits.ofInt_uintAt (by omega), Bits.ofInt_uintAt (by omega), Bits.take_drop_append rfl]
  · rw [Bits.ofInt_uintAt (by omega), Bits.ofInt_uintAt (by omega), Bits.ofInt_uintAt (by omega),
      Bits.take_drop_append rfl, Bits.take_drop_append rfl]

/-- The data stand behind all that was announced. -/
theorem drop_append {first : Bits} (hfirst : first.length = 40) (addressed structured : Bool)
    (destMmsi spare appId : Int) (rest : Bits) :
    (first ++ (encode addressed structured destMmsi spare appId ++ rest)).drop
      (slotData addressed structured) = rest := by
  rw [← List.append_assoc]
  apply List.drop_left'
  rw [List.length_append, hfirst]
  exact length_encode ..

end SlotAddress

theorem fitsSlot_at (addressed structured : Bool) (bs : Bits) :
    FitsSlot addressed structured (if addressed then bs.uintAt 40 30 else 0)
      (if addressed then bs.uintAt 70 2 else 0)
      (if structured then bs.uintAt (slotApplication addressed) 16 else 0) where
  destMmsi := by cases addressed <;> simp [Bits.fitsUnsigned_uintAt]
  spare := by cases addressed <;> simp [Bits.fitsUnsigned_uintAt]
  appId := by cases structured <;> simp [Bits.fitsUnsigned_uintAt]

/-- What fits is read back from behind a head of 40 bits. -/
theorem FitsSlot.read_back {addressed structured : Bool} {destMmsi spare appId : Int}
    (h : FitsSlot addressed structured destMmsi spare appId) {first : Bits}
    (hfirst : first.length = 40) (rest : Bits) :
    let bs := first ++ (SlotAddress.encode addressed structured destMmsi spare appId ++ rest)
    (if addressed then bs.uintAt 40 30 else 0) = destMmsi ∧
      (if addressed then bs.uintAt 70 2 else 0) = spare ∧
      (if structured then bs.uintAt (slotApplication addressed) 16 else 0) = appId := by
  obtain ⟨hdest, hspare, happ⟩ := h
  intro bs
  have happ' : (if structured then bs.uintAt (slotApplication addressed) 16 else 0) = appId := by
    cases structured with
    | false => exact happ.symm
    | true =>
      have hlen : (first ++ if addressed then Bits.ofInt 30 destMmsi ++ Bits.ofInt 2 spare
          else []).length = slotApplication addressed := by
        cases addressed <;> simp [hfirst, slotApplication]
      have := FitsUnsigned.uintAt happ hlen rest
      simpa [bs, SlotAddress.encode] using this
  cases addressed with
  | false => exact ⟨hdest.symm, hspare.symm, happ'⟩
  | true =>
    have hdest' := FitsUnsigned.uintAt hdest hfirst (Bits.ofInt 2 spare ++
      ((if structured then Bits.ofInt 16 appId else []) ++ rest))
    have hlen : (first ++ Bits.ofInt 30 destMmsi).length = 70 := by simp [hfirst]
    have hspare' := FitsUnsigned.uintAt hspare hlen
      ((if structured then Bits.ofInt 16 appId else []) ++ rest)
    refine ⟨?_, ?_, happ'⟩
    · simpa [bs, SlotAddress.encode] using hdest'
    · simpa [bs, SlotAddress.encode] using hspare'

theorem singleSlotBinaryMessage_lawful :
    LawfulRecord SingleSlotBinaryMessage RecordKind.singleSlotBinaryMessage.lengths
      .singleSlotBinaryMessage SingleSlotBinaryMessage.tailAt where
  message_tailAt r bs := rfl
  wellFormed := Layout.wellFormed_of_all rfl
  head_ofHead values := rfl
  head_tailAt r bs := rfl
  type_ofHead bs := rfl
  type_tailAt r bs := rfl
  width_le n hacc := (Lengths.accepts_between.mp hacc).1
  readTail_ok r s h0 hacc hr := by
    have hroom : slotData r.addressed r.structured ≤ s.remaining :=
      Reader.remaining_of_position_eq_zero h0 ▸ hr
    refine ⟨s.skip s.remaining, (SlotAddress.read_skip hroom).trans ?_⟩
    rw [Read.bind_ok (Read.dataBefore_skip (by omega)), Read.pure_apply, Nat.sub_zero,
      List.take_of_length_le (by simp)]
    rfl
  readTail_error r s h0 hacc hr := by
    have hrem := Reader.remaining_of_position_eq_zero h0
    have hle := (Lengths.accepts_between.mp hacc).1
    have hroom : ¬slotData r.addressed r.structured ≤ s.remaining := hrem ▸ hr
    exact SlotAddress.fails_read (by omega) fun h => absurd h hroom
  encodeTail_tailAt r bs _ hacc hr := by
    have h40 := le_slotData r.addressed r.structured
    refine ⟨_, congrArg (fun slot => Except.ok (slot ++ _)) (SlotAddress.encode_at hr), ?_⟩
    let d := slotData r.addressed r.structured
    show bs.take 40 ++ ((bs.drop 40).take (d - 40) ++ bs.drop d) = bs
    rw [Bits.take_drop_append_drop (by omega), List.take_append_drop]
  fitsTail_tailAt r bs _ hacc hr := by
    have hroom : slotData r.addressed r.structured ≤ bs.length := hr
    have hle := (Lengths.accepts_between.mp hacc).2
    refine ⟨fitsSlot_at _ _ bs, ?_⟩
    show slotData r.addressed r.structured + (bs.drop _).length ≤ 168
    rw [List.length_drop]
    omega
  encodeTail_of_fits r hf := by
    obtain ⟨hslot, hdata⟩ := hf
    have hlen := SlotAddress.length_encode r.addressed r.structured r.destMmsi r.spare r.appId
    rw [FitsData, Blob.length] at hdata
    refine ⟨_, rfl, ?_, ?_, fun first hfirst => ?_⟩
    · rw [List.length_append]
      show (Lengths.between 40 168).accepts (40 + _ : Nat) = true
      rw [Lengths.accepts_between]
      omega
    · rw [List.length_append]
      show slotData r.addressed r.structured ≤ 40 + _
      omega
    · obtain ⟨hdest, hspare, happ⟩ := hslot.read_back hfirst r.data.bits
      have hdata := SlotAddress.drop_append hfirst r.addressed r.structured r.destMmsi r.spare
        r.appId r.data.bits
      refine (rfl : _ = r.tailAt _).trans ?_
      rw [SingleSlotBinaryMessage.tailAt, hdest, hspare, happ, hdata]

/-- The communication state makes the last bits of the message. -/
theorem trailer_at {bs : Bits} (h : 20 ≤ bs.length) :
    bs.flagAt (bs.length - 20) :: Bits.ofInt 19 (bs.uintAt (bs.length - 19) 19) =
      bs.drop (bs.length - 20) := by
  have h19 : bs.length - 20 + 1 = bs.length - 19 := by omega
  rw [← List.singleton_append, Bits.singleton_flagAt (by omega), Bits.ofInt_uintAt (by omega),
    Bits.take_drop_append h19, List.take_of_length_le (by simp; omega)]

/-- What fits is read back from behind a head of 40 bits. -/
theorem MultipleSlotBinaryMessage.tailAt_encode {r : MultipleSlotBinaryMessage}
    (hslot : FitsSlot r.addressed r.structured r.destMmsi r.spare r.appId)
    (hradio : FitsUnsigned 19 r.radio) {first : Bits} (hfirst : first.length = 40) :
    r.tailAt (first ++ (SlotAddress.encode r.addressed r.structured r.destMmsi r.spare r.appId ++
      r.data.bits ++ r.radioSelector :: Bits.ofInt 19 r.radio)) = r := by
  let slot := SlotAddress.encode r.addressed r.structured r.destMmsi r.spare r.appId
  let trailer := r.radioSelector :: Bits.ofInt 19 r.radio
  obtain ⟨bs, hbs⟩ : ∃ bs, bs = first ++ (slot ++ (r.data.bits ++ trailer)) := ⟨_, rfl⟩
  have hslotLen : 40 + slot.length = slotData r.addressed r.structured :=
    SlotAddress.length_encode ..
  have htrailer : trailer.length = 20 := by simp [trailer]
  have hlen : bs.length = slotData r.addressed r.structured + r.data.bits.length + 20 := by
    rw [hbs, List.length_append, List.length_append, List.length_append, hfirst, htrailer]
    omega
  obtain ⟨hdest, hspare, happ⟩ := hslot.read_back hfirst (r.data.bits ++ trailer)
  have hrest : bs.drop (slotData r.addressed r.structured) = r.data.bits ++ trailer := by
    rw [hbs]
    exact SlotAddress.drop_append hfirst ..
  have hdata : (bs.take (bs.length - 20)).drop (slotData r.addressed r.structured) = r.data.bits := by
    rw [List.drop_take, hrest, List.take_left' (by omega)]
  have hbefore : (first ++ (slot ++ r.data.bits)).length = bs.length - 20 := by
    rw [List.length_append, List.length_append, hfirst]
    omega
  have hsel : bs.flagAt (bs.length - 20) = r.radioSelector := by
    have := Bits.flagAt_append hbefore trailer 0
    rw [Bits.flagAt_cons] at this
    simpa [hbs] using this
  have hradio' : bs.uintAt (bs.length - 19) 19 = r.radio := by
    have hk : (first ++ (slot ++ r.data.bits) ++ [r.radioSelector]).length = bs.length - 19 := by
      rw [List.length_append, hbefore, List.length_singleton]
      omega
    have := FitsUnsigned.uintAt hradio hk []
    simpa [hbs, trailer] using this
  rw [← hbs] at hdest hspare happ
  rw [List.append_assoc, ← hbs, tailAt, hdest, hspare, happ, hdata, hsel, hradio']

theorem multipleSlotBinaryMessage_lawful :
    LawfulRecord MultipleSlotBinaryMessage RecordKind.multipleSlotBinaryMessage.lengths
      .multipleSlotBinaryMessage MultipleSlotBinaryMessage.tailAt where
  message_tailAt r bs := rfl
  wellFormed := Layout.wellFormed_of_all rfl
  head_ofHead values := rfl
  head_tailAt r bs := rfl
  type_ofHead bs := rfl
  type_tailAt r bs := rfl
  width_le n hacc := (by decide : 40 ≤ 60).trans (Lengths.accepts_between.mp hacc).1
  readTail_ok r s h0 hacc hr := by
    have hroom : slotData r.addressed r.structured + 20 ≤ s.remaining :=
      Reader.remaining_of_position_eq_zero h0 ▸ hr
    have h20 : s.remaining - 20 + 1 = s.remaining - 19 := by omega
    refine ⟨s.skip (s.remaining - 19 + 19), (SlotAddress.read_skip (by omega)).trans ?_⟩
    refine (Read.bind_ok (Read.dataBefore_skip hroom) _).trans ?_
    show (Read.flag >>= fun radioSelector => Read.uint 19 >>= fun radio => pure _)
      (s.skip (s.remaining - 20)) = _
    rw [Read.bind_ok (Read.flag_skip (by omega)), h20, Read.bind_ok (Read.uint_skip (by omega)),
      Read.pure_apply, ← Reader.length_rest]
    rfl
  readTail_error r s h0 hacc hr := by
    have hrem := Reader.remaining_of_position_eq_zero h0
    have hle := (Lengths.accepts_between.mp hacc).1
    have hroom : ¬slotData r.addressed r.structured + 20 ≤ s.remaining := hrem ▸ hr
    refine SlotAddress.fails_read (by omega) fun h _ _ _ => Read.fails_bind ?_ _
    exact Read.fails_dataBefore (Nat.lt_of_not_le hroom) h
  encodeTail_tailAt r bs _ hacc hr := by
    have hroom : slotData r.addressed r.structured + 20 ≤ bs.length := hr
    have h40 := le_slotData r.addressed r.structured
    have hD := Nat.le_of_add_right_le hroom
    refine ⟨_, congrArg (fun slot => Except.ok (slot ++ _ ++ _)) (SlotAddress.encode_at hD), ?_⟩
    let d := slotData r.addressed r.structured
    show bs.take 40 ++ ((bs.drop 40).take (d - 40) ++ (bs.take (bs.length - 20)).drop d ++
      bs.flagAt (bs.length - 20) :: Bits.ofInt 19 (bs.uintAt (bs.length - 19) 19)) = bs
    rw [trailer_at (by omega), List.drop_take, List.append_assoc,
      Bits.take_drop_append_drop (by omega), Bits.take_drop_append_drop (by omega),
      List.take_append_drop]
  fitsTail_tailAt r bs _ hacc hr := by
    have hroom : slotData r.addressed r.structured + 20 ≤ bs.length := hr
    have hle := (Lengths.accepts_between.mp hacc).2
    refine ⟨fitsSlot_at _ _ bs, ?_, Bits.fitsUnsigned_uintAt _ _ _⟩
    show slotData r.addressed r.structured + 20 + ((bs.take _).drop _).length ≤ 1064
    rw [List.length_drop, List.length_take]
    omega
  encodeTail_of_fits r hf := by
    obtain ⟨hslot, hdata, hradio⟩ := hf
    have hlen := SlotAddress.length_encode r.addressed r.structured r.destMmsi r.spare r.appId
    rw [FitsData, Blob.length] at hdata
    have htail : (SlotAddress.encode r.addressed r.structured r.destMmsi r.spare r.appId ++
        r.data.bits ++ r.radioSelector :: Bits.ofInt 19 r.radio).length + 40 =
          slotData r.addressed r.structured + 20 + r.data.bits.length := by
      simp only [List.length_append, List.length_cons, Bits.length_ofInt]
      omega
    refine ⟨_, rfl, ?_, ?_, fun first hfirst => ?_⟩
    · show (Lengths.between 60 1064).accepts (40 + _ : Nat) = true
      rw [Lengths.accepts_between]
      have h40 := le_slotData r.addressed r.structured
      omega
    · show slotData r.addressed r.structured + 20 ≤ 40 + _
      omega
    · exact MultipleSlotBinaryMessage.tailAt_encode hslot hradio hfirst

end AisStation
