import AisStation.Proofs.Record
import AisStation.Message.Decode

/-!
# Decoding by place

The first bits of a message tell its type and with it the records that carry it. After its length is
checked, a message is decoded by place; only the flags of slot messages and the part of a static
data report can still make it fail.
-/

namespace AisStation

/-! ## Armor texts -/

/-- The bits that the characters of an armor text spell, six each. -/
def Armor.bits (text : String) : Bits :=
  text.toList.flatMap fun c => Bits.ofNat 6 ((value? c).getD 0)

theorem Armor.decode_eq_bits {text : String} (h : ∀ c ∈ text.toList, c ∈ alphabet) :
    decode text = .ok (bits text) := by
  obtain ⟨values, hvalues, htext, hdec⟩ := decode_of_forall_mem h
  have hbits : bits text = bitsOf values := by
    rw [bits, htext, List.flatMap_map, bitsOf, List.flatMap_def, List.flatMap_def]
    congr 1
    apply List.map_congr_left
    intro v hv
    rw [value?_char (hvalues v hv), Option.getD_some]
  rw [hdec, hbits]

/-! ## Carriers -/

theorem RecordKind.mem_all (kind : RecordKind) : kind ∈ all := by
  cases kind <;> decide

/-- Records are carried by messages of their own types. -/
theorem Carrier.ofType?_of_mem {kind : RecordKind} {t : Int} (h : t ∈ kind.types) :
    ∃ carrier, Carrier.ofType? t = some carrier ∧ carrier.carries kind = true := by
  have hall : ∀ kind ∈ RecordKind.all, ∀ t ∈ kind.types,
      (Carrier.ofType? t).any (·.carries kind) = true := by decide
  exact (Option.any_eq_true _ _).mp (hall kind kind.mem_all t h)

/-- No message is shorter than forty bits. -/
theorem RecordKind.le_of_accepts {kind : RecordKind} {n : Nat}
    (h : kind.lengths.accepts n = true) : 40 ≤ n := by
  cases kind <;> simp [RecordKind.lengths, Lengths.accepts] at h <;> omega

/-- A record that carries messages of a type has that type among its own. -/
theorem Carrier.mem_types_of_ofType? {kind : RecordKind} {t : Int}
    (h : Carrier.ofType? t = some (.record kind)) :
    t ∈ kind.types ∧ ¬Carrier.staticData.carries kind = true := by
  unfold Carrier.ofType? at h
  split at h
  · exact absurd (Option.some.inj h) (by simp)
  · rename_i ht
    obtain ⟨kind', hfind, hkind⟩ := Option.map_eq_some_iff.mp h
    obtain rfl := Carrier.record.inj hkind
    have hmem : t ∈ kind'.types := by simpa using List.find?_some hfind
    refine ⟨hmem, fun hstatic => ht ?_⟩
    rcases Bool.or_eq_true_iff.mp hstatic with hk | hk
    · rw [beq_iff_eq.mp hk] at hmem
      exact List.mem_singleton.mp hmem
    · rw [beq_iff_eq.mp hk] at hmem
      exact List.mem_singleton.mp hmem

theorem Carrier.eq_of_ofType?_staticData {t : Int} (h : Carrier.ofType? t = some .staticData) :
    t = 24 := by
  unfold Carrier.ofType? at h
  split at h
  · assumption
  · obtain ⟨kind, -, hkind⟩ := Option.map_eq_some_iff.mp h
    contradiction

namespace Decode

/-! ## Steps -/

variable {α β : Type} {s s' : Reader}

theorem bind_ok {x : Decode α} {a : α} (h : x s = .ok a s') (f : α → Decode β) :
    (x >>= f) s = f a s' := by
  simp [bind, EStateM.bind, h]

theorem bind_error {x : Decode α} {error : CodecError} (h : x s = .error error s')
    (f : α → Decode β) : (x >>= f) s = .error error s' := by
  simp [bind, EStateM.bind, h]

theorem ofRead_ok {x : Read α} {a : α} (h : x s = .ok a s') : ofRead x s = .ok a s' := by
  simp [ofRead, EStateM.adaptExcept, h]

theorem ofRead_error {x : Read α} {why : Malformed} (h : x s = .error why s') :
    ofRead x s = .error (.malformed why) s' := by
  simp [ofRead, EStateM.adaptExcept, h]

/-- The type of a message is told by its first six bits. -/
theorem messageType_ok (h0 : s.position = 0) (h6 : 6 ≤ s.length) :
    messageType s = .ok (s.rest.uintAt 0 6).toNat s := by
  have hpeek := Read.peek_skip (k := 0) h0 (by omega : 0 + 6 ≤ s.length)
  rw [Reader.skip_zero] at hpeek
  exact ofRead_ok hpeek

/-- Without six bits there is no type. -/
theorem messageType_error (h6 : s.length < 6) :
    ∃ why, why.IsTold ∧ messageType s = .error (.malformed why) s := by
  refine ⟨.peekOutside 6 0 s.length, ?_, ofRead_error ?_⟩
  · have htold : ∀ n ∈ (Malformed.peekOutside 6 0 s.length).numbers, Text.IsWritable n :=
      List.forall_mem_cons.mpr ⟨Text.isWritable_of_lt (by decide),
        List.forall_mem_singleton.mpr (Text.isWritable_of_lt (by decide))⟩
    exact Malformed.isTold_iff.mpr htold
  · have hpeek := Reader.window_outside (r := s) (by omega : s.length < 0 + 6)
    simp only [Read.peek, hpeek]
    rfl

/-! ## Records -/

/-- The check of a length lets a message pass or tells its type and length. -/
theorem checkLength_ok {lengths : Lengths} {t : Int} (h : lengths.accepts s.length = true) :
    checkLength lengths t s = .ok () s := by
  simp only [checkLength, Lengths.check, h, if_true]

theorem checkLength_error {lengths : Lengths} {t : Int} (h : ¬lengths.accepts s.length = true) :
    checkLength lengths t s = .error (.wrongLength t s.length lengths) s := by
  simp only [checkLength, Lengths.check, if_neg h]

variable {kind : RecordKind}

/-- With a length of its kind and room for all that is announced, a record is decoded by place. -/
theorem record_ok (h0 : s.position = 0) (h6 : 6 ≤ s.length)
    (hacc : kind.lengths.accepts s.length = true)
    (hroom : (kind.headAt s.rest).HasRoom s.length) :
    ∃ s', record kind s = .ok (kind.messageAt s.rest) s' := by
  obtain ⟨s', hread⟩ := RecordKind.read_ok h0 hacc hroom
  refine ⟨s', ?_⟩
  rw [record, bind_ok (messageType_ok h0 h6), bind_ok (checkLength_ok hacc), ofRead_ok hread]

theorem record_wrongLength (h0 : s.position = 0) (h6 : 6 ≤ s.length)
    (hacc : ¬kind.lengths.accepts s.length = true) :
    record kind s =
      .error (.wrongLength (s.rest.uintAt 0 6).toNat s.length kind.lengths) s := by
  rw [record, bind_ok (messageType_ok h0 h6), bind_error (checkLength_error hacc)]

theorem record_malformed (h0 : s.position = 0) (h6 : 6 ≤ s.length)
    (hacc : kind.lengths.accepts s.length = true)
    (hroom : ¬(kind.headAt s.rest).HasRoom s.length) :
    ∃ why s', why.IsTold ∧ record kind s = .error (.malformed why) s' := by
  obtain ⟨why, s', htold, hread⟩ := RecordKind.read_error h0 hacc hroom
  refine ⟨why, s', htold, ?_⟩
  rw [record, bind_ok (messageType_ok h0 h6), bind_ok (checkLength_ok hacc), ofRead_error hread]

/-- A record that is decoded is that by place. -/
theorem record_eq_ok (h0 : s.position = 0) (h6 : 6 ≤ s.length) {m : Message}
    (h : record kind s = .ok m s') :
    kind.lengths.accepts s.length = true ∧ (kind.headAt s.rest).HasRoom s.length ∧
      m = kind.messageAt s.rest := by
  by_cases hacc : kind.lengths.accepts s.length = true
  · by_cases hroom : (kind.headAt s.rest).HasRoom s.length
    · obtain ⟨s'', hm⟩ := record_ok h0 h6 hacc hroom
      rw [h] at hm
      injection hm with hm
      exact ⟨hacc, hroom, hm⟩
    · obtain ⟨why, s'', -, hm⟩ := record_malformed h0 h6 hacc hroom
      rw [h] at hm
      contradiction
  · rw [record_wrongLength h0 h6 hacc] at h
    contradiction

/-! ## Static data reports -/

/-- The kind of records of a part of the static data report. -/
def partKind? : Nat → Option RecordKind
  | 0 => some .staticDataReportPartA
  | 1 => some .staticDataReportPartB
  | _ => none

theorem mem_types_of_partKind? {part : Nat} (h : partKind? part = some kind) :
    24 ∈ kind.types := by
  rcases part with _ | _ | part
  · obtain rfl := Option.some.inj h
    decide
  · obtain rfl := Option.some.inj h
    decide
  · contradiction

/-- A static data report is decoded as a record of its part, if there is such a part. -/
theorem staticData_part (h0 : s.position = 0)
    (hacc : Carrier.staticData.lengths.accepts s.length = true) :
    staticData s = match partKind? (s.rest.uintAt 38 2).toNat with
      | some kind => record kind s
      | none => .error (.malformed (.undefinedPart (s.rest.uintAt 38 2).toNat)) s := by
  have hlen : s.length = 160 ∨ s.length = 168 := by
    simp [Carrier.lengths, Lengths.accepts] at hacc
    omega
  have hpeek := Read.peek_skip (k := 0) h0 (by omega : 38 + 2 ≤ s.length)
  rw [Reader.skip_zero] at hpeek
  rw [staticData, bind_ok (checkLength_ok hacc), bind_ok (ofRead_ok hpeek)]
  rcases (s.rest.uintAt 38 2).toNat with _ | _ | part <;> rfl

theorem staticData_wrongLength (hacc : ¬Carrier.staticData.lengths.accepts s.length = true) :
    staticData s = .error (.wrongLength 24 s.length Carrier.staticData.lengths) s := by
  rw [staticData, bind_error (checkLength_error hacc)]

/-! ## Messages -/

theorem message_carried (h0 : s.position = 0) (h6 : 6 ≤ s.length) {carrier : Carrier}
    (hc : Carrier.ofType? (s.rest.uintAt 0 6).toNat = some carrier) :
    message s = carried carrier s := by
  rw [message, bind_ok (messageType_ok h0 h6), hc]

theorem message_unknown (h0 : s.position = 0) (h6 : 6 ≤ s.length)
    (hc : Carrier.ofType? (s.rest.uintAt 0 6).toNat = none) :
    message s = .error (.unknownType (s.rest.uintAt 0 6).toNat) s := by
  rw [message, bind_ok (messageType_ok h0 h6), hc]
  rfl

/-- A message of a registered kind is decoded by place. -/
theorem message_ok (h0 : s.position = 0) (h6 : 6 ≤ s.length) {carrier : Carrier}
    (hc : Carrier.ofType? (s.rest.uintAt 0 6).toNat = some carrier)
    (hcarries : carrier.carries kind = true)
    (hpart : carrier = .staticData → partKind? (s.rest.uintAt 38 2).toNat = some kind)
    (hacc : kind.lengths.accepts s.length = true)
    (hroom : (kind.headAt s.rest).HasRoom s.length) :
    ∃ s', message s = .ok (kind.messageAt s.rest) s' := by
  rw [message_carried h0 h6 hc]
  cases carrier with
  | record kind' =>
    have hkind : kind' = kind := beq_iff_eq.mp hcarries
    rw [hkind]
    exact record_ok h0 h6 hacc hroom
  | staticData =>
    have hlengths : Carrier.staticData.lengths.accepts s.length = true := by
      rcases Bool.or_eq_true_iff.mp hcarries with hkind | hkind
      · rw [beq_iff_eq.mp hkind] at hacc
        simp [RecordKind.lengths, Carrier.lengths, Lengths.accepts] at hacc ⊢
        exact .inl hacc
      · rw [beq_iff_eq.mp hkind] at hacc
        simp [RecordKind.lengths, Carrier.lengths, Lengths.accepts] at hacc ⊢
        exact .inr hacc
    rw [carried, staticData_part h0 hlengths, hpart rfl]
    exact record_ok h0 h6 hacc hroom

/-- A part of a static data report that is told by its bits says which part it is. -/
theorem fitsPart_messageAt {bs : Bits}
    (h : Carrier.staticData.carries kind = true →
      partKind? (bs.uintAt 38 2).toNat = some kind) : (kind.messageAt bs).FitsPart := by
  have hpos := bs.uintAt_nonneg 38 2
  cases kind with
  | staticDataReportPartA =>
    have hpart := h rfl
    show bs.uintAt 38 2 = 0
    generalize bs.uintAt 38 2 = part at hpart hpos
    obtain ⟨n, rfl⟩ := Int.eq_ofNat_of_zero_le hpos
    match n with
    | 0 => rfl
    | 1 => contradiction
    | _ + 2 => contradiction
  | staticDataReportPartB =>
    have hpart := h rfl
    show bs.uintAt 38 2 = 1
    generalize bs.uintAt 38 2 = part at hpart hpos
    obtain ⟨n, rfl⟩ := Int.eq_ofNat_of_zero_le hpos
    match n with
    | 0 => contradiction
    | 1 => rfl
    | _ + 2 => contradiction
  | _ => trivial

/-- A message that is decoded is one by place, and of a kind that carries its type and part. -/
theorem message_eq_ok (h0 : s.position = 0) {m : Message} (h : message s = .ok m s') :
    ∃ kind : RecordKind, kind.lengths.accepts s.length = true ∧
      (kind.headAt s.rest).HasRoom s.length ∧ m = kind.messageAt s.rest ∧
        m.messageType ∈ kind.types ∧ m.FitsPart := by
  have h6 : 6 ≤ s.length := by
    by_contra hlt
    obtain ⟨why, -, htype⟩ := messageType_error (s := s) (by omega)
    rw [message, bind_error htype] at h
    contradiction
  have htype (kind : RecordKind) :
      (kind.messageAt s.rest).messageType = (s.rest.uintAt 0 6).toNat := by
    rw [RecordKind.messageType_messageAt, Int.toNat_of_nonneg (s.rest.uintAt_nonneg 0 6)]
  cases hc : Carrier.ofType? (s.rest.uintAt 0 6).toNat with
  | none =>
    rw [message_unknown h0 h6 hc] at h
    contradiction
  | some carrier =>
    rw [message_carried h0 h6 hc] at h
    cases carrier with
    | record kind =>
      obtain ⟨hacc, hroom, rfl⟩ := record_eq_ok h0 h6 h
      obtain ⟨hmem, hstatic⟩ := Carrier.mem_types_of_ofType? hc
      refine ⟨kind, hacc, hroom, rfl, ?_, fitsPart_messageAt fun h => absurd h hstatic⟩
      rw [htype]
      exact hmem
    | staticData =>
      by_cases hstatic : Carrier.staticData.lengths.accepts s.length = true
      · rw [carried, staticData_part h0 hstatic] at h
        cases hpart : partKind? (s.rest.uintAt 38 2).toNat with
        | none =>
          rw [hpart] at h
          contradiction
        | some kind =>
          rw [hpart] at h
          obtain ⟨hacc, hroom, rfl⟩ := record_eq_ok h0 h6 h
          refine ⟨kind, hacc, hroom, rfl, ?_, fitsPart_messageAt fun _ => hpart⟩
          rw [htype, Carrier.eq_of_ofType?_staticData hc]
          exact mem_types_of_partKind? hpart
      · rw [carried, staticData_wrongLength hstatic] at h
        contradiction

/-! ## Failures -/

theorem record_told (h0 : s.position = 0) (h6 : 6 ≤ s.length) {error : CodecError}
    (h : record kind s = .error error s') : DecodeError.raised error = .codec error := by
  by_cases hacc : kind.lengths.accepts s.length = true
  · by_cases hroom : (kind.headAt s.rest).HasRoom s.length
    · obtain ⟨s'', hm⟩ := record_ok h0 h6 hacc hroom
      rw [h] at hm
      contradiction
    · obtain ⟨why, s'', htold, hm⟩ := record_malformed h0 h6 hacc hroom
      rw [h] at hm
      rw [(EStateM.Result.error.inj hm).1, DecodeError.raised_of_isTold htold]
  · rw [record_wrongLength h0 h6 hacc] at h
    rw [← (EStateM.Result.error.inj h).1]
    rfl

/-- From the start of a message, no failure has a number that is too long to be told. -/
theorem message_told (h0 : s.position = 0) {error : CodecError}
    (h : message s = .error error s') : DecodeError.raised error = .codec error := by
  by_cases h6 : s.length < 6
  · obtain ⟨why, htold, htype⟩ := messageType_error h6
    rw [message, bind_error htype] at h
    rw [← (EStateM.Result.error.inj h).1, DecodeError.raised_of_isTold htold]
  · rw [Nat.not_lt] at h6
    cases hc : Carrier.ofType? (s.rest.uintAt 0 6).toNat with
    | none =>
      have hlt := s.rest.uintAt_lt 0 6
      rw [message_unknown h0 h6 hc] at h
      rw [← (EStateM.Result.error.inj h).1]
      exact DecodeError.raised_unknownType (Text.isWritable_of_lt (by omega))
    | some carrier =>
      rw [message_carried h0 h6 hc] at h
      cases carrier with
      | record kind => exact record_told h0 h6 h
      | staticData =>
        by_cases hstatic : Carrier.staticData.lengths.accepts s.length = true
        · rw [carried, staticData_part h0 hstatic] at h
          cases hpart : partKind? (s.rest.uintAt 38 2).toNat with
          | none =>
            rw [hpart] at h
            rw [← (EStateM.Result.error.inj h).1]
            rfl
          | some kind =>
            rw [hpart] at h
            exact record_told h0 h6 h
        · rw [carried, staticData_wrongLength hstatic] at h
          rw [← (EStateM.Result.error.inj h).1]
          rfl

end Decode

/-- What is raised in place of a failure is no message. -/
theorem decode_eq_ok_iff_result {text : String} {declared : Option Int} {m : Message} :
    decode text declared = .ok m ↔ Decode.result text declared = .ok m := by
  rw [decode]
  cases Decode.result text declared <;> simp [Except.mapError]

/-- What is decoded from armor is what is decoded from its declared bits. -/
theorem decode_eq_ok_iff {text : String} {declared : Option Int} {s : Reader}
    (hs : Reader.ofArmor text declared = .ok s) {m : Message} :
    decode text declared = .ok m ↔ ∃ s', Decode.message s = .ok m s' := by
  rw [decode_eq_ok_iff_result]
  simp only [Decode.result, Decode.ofArmor, hs]
  constructor
  · intro h
    split at h
    · rename_i m' s' hm
      exact ⟨s', by rw [hm, Except.ok.inj h]⟩
    · contradiction
  · rintro ⟨s', hm⟩
    rw [hm]

/-- The part of a static data report stands in its bits. -/
theorem Message.partKind?_of_fitsPart {m : Message} {bs : Bits} (hpart : m.FitsPart)
    (hback : m.kind.messageAt bs = m)
    (hcarries : Carrier.staticData.carries m.kind = true) :
    Decode.partKind? (bs.uintAt 38 2).toNat = some m.kind := by
  cases m with
  | staticDataReportPartA r =>
    have hr : bs.uintAt 38 2 = r.partNumber :=
      congrArg StaticDataReportPartA.partNumber (Message.staticDataReportPartA.inj hback)
    rw [hr, show r.partNumber = 0 from hpart]
    rfl
  | staticDataReportPartB r =>
    have hr : bs.uintAt 38 2 = r.partNumber :=
      congrArg StaticDataReportPartB.partNumber (Message.staticDataReportPartB.inj hback)
    rw [hr, show r.partNumber = 1 from hpart]
    rfl
  | _ => exact absurd hcarries Bool.false_ne_true

end AisStation
