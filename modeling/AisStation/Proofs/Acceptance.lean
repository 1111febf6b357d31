import AisStation.Proofs.Decoding
import Mathlib.Tactic.IntervalCases

/-!
# Accepted messages

How decoding ends, told by the characters of the armor text, the declared length, the type in the
first six bits, and the few flags on which the length of a message depends. Nothing else matters: no
field runs out of bits once the length is accepted. Only a declared length that is out of place and
too long to be written makes decoding end in another way.
-/

namespace AisStation

/-- The ways in which decoding ends. A length that is refused is reported with its type, a message
that is decoded is one of its class; a number that is too long to be told leaves nothing to report.
-/
inductive Outcome
  | unwritable
  | malformed
  | unknownType (messageType : Int)
  | wrongLength (messageType length : Int)
  | decoded (kind : RecordKind)
deriving DecidableEq, Repr

/-- The way in which a failure ends decoding. -/
def Outcome.ofFailure : CodecError → Outcome
  | .malformed _ => malformed
  | .unknownType messageType => unknownType messageType
  | .wrongLength messageType length _ => wrongLength messageType length

/-- The way in which decoding ended. -/
def Outcome.of : Except DecodeError Message → Outcome
  | .ok m => decoded m.kind
  | .error (.codec error) => ofFailure error
  | .error .unwritable => unwritable

/-- The class of the records of a message type. -/
def classOf (messageType part : Nat) : RecordKind :=
  match messageType with
  | 1 | 2 | 3 => .positionReport
  | 4 | 11 => .baseStationReport
  | 5 => .staticAndVoyageData
  | 6 => .addressedBinaryMessage
  | 7 | 13 => .binaryAcknowledge
  | 8 => .binaryBroadcastMessage
  | 9 => .sarAircraftPositionReport
  | 10 => .utcDateInquiry
  | 12 => .addressedSafetyMessage
  | 14 => .safetyBroadcastMessage
  | 15 => .interrogation
  | 16 => .assignedModeCommand
  | 17 => .dgnssBroadcast
  | 18 => .standardClassBPositionReport
  | 19 => .extendedClassBPositionReport
  | 20 => .dataLinkManagement
  | 21 => .aidToNavigationReport
  | 22 => .channelManagement
  | 23 => .groupAssignmentCommand
  | 24 => if part = 0 then .staticDataReportPartA else .staticDataReportPartB
  | 25 => .singleSlotBinaryMessage
  | 26 => .multipleSlotBinaryMessage
  | 27 => .longRangeBroadcast
  | _ => .bareMessage

/-- The lengths that messages of a type may have. -/
def AllowedLength (messageType part n : Nat) : Prop :=
  match messageType with
  | 1 | 2 | 3 | 4 | 9 | 11 | 18 | 22 => n = 168
  | 5 => n = 424
  | 6 => 88 ≤ n ∧ n ≤ 1008
  | 7 | 13 => n = 72 ∨ n = 104 ∨ n = 136 ∨ n = 168
  | 8 => 56 ≤ n ∧ n ≤ 1008
  | 10 => n = 72
  | 12 => 72 ≤ n ∧ n ≤ 1008
  | 14 => 40 ≤ n ∧ n ≤ 1008
  | 15 => n = 88 ∨ n = 110 ∨ n = 160
  | 16 => n = 96 ∨ n = 144
  | 17 => 80 ≤ n ∧ n ≤ 816
  | 19 => n = 312
  | 20 => n = 72 ∨ n = 104 ∨ n = 136 ∨ n = 160
  | 21 => 272 ≤ n ∧ n ≤ 360
  | 23 => n = 160
  | 24 => (n = 160 ∨ n = 168) ∧ (part = 0 → n = 160) ∧ (part = 1 → n = 168)
  | 25 => 40 ≤ n ∧ n ≤ 168
  | 26 => 60 ≤ n ∧ n ≤ 1064
  | 27 => n = 96
  | _ => False

instance (messageType part n : Nat) : Decidable (AllowedLength messageType part n) := by
  unfold AllowedLength
  split <;> infer_instance

/-- A message of an allowed length that lacks what its bits announce: a part of the static data
report that does not exist, or a slot message too short for its addressing fields. -/
def Lacking (messageType part addressed structured n : Nat) : Prop :=
  messageType = 24 ∧ 2 ≤ part ∨ messageType = 25 ∧ n < 40 + 32 * addressed + 16 * structured ∨
    messageType = 26 ∧ n < 60 + 32 * addressed + 16 * structured

instance (messageType part addressed structured n : Nat) :
    Decidable (Lacking messageType part addressed structured n) :=
  inferInstanceAs (Decidable (_ ∨ _ ∨ _))

/-- How decoding the declared bits has to end. -/
def Outcome.ofBits (bs : Bits) : Outcome :=
  let messageType := (bs.uintAt 0 6).toNat
  let part := (bs.uintAt 38 2).toNat
  let addressed := (bs.uintAt 38 1).toNat
  let structured := (bs.uintAt 39 1).toNat
  if bs.length < 6 then malformed
  else if messageType = 0 ∨ 28 ≤ messageType then unknownType messageType
  else if ¬AllowedLength messageType part bs.length then wrongLength messageType bs.length
  else if Lacking messageType part addressed structured bs.length then malformed
  else decoded (classOf messageType part)

/-- How decoding an armor text with a declared length has to end. Without one, all of its bits are
declared. -/
def Outcome.expected (text : String) (declared : Option Int) : Outcome :=
  let n := declared.getD (6 * text.length)
  if (∃ c ∈ text.toList, c ∉ Armor.alphabet) ∨ n < 0 ∨ 6 * text.length < n then malformed
  else ofBits ((Armor.bits text).take n.toNat)

/-- A text of armor is declared to have less bits than none, or more than it has, by a number that
is too long to be written. -/
def Untold (text : String) (declared : Option Int) : Prop :=
  let n := declared.getD (6 * text.length)
  (∀ c ∈ text.toList, c ∈ Armor.alphabet) ∧ (n < 0 ∨ 6 * text.length < n) ∧ ¬Text.IsWritable n

instance (text : String) (declared : Option Int) : Decidable (Untold text declared) :=
  inferInstanceAs (Decidable (_ ∧ _ ∧ ¬_))

/-! ## Classes and lengths -/

/-- The types from 1 to 27 are registered. -/
theorem ofType?_eq {t : Nat} (h : t < 64) :
    Carrier.ofType? t = if t = 0 ∨ 28 ≤ t then none else if t = 24 then some .staticData
      else some (.record (classOf t 0)) := by
  have hall : ∀ t < 64, Carrier.ofType? (t : Nat) = if t = 0 ∨ 28 ≤ t then none
      else if t = 24 then some .staticData else some (.record (classOf t 0)) := by decide
  exact hall t h

/-- Only the class of static data reports depends on the part. -/
theorem classOf_eq {t : Nat} (h : t ≠ 24) (part : Nat) : classOf t part = classOf t 0 := by
  unfold classOf
  split <;> first | rfl | exact absurd rfl h

/-- The lengths of a class are those of its types. -/
theorem accepts_classOf {t : Nat} (h0 : t ≠ 0) (h28 : t < 28) (h24 : t ≠ 24) (part n : Nat) :
    (classOf t 0).lengths.accepts n = true ↔ AllowedLength t part n := by
  have hpos : 1 ≤ t := Nat.pos_of_ne_zero h0
  interval_cases t
  case «24» => exact absurd rfl h24
  all_goals
    simp [classOf, RecordKind.lengths, Lengths.accepts, AllowedLength]
    try omega

/-- The lengths of the two parts of a static data report. -/
theorem accepts_staticData {part : Nat} (h : part < 2) (n : Nat) :
    (classOf 24 part).lengths.accepts n = true ↔ AllowedLength 24 part n := by
  interval_cases part
  all_goals
    simp [classOf, RecordKind.lengths, Lengths.accepts, AllowedLength]
    omega

/-- A flag as a number. -/
theorem toNat_uintAt_one (bs : Bits) (offset : Nat) :
    (bs.uintAt offset 1).toNat = (bs.flagAt offset).toNat := by
  have h0 := bs.uintAt_nonneg offset 1
  have h2 := bs.uintAt_lt offset 1
  rw [Bits.flagAt]
  generalize bs.uintAt offset 1 = n at h0 h2
  obtain rfl | rfl : n = 0 ∨ n = 1 := by omega
  · rfl
  · rfl

/-- The place of the data of a slot message, by the two bits that announce what comes before. -/
theorem slotData_flagAt (bs : Bits) :
    slotData (bs.flagAt 38) (bs.flagAt 39) =
      40 + 32 * (bs.uintAt 38 1).toNat + 16 * (bs.uintAt 39 1).toNat := by
  rw [toNat_uintAt_one, toNat_uintAt_one]
  cases bs.flagAt 38 <;> cases bs.flagAt 39 <;> rfl

/-- Only slot messages can lack room. -/
theorem hasRoom_classOf {t : Nat} (h24 : t ≠ 24) (part : Nat) (bs : Bits) (n : Nat) :
    ((classOf t 0).headAt bs).HasRoom n ↔
      ¬Lacking t part (bs.uintAt 38 1).toNat (bs.uintAt 39 1).toNat n := by
  have hslot := slotData_flagAt bs
  by_cases h25 : t = 25
  · have hroom : ((classOf t 0).headAt bs).HasRoom n ↔
        slotData (bs.flagAt 38) (bs.flagAt 39) ≤ n := by
      rw [h25]
      exact Iff.rfl
    rw [hroom, Lacking]
    omega
  · by_cases h26 : t = 26
    · have hroom : ((classOf t 0).headAt bs).HasRoom n ↔
          slotData (bs.flagAt 38) (bs.flagAt 39) + 20 ≤ n := by
        rw [h26]
        exact Iff.rfl
      rw [hroom, Lacking]
      omega
    · refine iff_of_true ?_ (by rw [Lacking]; omega)
      unfold classOf
      split <;> first | exact absurd rfl h25 | exact absurd rfl h26 | exact absurd rfl h24 | trivial

/-! ## Decoding -/

/-- The way in which a computation that decodes a message ended. -/
def Outcome.ofResult : EStateM.Result CodecError Reader Message → Outcome
  | .ok m _ => decoded m.kind
  | .error error _ => ofFailure error

/-- A record is decoded if its length is one of its class and it has room for all it announces. -/
theorem ofResult_record {s : Reader} (h0 : s.position = 0) (h6 : 6 ≤ s.length) (kind : RecordKind) :
    Outcome.ofResult (Decode.record kind s) =
      if ¬kind.lengths.accepts s.length = true then
        .wrongLength (s.rest.uintAt 0 6).toNat s.length
      else if ¬(kind.headAt s.rest).HasRoom s.length then .malformed else .decoded kind := by
  by_cases hacc : kind.lengths.accepts s.length = true
  · rw [if_neg (not_not.mpr hacc)]
    by_cases hroom : (kind.headAt s.rest).HasRoom s.length
    · obtain ⟨s', h⟩ := Decode.record_ok h0 h6 hacc hroom
      rw [h, if_neg (not_not.mpr hroom), Outcome.ofResult, RecordKind.kind_messageAt]
    · obtain ⟨why, s', -, h⟩ := Decode.record_malformed h0 h6 hacc hroom
      rw [h, if_pos hroom]
      rfl
  · rw [if_pos hacc, Decode.record_wrongLength h0 h6 hacc]
    rfl

/-- A part of a static data report lacks nothing. -/
theorem ofResult_part {s : Reader} (h0 : s.position = 0) (h6 : 6 ≤ s.length)
    (h24 : (s.rest.uintAt 0 6).toNat = 24) {part addressed structured : Nat} (kind : RecordKind)
    (hroom : (kind.headAt s.rest).HasRoom s.length)
    (hlacking : ¬Lacking 24 part addressed structured s.length)
    (hacc : kind.lengths.accepts s.length = true ↔ AllowedLength 24 part s.length)
    (hclass : classOf 24 part = kind) :
    Outcome.ofResult (Decode.record kind s) =
      if ¬AllowedLength 24 part s.length then .wrongLength 24 s.length
      else if Lacking 24 part addressed structured s.length then .malformed
      else .decoded (classOf 24 part) := by
  rw [ofResult_record h0 h6, h24, if_neg (not_not.mpr hroom), if_neg hlacking, hclass]
  simp only [hacc]
  rfl

/-- A static data report is decoded if its length is that of its part. -/
theorem ofResult_staticData {s : Reader} (h0 : s.position = 0) (h6 : 6 ≤ s.length)
    (h24 : (s.rest.uintAt 0 6).toNat = 24) (addressed structured : Nat) :
    Outcome.ofResult (Decode.staticData s) =
      if ¬AllowedLength 24 (s.rest.uintAt 38 2).toNat s.length then .wrongLength 24 s.length
      else if Lacking 24 (s.rest.uintAt 38 2).toNat addressed structured s.length then .malformed
      else .decoded (classOf 24 (s.rest.uintAt 38 2).toNat) := by
  have hstatic : Carrier.staticData.lengths.accepts s.length = true ↔
      s.length = 160 ∨ s.length = 168 := by
    simp [Carrier.lengths, Lengths.accepts]
    omega
  by_cases hlen : s.length = 160 ∨ s.length = 168
  · rw [Decode.staticData_part h0 (hstatic.mpr hlen)]
    rcases (s.rest.uintAt 38 2).toNat with _ | _ | part
    · have hacc := accepts_staticData (by decide : 0 < 2) s.length
      exact ofResult_part h0 h6 h24 .staticDataReportPartA trivial (by simp [Lacking]) hacc rfl
    · have hacc := accepts_staticData (by decide : 1 < 2) s.length
      exact ofResult_part h0 h6 h24 .staticDataReportPartB trivial (by simp [Lacking]) hacc rfl
    · have hallowed : AllowedLength 24 (part + 2) s.length := ⟨hlen, by omega, by omega⟩
      rw [if_neg (not_not.mpr hallowed), if_pos (.inl ⟨rfl, by omega⟩)]
      rfl
  · rw [Decode.staticData_wrongLength (mt hstatic.mp hlen), if_pos fun h => hlen h.1]
    rfl

/-- Decoding from the start of a message ends as its bits tell. -/
theorem ofResult_message {s : Reader} (h0 : s.position = 0) :
    Outcome.ofResult (Decode.message s) = Outcome.ofBits s.rest := by
  have hrest : s.rest.length = s.length := by
    rw [Reader.length_rest, Reader.remaining_of_position_eq_zero h0]
  simp only [Outcome.ofBits, hrest]
  by_cases h6 : s.length < 6
  · obtain ⟨why, -, h⟩ := Decode.messageType_error h6
    rw [if_pos h6, Decode.message, Decode.bind_error h]
    rfl
  · rw [if_neg h6]
    rw [Nat.not_lt] at h6
    have hlt : (s.rest.uintAt 0 6).toNat < 64 := by
      have := s.rest.uintAt_lt 0 6
      have := s.rest.uintAt_nonneg 0 6
      omega
    have hcarrier := ofType?_eq hlt
    by_cases hunknown : (s.rest.uintAt 0 6).toNat = 0 ∨ 28 ≤ (s.rest.uintAt 0 6).toNat
    · rw [if_pos hunknown] at hcarrier
      rw [if_pos hunknown, Decode.message_unknown h0 h6 hcarrier]
      rfl
    · rw [if_neg hunknown] at hcarrier
      rw [if_neg hunknown]
      by_cases h24 : (s.rest.uintAt 0 6).toNat = 24
      · rw [if_pos h24] at hcarrier
        rw [Decode.message_carried h0 h6 hcarrier, Decode.carried, ofResult_staticData h0 h6 h24,
          h24]
        rfl
      · rw [if_neg h24] at hcarrier
        rw [Decode.message_carried h0 h6 hcarrier, Decode.carried, ofResult_record h0 h6]
        have hacc := accepts_classOf (fun h => hunknown (.inl h)) (by omega) h24
          (s.rest.uintAt 38 2).toNat s.length
        have hroom := hasRoom_classOf h24 (s.rest.uintAt 38 2).toNat s.rest s.length
        simp only [hacc, hroom, not_not, classOf_eq h24 (s.rest.uintAt 38 2).toNat]

/-- An armor text is opened, or it has a character that is no armor, or the declared length is out
of place. -/
theorem Reader.ofArmor_cases (text : String) (declared : Option Int) :
    ((∃ c ∈ text.toList, c ∉ Armor.alphabet) ∧
        ∃ why, why.IsTold ∧ ofArmor text declared = .error why) ∨
      ((∀ c ∈ text.toList, c ∈ Armor.alphabet) ∧
        (declared.getD (6 * text.length) < 0 ∨
          (6 * text.length : Int) < declared.getD (6 * text.length)) ∧
        ofArmor text declared =
          .error (.overdeclared (declared.getD (6 * text.length)) (6 * text.length))) ∨
      ((∀ c ∈ text.toList, c ∈ Armor.alphabet) ∧
        ¬(declared.getD (6 * text.length) < 0 ∨
          (6 * text.length : Int) < declared.getD (6 * text.length)) ∧
        ∃ s, ofArmor text declared = .ok s ∧ s.position = 0 ∧
          s.rest = (Armor.bits text).take (declared.getD (6 * text.length)).toNat) := by
  by_cases hall : ∀ c ∈ text.toList, c ∈ Armor.alphabet
  · have hdec := Armor.decode_eq_bits hall
    have hlen := Armor.length_of_decode hdec
    have hbits : ((Armor.bits text).length : Int) = 6 * text.length := by
      rw [hlen]
      push_cast
      rfl
    by_cases hn : declared.getD (6 * text.length) < 0 ∨
        (6 * text.length : Int) < declared.getD (6 * text.length)
    · have hs := ofArmor_error hdec (by rwa [hbits])
      rw [hbits, hlen] at hs
      exact .inr (.inl ⟨hall, hn, hs⟩)
    · obtain ⟨n, hn'⟩ := Int.eq_ofNat_of_zero_le (by omega : 0 ≤ declared.getD (6 * text.length))
      have hdeclared : declared.getD (Armor.bits text).length = n := by rw [hbits, hn']
      obtain ⟨s, hs, h0, -, hrest⟩ := ofArmor_ok hdec hdeclared (by omega)
      rw [hn', Int.toNat_natCast]
      exact .inr (.inr ⟨hall, hn' ▸ hn, s, hs, h0, hrest⟩)
  · obtain ⟨why, htold, hdec⟩ := Armor.decode_of_not_mem hall
    refine .inl ⟨by simpa using hall, why, htold, ?_⟩
    rw [ofArmor, hdec]
    rfl

section

variable {text : String} {declared : Option Int}

theorem decode_eq_error {why : Malformed} (hs : Reader.ofArmor text declared = .error why) :
    decode text declared = .error (.raised (.malformed why)) := by
  simp only [decode, Decode.result, Decode.ofArmor, hs]
  rfl

theorem of_decode {s : Reader} (hs : Reader.ofArmor text declared = .ok s) (h0 : s.position = 0) :
    Outcome.of (decode text declared) = Outcome.ofResult (Decode.message s) := by
  simp only [decode, Decode.result, Decode.ofArmor, hs]
  cases hresult : Decode.message s with
  | ok m s' => rfl
  | error error s' =>
    rw [Except.mapError, Decode.message_told h0 hresult]
    rfl

/-- Nothing but a declared length makes decoding raise another error than the failure. -/
theorem decode_eq_of_told (h : ¬Untold text declared) :
    decode text declared = (Decode.result text declared).mapError .codec := by
  rcases Reader.ofArmor_cases text declared with ⟨-, why, htold, hs⟩ | ⟨hall, hn, hs⟩ |
    ⟨-, -, s, hs, h0, -⟩
  · rw [decode_eq_error hs, DecodeError.raised_of_isTold htold]
    simp only [Decode.result, Decode.ofArmor, hs]
    rfl
  · have hwritten : Text.IsWritable (declared.getD (6 * text.length)) := by
      by_contra hlong
      exact h ⟨hall, hn, hlong⟩
    rw [decode_eq_error hs, DecodeError.raised_of_isTold
      (Malformed.isTold_overdeclared_iff.mpr hwritten)]
    simp only [Decode.result, Decode.ofArmor, hs]
    rfl
  · simp only [decode, Decode.result, Decode.ofArmor, hs]
    cases hresult : Decode.message s with
    | ok m s' => rfl
    | error error s' => rw [Except.mapError, Except.mapError, Decode.message_told h0 hresult]

/-- Decoding an armor text ends in exactly one way: it is malformed, its type is unknown, its length
is wrong for its type, or it is decoded as a record of the class of its type. The exception is a
declared length that is out of place and too long to be told. -/
theorem outcome_decode (text : String) (declared : Option Int) :
    Outcome.of (decode text declared) =
      if Untold text declared then .unwritable else Outcome.expected text declared := by
  rcases Reader.ofArmor_cases text declared with ⟨hforeign, why, htold, hs⟩ | ⟨hall, hn, hs⟩ |
    ⟨hall, hn, s, hs, h0, hrest⟩
  · have hnot : ¬∀ c ∈ text.toList, c ∈ Armor.alphabet := by simpa using hforeign
    rw [decode_eq_error hs, DecodeError.raised_of_isTold htold, if_neg fun h => hnot h.1,
      Outcome.expected, if_pos (.inl hforeign)]
    rfl
  · by_cases hlong : Text.IsWritable (declared.getD (6 * text.length))
    · rw [decode_eq_error hs, DecodeError.raised_of_isTold
        (Malformed.isTold_overdeclared_iff.mpr hlong), if_neg fun h => h.2.2 hlong,
        Outcome.expected, if_pos (.inr hn)]
      rfl
    · rw [decode_eq_error hs, DecodeError.raised_of_not_isTold
        (mt Malformed.isTold_overdeclared_iff.mp hlong), if_pos ⟨hall, hn, hlong⟩]
      rfl
  · have hforeign : ¬∃ c ∈ text.toList, c ∉ Armor.alphabet := by simpa using hall
    rw [of_decode hs h0, ofResult_message h0, hrest, if_neg fun h => hn h.2.1, Outcome.expected,
      if_neg (not_or.mpr ⟨hforeign, hn⟩)]

end

/-- One character is declared to have more bits than can be told: decoding ends, but not as
malformed. -/
theorem not_malformed_overlong :
    Outcome.expected "0" (some Text.overlong) = .malformed ∧
      decode "0" (some Text.overlong) = .error .unwritable := by
  have hmore : (6 : Int) < Text.overlong := by
    have hwritten : Text.IsWritable 6 := Text.isWritable_of_lt (by decide)
    exact Int.ofNat_lt.mpr hwritten
  have hexpected : Outcome.expected "0" (some Text.overlong) = .malformed := by
    rw [Outcome.expected]
    exact if_pos (.inr (.inr hmore))
  have hs : Reader.ofArmor "0" (some Text.overlong) = .error (.overdeclared Text.overlong 6) :=
    Reader.ofArmor_error (by rfl : Armor.decode "0" = .ok (Bits.zeros 6)) (.inr hmore)
  have htold : ¬(Malformed.overdeclared Text.overlong 6).IsTold :=
    mt Malformed.isTold_overdeclared_iff.mp Text.not_isWritable_overlong
  refine ⟨hexpected, ?_⟩
  rw [decode, Decode.result, Decode.ofArmor, hs]
  show Except.error (DecodeError.raised _) = _
  rw [DecodeError.raised_of_not_isTold htold]

end AisStation
