import AisStation.Proofs.Decoding

/-!
# Bits behind the declared length

A payload may hold more bits than are declared: the fill bits of its last character, or characters
that are left over. Decoding does not see them. Two readers agree if they stand at the same place of
the same declared bits; a computation is confined if on readers that agree it has the same result
and leaves readers that agree. The reads of single fields are confined, sequences of confined
computations are, and so is all that is made of them, whether it succeeds or fails.
-/

namespace AisStation

/-- The readers stand at the same place of the same declared bits. -/
structure Reader.Agrees (r s : Reader) : Prop where
  length : r.length = s.length
  position : r.position = s.position
  declared : r.bits.take r.length = s.bits.take s.length

variable {ε α β : Type}

/-- The same value or the same error, with readers that agree. -/
inductive SameResult : EStateM.Result ε Reader α → EStateM.Result ε Reader α → Prop
  | ok {r s : Reader} (a : α) (h : r.Agrees s) : SameResult (.ok a r) (.ok a s)
  | error {r s : Reader} (e : ε) (h : r.Agrees s) : SameResult (.error e r) (.error e s)

/-- Readers that agree cannot be told apart by the computation. -/
def Confined (x : EStateM ε Reader α) : Prop :=
  ∀ r s : Reader, r.Agrees s → SameResult (x r) (x s)

namespace Reader.Agrees

variable {r s : Reader}

theorem remaining (h : r.Agrees s) : r.remaining = s.remaining := by
  rw [Reader.remaining, Reader.remaining, h.length, h.position]

theorem rest (h : r.Agrees s) : r.rest = s.rest := by
  rw [Reader.rest, Reader.rest, h.declared, h.position]

theorem skip (h : r.Agrees s) (n : Nat) : (r.skip n).Agrees (s.skip n) := by
  refine ⟨h.length, ?_, h.declared⟩
  rw [Reader.position_skip, Reader.position_skip, h.length, h.position]

/-- A window that ends within the declared bits shows the same number, and one that does not is
refused in the same words. -/
theorem window (h : r.Agrees s) (offset width : Nat) :
    r.window offset width = s.window offset width := by
  by_cases hle : offset + width ≤ r.length
  · have hwindow (t : Reader) (ht : offset + width ≤ t.length) : t.window offset width =
        .ok (Bits.toNat (((t.bits.take t.length).take (offset + width)).drop offset)) := by
      rw [Reader.window, if_neg (by omega), List.take_take, min_eq_left ht]
      simp only [← Int.natCast_add, if_neg (Int.not_lt.mpr (Int.natCast_nonneg _)),
        Int.toNat_natCast]
    rw [hwindow r hle, hwindow s (h.length ▸ hle), h.declared]
  · rw [Reader.window_outside (by omega), Reader.window_outside (by have := h.length; omega),
      h.length]

end Reader.Agrees

namespace Confined

/-! ## Sequences -/

theorem pure (a : α) : Confined (Pure.pure a : EStateM ε Reader α) := by
  intro r s h
  exact .ok a h

theorem throw (e : ε) : Confined (MonadExcept.throw e : EStateM ε Reader α) := by
  intro r s h
  exact .error e h

theorem bind {x : EStateM ε Reader α} {f : α → EStateM ε Reader β} (hx : Confined x)
    (hf : ∀ a, Confined (f a)) : Confined (x >>= f) := by
  intro r s h
  have hxrs := hx r s h
  simp only [Bind.bind, EStateM.bind]
  generalize x r = o at hxrs
  generalize x s = o' at hxrs
  cases hxrs with
  | ok a h' => exact hf a _ _ h'
  | error e h' => exact .error e h'

theorem map {x : EStateM ε Reader α} (hx : Confined x) (f : α → β) : Confined (f <$> x) :=
  hx.bind fun a => pure (f a)

theorem ite {p : Prop} [Decidable p] {x y : EStateM ε Reader α} (hx : Confined x)
    (hy : Confined y) : Confined (if p then x else y) := by
  split
  · exact hx
  · exact hy

theorem ofRead {x : Read α} (hx : Confined x) : Confined (Decode.ofRead x) := by
  intro r s h
  have hxrs := hx r s h
  simp only [Decode.ofRead, EStateM.adaptExcept]
  generalize x r = o at hxrs
  generalize x s = o' at hxrs
  cases hxrs with
  | ok a h' => exact .ok a h'
  | error why h' => exact .error _ h'

/-! ## Reads -/

theorem take (width : Nat) : Confined (Read.take width) := by
  intro r s h
  by_cases hle : width ≤ r.remaining
  · rw [Read.take_apply hle, Read.take_apply (h.remaining ▸ hle), h.rest]
    exact .ok _ (h.skip width)
  · rw [Read.take_exhausted (Nat.not_le.mp hle),
      Read.take_exhausted (h.remaining ▸ Nat.not_le.mp hle), h.remaining]
    exact .error _ h

theorem peek (offset width : Nat) : Confined (Read.peek offset width) := by
  intro r s h
  simp only [Read.peek, h.window]
  cases s.window offset width with
  | ok n => exact .ok n h
  | error why => exact .error why h

theorem bitLength : Confined Read.bitLength := by
  intro r s h
  rw [Read.bitLength_apply, Read.bitLength_apply, h.length]
  exact .ok _ h

theorem bitsRemaining : Confined Read.bitsRemaining := by
  intro r s h
  rw [Read.bitsRemaining_apply, Read.bitsRemaining_apply, h.remaining]
  exact .ok _ h

theorem uint (width : Nat) : Confined (Read.uint width) :=
  (take width).bind fun _ => pure _

theorem sint (width : Nat) : Confined (Read.sint width) :=
  (take width).bind fun _ => pure _

theorem flag : Confined Read.flag :=
  (take 1).bind fun _ => pure _

theorem blob (width : Nat) : Confined (Read.blob width) :=
  (take width).bind fun _ => pure _

theorem text (count : Nat) : Confined (Read.text count) := by
  induction count with
  | zero => exact pure []
  | succ count ih => exact (take 6).bind fun _ => ih.bind fun _ => pure _

theorem position (grid : Grid) : Confined (Position.read grid) :=
  (uint _).bind fun _ => (uint _).bind fun _ => pure _

theorem field (kind : FieldKind) : Confined kind.read := by
  cases kind with
  | unsigned width => exact uint width
  | signed width => exact sint width
  | flag => exact flag
  | text chars => exact (text chars).bind fun _ => pure _
  | position grid => exact position grid
  | spare width => exact uint width

theorem layout (layout : Layout) : Confined layout.read := by
  induction layout with
  | nil => exact pure ()
  | cons f layout ih => exact (field f.kind).bind fun _ => ih.bind fun _ => pure _

/-! ## Tails -/

theorem groups {group : Read α} (hgroup : Confined group) (width count : Nat) :
    Confined (Read.groups width group count) := by
  induction count with
  | zero => exact pure []
  | succ count ih =>
    refine bitsRemaining.bind fun n => ite (pure []) ?_
    exact hgroup.bind fun _ => ih.bind fun _ => pure _

theorem announced (announced : Bool) (width : Nat) :
    Confined (Read.announced announced width) :=
  ite (uint width) (pure 0)

theorem dataBefore (trailer : Nat) (messageType : Int) :
    Confined (Read.dataBefore trailer messageType) := by
  refine bitsRemaining.bind fun n => ?_
  split
  · exact (throw _).bind fun _ => blob _
  · exact (pure _).bind fun _ => blob _

/-- All of a record is read from the declared bits if its tail is. -/
theorem record {R : Type} [WireRecord R] (h : ∀ r : R, Confined (WireRecord.readTail r)) :
    Confined (WireRecord.read R) :=
  (layout _).bind fun _ => h _

theorem acknowledgement : Confined Acknowledgement.read :=
  (uint 30).bind fun _ => (uint 2).bind fun _ => pure _

theorem reservation : Confined SlotReservation.read :=
  (uint 12).bind fun _ => (uint 4).bind fun _ => (uint 3).bind fun _ => (uint 11).bind fun _ =>
    pure _

theorem interrogation (r : Interrogation) : Confined (WireRecord.readTail r) := by
  -- The other station is read at the end of both branches.
  have hother (f : Int → Int → Int → Int → Interrogation) : Confined (Read.uint 30 >>= fun mmsi2 =>
      Read.uint 6 >>= fun type21 => Read.uint 12 >>= fun offset21 => Read.uint 2 >>= fun spare4 =>
        (Pure.pure (f mmsi2 type21 offset21 spare4) : Read Interrogation)) :=
    (uint 30).bind fun _ => (uint 6).bind fun _ => (uint 12).bind fun _ => (uint 2).bind fun _ =>
      pure _
  refine bitLength.bind fun n => ?_
  by_cases hsecond : 110 ≤ n
  · simp only [if_pos hsecond]
    refine (uint 2).bind fun _ => (uint 6).bind fun _ => (uint 12).bind fun _ =>
      (uint 2).bind fun _ => ?_
    exact ite (hother _) (pure _)
  · simp only [if_neg hsecond]
    exact ite (hother _) (pure _)

theorem assignedMode (r : AssignedModeCommand) : Confined (WireRecord.readTail r) := by
  refine bitLength.bind fun n => ite ?_ ?_
  · exact (uint 30).bind fun _ => (uint 12).bind fun _ => (uint 10).bind fun _ => pure _
  · exact (uint 4).bind fun _ => pure _

theorem channelManagement (r : ChannelManagement) : Confined (WireRecord.readTail r) := by
  -- The flags of the bands are read at the end of both branches.
  have hbehind (f : Bool → Bool → Bool → Int → Int → ChannelManagement) :
      Confined (Read.flag >>= fun addressed => Read.flag >>= fun bandA => Read.flag >>= fun bandB =>
        Read.uint 3 >>= fun zoneSize => Read.uint 23 >>= fun spare4 =>
          (Pure.pure (f addressed bandA bandB zoneSize spare4) : Read ChannelManagement)) :=
    flag.bind fun _ => flag.bind fun _ => flag.bind fun _ => (uint 3).bind fun _ =>
      (uint 23).bind fun _ => pure _
  refine (peek _ 1).bind fun addressed => ?_
  split
  · exact (uint 30).bind fun _ => (uint 5).bind fun _ => (uint 30).bind fun _ =>
      (uint 5).bind fun _ => hbehind _
  · exact (position _).bind fun _ => (position _).bind fun _ => hbehind _

theorem singleSlot (r : SingleSlotBinaryMessage) : Confined (WireRecord.readTail r) :=
  (announced _ 30).bind fun _ => (announced _ 2).bind fun _ => (announced _ 16).bind fun _ =>
    (dataBefore _ _).bind fun _ => pure _

theorem multipleSlot (r : MultipleSlotBinaryMessage) : Confined (WireRecord.readTail r) :=
  (announced _ 30).bind fun _ => (announced _ 2).bind fun _ => (announced _ 16).bind fun _ =>
    (dataBefore _ _).bind fun _ => flag.bind fun _ => (uint 19).bind fun _ => pure _

/-! ## Messages -/

/-- Records of every kind are read from the declared bits. -/
theorem kind (kind : RecordKind) : Confined kind.read := by
  cases kind with
  | addressedBinaryMessage | binaryBroadcastMessage | dgnssBroadcast =>
    exact (record fun r => bitsRemaining.bind fun _ => (blob _).bind fun _ => pure _).map _
  | addressedSafetyMessage | safetyBroadcastMessage | aidToNavigationReport =>
    exact (record fun r => bitsRemaining.bind fun _ => (text _).bind fun _ => pure _).map _
  | binaryAcknowledge =>
    exact (record fun r => bitsRemaining.bind fun _ =>
      (groups acknowledgement _ _).bind fun _ => pure _).map _
  | dataLinkManagement =>
    exact (record fun r => bitsRemaining.bind fun _ =>
      (groups reservation _ _).bind fun _ => pure _).map _
  | interrogation => exact (record interrogation).map _
  | assignedModeCommand => exact (record assignedMode).map _
  | channelManagement => exact (record channelManagement).map _
  | singleSlotBinaryMessage => exact (record singleSlot).map _
  | multipleSlotBinaryMessage => exact (record multipleSlot).map _
  | _ => exact (record fun r => pure r).map _

theorem checkLength (lengths : Lengths) (messageType : Int) :
    Confined (Decode.checkLength lengths messageType) := by
  intro r s h
  simp only [Decode.checkLength, h.length]
  cases lengths.check messageType s.length with
  | ok => exact .ok () h
  | error e => exact .error e h

theorem messageType : Confined Decode.messageType :=
  (peek 0 6).ofRead

theorem recordOf (k : RecordKind) : Confined (Decode.record k) :=
  messageType.bind fun _ => (checkLength _ _).bind fun _ => (kind k).ofRead

theorem staticData : Confined Decode.staticData := by
  refine (checkLength _ 24).bind fun _ => (peek 38 2).ofRead.bind fun part => ?_
  split
  · exact recordOf _
  · exact recordOf _
  · exact throw _

theorem message : Confined Decode.message := by
  refine messageType.bind fun t => ?_
  split
  · rename_i carrier _
    cases carrier with
    | record k => exact recordOf k
    | staticData => exact staticData
  · exact throw _

end Confined

/-! ## Armor texts -/

variable {p q : String} {n : Nat}

/-- Texts that spell the same declared bits give readers that agree. -/
theorem Reader.ofArmor_agrees (hp : ∀ c ∈ p.toList, c ∈ Armor.alphabet)
    (hq : ∀ c ∈ q.toList, c ∈ Armor.alphabet) (hn : n ≤ 6 * min p.length q.length)
    (h : (Armor.bits p).take n = (Armor.bits q).take n) :
    ∃ r s, ofArmor p (some n) = .ok r ∧ ofArmor q (some n) = .ok s ∧ r.Agrees s := by
  have hpbits := Armor.decode_eq_bits hp
  have hqbits := Armor.decode_eq_bits hq
  have hplen := Armor.length_of_decode hpbits
  have hqlen := Armor.length_of_decode hqbits
  obtain ⟨r, hr, hr0, hrlen, hrrest⟩ :=
    ofArmor_ok hpbits (Option.getD_some : (some (n : Int)).getD _ = n) (by omega)
  obtain ⟨s, hs, hs0, hslen, hsrest⟩ :=
    ofArmor_ok hqbits (Option.getD_some : (some (n : Int)).getD _ = n) (by omega)
  refine ⟨r, s, hr, hs, ⟨hrlen.trans hslen.symm, hr0.trans hs0.symm, ?_⟩⟩
  rw [← rest_of_position_eq_zero hr0, ← rest_of_position_eq_zero hs0, hrrest, hsrest, h]

/-- Texts that spell the same declared bits are decoded to the same message or refused for the same
reason. -/
theorem decode_eq_of_take_eq (hp : ∀ c ∈ p.toList, c ∈ Armor.alphabet)
    (hq : ∀ c ∈ q.toList, c ∈ Armor.alphabet) (hn : n ≤ 6 * min p.length q.length)
    (h : (Armor.bits p).take n = (Armor.bits q).take n) :
    decode p (some n) = decode q (some n) := by
  obtain ⟨r, s, hr, hs, hagree⟩ := Reader.ofArmor_agrees hp hq hn h
  have hsame := Confined.message r s hagree
  simp only [decode, Decode.result, Decode.ofArmor, hr, hs]
  generalize Decode.message r = o at hsame ⊢
  generalize Decode.message s = o' at hsame ⊢
  cases hsame with
  | ok m _ => rfl
  | error e _ => rfl

/-- A text of 136 bits is decoded whatever its two fill bits and the characters behind them. -/
theorem decode_eq_of_take_eq_safetyBroadcastMessage :
    decode ">5?Per18=HB1U:1@E=B0m<L" (some (136 : Nat)) =
      decode ">5?Per18=HB1U:1@E=B0m<Ow0" (some (136 : Nat)) :=
  decode_eq_of_take_eq (by decide +kernel) (by decide +kernel) (by decide +kernel)
    (by decide +kernel)

end AisStation
