import AisStation.Proofs.Gateway.Streams
import Mathlib.Data.List.DropRight

/-!
# The switches of a gateway

A gateway may refuse the reports of the receiving station itself, and it may refuse records with
findings. Both switches only filter: with them the records are those that pass, out of the records
without them, in the same order. The switch on the station's own reports comes before decoding, so
it takes these sentences whole, whatever their payload is; the switch on findings comes last and
takes records only. Framing comes before both and is counted alike.
-/

namespace AisStation

/-- Does the line frame a whole report of the receiving station itself? -/
def Sentence.isOwnReport (line : String) : Bool :=
  match parse line with
  | .ok s => !s.isFragmented && s.isOwnShip
  | .error _ => false

namespace GatewayConfig

variable {config : GatewayConfig} {line : String}

/-- The configuration with both switches open: own reports are accepted, nothing is validated. -/
def lax (config : GatewayConfig) : GatewayConfig :=
  { config with validateInbound := false, acceptVdo := true }

/-- The kind of a sentence passes: it reports another station, or own reports are accepted. -/
def Takes (config : GatewayConfig) (s : Sentence) : Prop :=
  s.kind = .vdm ∨ config.acceptVdo = true

/-- A record passes: nothing is found, or nothing is validated. -/
def Admits (config : GatewayConfig) (m : Message) : Prop :=
  m.findings = [] ∨ config.validateInbound = false

instance (config : GatewayConfig) (s : Sentence) : Decidable (config.Takes s) :=
  inferInstanceAs (Decidable (_ ∨ _))

instance (config : GatewayConfig) (m : Message) : Decidable (config.Admits m) :=
  inferInstanceAs (Decidable (_ ∨ _))

/-- The record of a line, with the sentence that it comes from. -/
def origin? (config : GatewayConfig) (line : String) : Option (Sentence × Message) :=
  match Sentence.parse line, (config.receive line).message? with
  | .ok s, some m => some (s, m)
  | _, _ => none

/-! ## Lines -/

theorem refusesOwn_iff (s : Sentence) :
    (s.isOwnShip && !config.acceptVdo) = true ↔ ¬config.Takes s := by
  unfold Takes Sentence.isOwnShip
  cases s.kind <;> cases config.acceptVdo <;> decide

theorem refusesFindings_iff (m : Message) :
    (config.validateInbound && !m.isValid) = true ↔ ¬config.Admits m := by
  unfold Admits Message.isValid
  rw [← List.isEmpty_iff]
  cases config.validateInbound <;> cases m.findings.isEmpty <;> decide

/-- What a line comes to, by the stages it goes through: framing, the switch on own reports,
decoding, the switch on findings. -/
inductive Stages (config : GatewayConfig) (line : String) : Inbound → Prop
  | unframed {e} (hparse : Sentence.parse line = .error e) : Stages config line (.sentenceError e)
  | fragment {s} (hparse : Sentence.parse line = .ok s) (hpart : s.isFragmented = true) :
    Stages config line .fragment
  | ownShip {s} (hparse : Sentence.parse line = .ok s) (hwhole : s.isFragmented = false)
    (htakes : ¬config.Takes s) : Stages config line .ownShip
  | undecoded {s e} (hparse : Sentence.parse line = .ok s) (hwhole : s.isFragmented = false)
    (htakes : config.Takes s) (hdecode : Decode.result s.payload (some s.bitLength) = .error e) :
    Stages config line (.codecError e)
  | invalid {s m} (hparse : Sentence.parse line = .ok s) (hwhole : s.isFragmented = false)
    (htakes : config.Takes s) (hdecode : Decode.result s.payload (some s.bitLength) = .ok m)
    (hadmits : ¬config.Admits m) : Stages config line (.invalid m)
  | decoded {s m} (hparse : Sentence.parse line = .ok s) (hwhole : s.isFragmented = false)
    (htakes : config.Takes s) (hdecode : Decode.result s.payload (some s.bitLength) = .ok m)
    (hadmits : config.Admits m) : Stages config line (.decoded m)

theorem stages_receive (config : GatewayConfig) (line : String) :
    Stages config line (config.receive line) := by
  unfold receive
  split
  · rename_i e hparse
    exact .unframed hparse
  · rename_i s hparse
    split
    · rename_i hpart
      exact .fragment hparse hpart
    · rename_i hpart
      have hwhole := Bool.eq_false_iff.mpr hpart
      split
      · rename_i hown
        exact .ownShip hparse hwhole ((refusesOwn_iff s).mp hown)
      · rename_i hown
        have htakes := not_not.mp (mt (refusesOwn_iff s).mpr hown)
        split
        · rename_i e hdecode
          exact .undecoded hparse hwhole htakes hdecode
        · rename_i m hdecode
          split
          · rename_i hfound
            exact .invalid hparse hwhole htakes hdecode ((refusesFindings_iff m).mp hfound)
          · rename_i hfound
            exact .decoded hparse hwhole htakes hdecode
              (not_not.mp (mt (refusesFindings_iff m).mpr hfound))

/-- The stages determine what the line comes to. -/
theorem Stages.receive_eq {result : Inbound} (h : Stages config line result) :
    config.receive line = result := by
  have hnotOwn {s : Sentence} (htakes : config.Takes s) :
      ¬(s.isOwnShip && !config.acceptVdo) = true := fun hown =>
    (refusesOwn_iff s).mp hown htakes
  unfold receive
  cases h with
  | unframed hparse => simp only [hparse]
  | fragment hparse hpart => simp only [hparse, hpart, if_true]
  | ownShip hparse hwhole htakes =>
    simp only [hparse, hwhole, (refusesOwn_iff _).mpr htakes, Bool.false_eq_true, if_false, if_true]
  | undecoded hparse hwhole htakes hdecode =>
    simp only [hparse, hwhole, hdecode, Bool.false_eq_true, if_false]
    rw [if_neg (hnotOwn htakes)]
  | invalid hparse hwhole htakes hdecode hadmits =>
    simp only [hparse, hwhole, hdecode, Bool.false_eq_true, if_false]
    rw [if_neg (hnotOwn htakes), if_pos ((refusesFindings_iff _).mpr hadmits)]
  | decoded hparse hwhole htakes hdecode hadmits =>
    simp only [hparse, hwhole, hdecode, Bool.false_eq_true, if_false]
    rw [if_neg (hnotOwn htakes), if_neg fun hfound => (refusesFindings_iff _).mp hfound hadmits]

/-! ## Open switches -/

theorem lax_takes (s : Sentence) : config.lax.Takes s := .inr rfl

theorem lax_admits (m : Message) : config.lax.Admits m := .inr rfl

theorem origin?_of_decoded {s : Sentence} {m : Message} (hparse : Sentence.parse line = .ok s)
    (hdecoded : config.receive line = .decoded m) : config.origin? line = some (s, m) := by
  unfold origin?
  rw [hparse, hdecoded]
  rfl

theorem origin?_eq_none (h : (config.receive line).message? = none) :
    config.origin? line = none := by
  unfold origin?
  rw [h]
  split
  · contradiction
  · rfl

/-- With open switches every whole sentence is decoded, and every record returned. -/
theorem origin?_lax {s : Sentence} (hparse : Sentence.parse line = .ok s)
    (hwhole : s.isFragmented = false) :
    config.lax.origin? line =
      (Decode.result s.payload (some s.bitLength)).toOption.map (s, ·) := by
  cases hdecode : Decode.result s.payload (some s.bitLength) with
  | error e =>
    have htakes : config.lax.Takes s := lax_takes s
    have hreceive := (Stages.undecoded hparse hwhole htakes hdecode).receive_eq
    exact origin?_eq_none (by rw [hreceive]; rfl)
  | ok m =>
    exact origin?_of_decoded hparse
      (Stages.decoded hparse hwhole (lax_takes s) hdecode (lax_admits m)).receive_eq

/-- A line that is not framed as a whole sentence has no record under any switches. -/
theorem origin?_of_unframed {e : SentenceError} (hparse : Sentence.parse line = .error e) :
    config.origin? line = none :=
  origin?_eq_none (by rw [(Stages.unframed hparse).receive_eq]; rfl)

theorem origin?_of_fragment {s : Sentence} (hparse : Sentence.parse line = .ok s)
    (hpart : s.isFragmented = true) : config.origin? line = none :=
  origin?_eq_none (by rw [(Stages.fragment hparse hpart).receive_eq]; rfl)

/-! ## One line under two configurations -/

/-- The record of a line is the one under open switches, if it passes. -/
theorem message?_receive (config : GatewayConfig) (line : String) :
    (config.receive line).message? =
      ((config.lax.origin? line).filter fun (s, m) => config.Takes s ∧ config.Admits m).map
        Prod.snd := by
  have hstages := stages_receive config line
  generalize config.receive line = result at hstages
  cases hstages with
  | unframed hparse => rw [origin?_of_unframed hparse]; rfl
  | fragment hparse hpart => rw [origin?_of_fragment hparse hpart]; rfl
  | ownShip hparse hwhole htakes =>
    rw [origin?_lax hparse hwhole]
    cases Decode.result _ _ <;> simp [htakes, Except.toOption, Inbound.message?, Option.filter]
  | undecoded hparse hwhole htakes hdecode => rw [origin?_lax hparse hwhole, hdecode]; rfl
  | invalid hparse hwhole htakes hdecode hadmits =>
    rw [origin?_lax hparse hwhole, hdecode]
    simp [hadmits, Except.toOption, Inbound.message?, Option.filter]
  | decoded hparse hwhole htakes hdecode hadmits =>
    rw [origin?_lax hparse hwhole, hdecode]
    simp [htakes, hadmits, Except.toOption, Inbound.message?, Option.filter]

/-- A line is refused for its findings exactly if under open switches it has a record that passes
the first switch and not the second. -/
theorem disposition_eq_invalid_iff (config : GatewayConfig) (line : String) :
    (config.receive line).disposition = .invalid ↔
      ∃ s m, config.lax.origin? line = some (s, m) ∧ config.Takes s ∧ ¬config.Admits m := by
  have hstages := stages_receive config line
  generalize config.receive line = result at hstages
  cases hstages with
  | unframed hparse => simp [origin?_of_unframed hparse, Inbound.disposition]
  | fragment hparse hpart => simp [origin?_of_fragment hparse hpart, Inbound.disposition]
  | ownShip hparse hwhole htakes =>
    rw [origin?_lax hparse hwhole]
    cases Decode.result _ _ <;> simp [htakes, Except.toOption, Inbound.disposition]
  | undecoded hparse hwhole htakes hdecode =>
    rename_i e
    rw [origin?_lax hparse hwhole, hdecode]
    cases e <;> simp [Except.toOption, Inbound.disposition]
  | invalid hparse hwhole htakes hdecode hadmits =>
    rw [origin?_lax hparse hwhole, hdecode]
    simp [htakes, hadmits, Except.toOption, Inbound.disposition]
  | decoded hparse hwhole htakes hdecode hadmits =>
    rw [origin?_lax hparse hwhole, hdecode]
    simp [hadmits, Except.toOption, Inbound.disposition]

/-- Framing comes before the switches. -/
theorem disposition_lax_iff {o : Disposition} (ho : o = .sentenceError ∨ o = .fragment) :
    (config.receive line).disposition = o ↔ (config.lax.receive line).disposition = o := by
  cases hparse : Sentence.parse line with
  | error e =>
    rw [(Stages.unframed hparse).receive_eq, (Stages.unframed hparse).receive_eq]
  | ok s =>
    cases hpart : s.isFragmented with
    | true =>
      rw [(Stages.fragment hparse hpart).receive_eq, (Stages.fragment hparse hpart).receive_eq]
    | false =>
      -- A whole sentence is neither, whatever the switches are.
      have hother (c : GatewayConfig) : (c.receive line).disposition ≠ o := by
        have hstages := stages_receive c line
        generalize c.receive line = result at hstages
        cases hstages with
        | unframed hparse' => rw [hparse] at hparse'; contradiction
        | fragment hparse' hpart' =>
          obtain rfl := Except.ok.inj (hparse.symm.trans hparse')
          rw [hpart] at hpart'
          contradiction
        | undecoded hparse' hwhole htakes hdecode =>
          rename_i e
          rcases ho with rfl | rfl <;> cases e <;> exact Disposition.noConfusion
        | _ => rcases ho with rfl | rfl <;> exact Disposition.noConfusion
      exact iff_of_false (hother config) (hother config.lax)

/-- Own reports that are not accepted are taken whole, and nothing else is taken for one. -/
theorem disposition_eq_ownShip_iff (hvdo : config.acceptVdo = false) :
    (config.receive line).disposition = .ownShip ↔ Sentence.isOwnReport line = true := by
  have htakes_iff (s : Sentence) : config.Takes s ↔ s.isOwnShip = false := by
    unfold Takes Sentence.isOwnShip
    cases s.kind <;> simp [hvdo]
  have hstages := stages_receive config line
  generalize config.receive line = result at hstages
  unfold Sentence.isOwnReport
  cases hstages with
  | unframed hparse => simp [hparse, Inbound.disposition]
  | fragment hparse hpart => simp [hparse, hpart, Inbound.disposition]
  | ownShip hparse hwhole htakes =>
    rw [htakes_iff, Bool.not_eq_false] at htakes
    simp [hparse, hwhole, htakes, Inbound.disposition]
  | undecoded hparse hwhole htakes hdecode =>
    rename_i e
    rw [htakes_iff] at htakes
    cases e <;> simp [hparse, htakes, Inbound.disposition]
  | invalid hparse hwhole htakes hdecode hadmits =>
    rw [htakes_iff] at htakes
    simp [hparse, htakes, Inbound.disposition]
  | decoded hparse hwhole htakes hdecode hadmits =>
    rw [htakes_iff] at htakes
    simp [hparse, htakes, Inbound.disposition]

end GatewayConfig

/-! ## Streams under two configurations -/

/-- A blank line frames nothing. -/
theorem Sentence.exists_parse_of_isBlankLine {line : String} (h : Text.isBlankLine line = true) :
    ∃ e, parse line = .error e := by
  have htrim : Text.trim line.toList = [] := by
    rw [Text.trim, List.dropWhile_eq_nil_iff.mpr (List.all_eq_true.mp h)]
    rfl
  exact ⟨.notEncapsulated [], by rw [parse, htrim]; rfl⟩

namespace Gateway

variable {config : GatewayConfig}

theorem filterMap_origin?_handed (config : GatewayConfig) (lines : List String) :
    (handed lines).filterMap config.origin? = lines.filterMap config.origin? := by
  rw [handed, List.filterMap_filter]
  refine List.filterMap_congr fun line _ => ?_
  cases hblank : Text.isBlankLine line with
  | false => rfl
  | true =>
    obtain ⟨e, hparse⟩ := Sentence.exists_parse_of_isBlankLine hblank
    exact (GatewayConfig.origin?_of_unframed hparse).symm

theorem countP_isOwnReport_handed (lines : List String) :
    (handed lines).countP Sentence.isOwnReport = lines.countP Sentence.isOwnReport := by
  rw [handed, List.countP_filter]
  refine List.countP_congr fun line _ => ?_
  cases hblank : Text.isBlankLine line with
  | false => simp
  | true =>
    obtain ⟨e, hparse⟩ := Sentence.exists_parse_of_isBlankLine hblank
    simp [Sentence.isOwnReport, hparse]

theorem count_dispositions (config : GatewayConfig) (lines : List String) (o : Disposition) :
    (dispositions config lines).count o =
      lines.countP fun line => (config.receive line).disposition = o := by
  rw [dispositions, List.count_eq_countP, List.countP_map]
  rfl

/-- A counter of a gateway that was fresh before it processed some lines. -/
theorem counter_processLines (config : GatewayConfig) (lines : List String) (o : Disposition) :
    (Gateway.processLines { config } lines).2.stats.counter o =
      (handed lines).countP fun line => (config.receive line).disposition = o := by
  rw [processLines_eq, counter_countLines, count_dispositions, CodecStats.counter_zero,
    Nat.zero_add]

/-- The records of lines, each with the sentence that it comes from. -/
def origins (config : GatewayConfig) (lines : List String) : List (Sentence × Message) :=
  lines.filterMap config.origin?

theorem records_processLines (config : GatewayConfig) (lines : List String) :
    (Gateway.processLines { config } lines).1 =
      ((origins config.lax lines).filter fun (s, m) => config.Takes s ∧ config.Admits m).map
        Prod.snd := by
  rw [processLines_eq, ← List.filterMap_eq_flatMap_toList, origins, ← filterMap_origin?_handed,
    List.filter_filterMap, List.map_filterMap]
  exact List.filterMap_congr fun line _ => config.message?_receive line

theorem records_processLines_lax (config : GatewayConfig) (lines : List String) :
    (Gateway.processLines { config := config.lax } lines).1 =
      (origins config.lax lines).map Prod.snd := by
  have hpasses : ∀ p ∈ origins config.lax lines,
      decide (config.lax.Takes p.1 ∧ config.lax.Admits p.2) = true := fun p _ =>
    decide_eq_true ⟨GatewayConfig.lax_takes p.1, GatewayConfig.lax_admits p.2⟩
  rw [records_processLines]
  exact congrArg _ (List.filter_eq_self.mpr hpasses)

/-- Framing is counted alike under open switches. -/
theorem counter_lax (config : GatewayConfig) (lines : List String) {o : Disposition}
    (ho : o = .sentenceError ∨ o = .fragment) :
    (Gateway.processLines { config } lines).2.stats.counter o =
      (Gateway.processLines { config := config.lax } lines).2.stats.counter o := by
  rw [counter_processLines, counter_processLines]
  refine List.countP_congr fun line _ => ?_
  rw [decide_eq_true_iff, decide_eq_true_iff, GatewayConfig.disposition_lax_iff ho]

theorem sentencesReceived_processLines (config : GatewayConfig) (lines : List String) :
    (Gateway.processLines { config } lines).2.stats.sentencesReceived = (handed lines).length := by
  rw [processLines_eq, received_countLines, Nat.zero_add]

theorem vdoSkipped_processLines (lines : List String) (hvdo : config.acceptVdo = false) :
    (Gateway.processLines { config } lines).2.stats.vdoSkipped =
      lines.countP Sentence.isOwnReport := by
  have hcounter := counter_processLines config lines .ownShip
  rw [← countP_isOwnReport_handed]
  refine hcounter.trans (List.countP_congr fun line _ => ?_)
  rw [decide_eq_true_iff, GatewayConfig.disposition_eq_ownShip_iff hvdo]

theorem handed_filter (p : String → Bool) (lines : List String) :
    handed (lines.filter p) = (handed lines).filter p :=
  List.filter_comm _ _ _

/-- Own reports that are not accepted are received and skipped, and nothing else is counted for
them. -/
theorem stats_processLines_of_ownShip (lines : List String) (hvdo : config.acceptVdo = false) :
    let own := lines.countP Sentence.isOwnReport
    (Gateway.processLines { config } lines).2.stats =
      (Gateway.processLines { config } (lines.filter (!Sentence.isOwnReport ·))).2.stats +
        { sentencesReceived := own, vdoSkipped := own } := by
  intro own
  have hown : own = (handed lines).countP Sentence.isOwnReport :=
    (countP_isOwnReport_handed lines).symm
  refine CodecStats.ext_counter ?_ fun o => ?_
  · rw [CodecStats.sentencesReceived_add, sentencesReceived_processLines,
      sentencesReceived_processLines, handed_filter, hown, List.countP_eq_length_filter,
      List.length_eq_length_filter_add Sentence.isOwnReport, Nat.add_comm]
  · rw [CodecStats.counter_add, counter_processLines, counter_processLines, handed_filter,
      List.countP_eq_countP_filter_add _ _ Sentence.isOwnReport, Nat.add_comm]
    congr 1
    rw [List.countP_filter]
    -- Among own reports the disposition is the one of own reports.
    have hdisposition : ∀ line ∈ handed lines,
        (decide ((config.receive line).disposition = o) && Sentence.isOwnReport line) = true ↔
          (decide (Disposition.ownShip = o) && Sentence.isOwnReport line) = true := by
      intro line _
      cases hline : Sentence.isOwnReport line with
      | false => simp
      | true => rw [(GatewayConfig.disposition_eq_ownShip_iff hvdo).mpr hline]
    rw [List.countP_congr hdisposition]
    cases o with
    | ownShip =>
      simp only [decide_true, Bool.true_and]
      exact hown.symm
    | _ => simp [CodecStats.counter]

theorem invalid_processLines (config : GatewayConfig) (lines : List String) :
    (Gateway.processLines { config } lines).2.stats.invalid =
      (origins config.lax lines).countP fun (s, m) => config.Takes s ∧ ¬config.Admits m := by
  have hcounter := counter_processLines config lines .invalid
  refine hcounter.trans ?_
  rw [origins, ← filterMap_origin?_handed, List.countP_filterMap]
  refine List.countP_congr fun line _ => ?_
  rw [decide_eq_true_iff, GatewayConfig.disposition_eq_invalid_iff]
  cases horigin : config.lax.origin? line with
  | none => simp
  | some p =>
    simp only [Option.some.injEq, Option.map_some, Option.getD_some, decide_eq_true_iff]
    constructor
    · rintro ⟨s, m, rfl, hpasses⟩
      exact hpasses
    · exact fun hpasses => ⟨p.1, p.2, rfl, hpasses⟩

/-- The switches of a gateway only filter. Of the records under open switches, those are returned
that pass both, in their order; what cannot be framed and what is a fragment is counted alike. If
own reports are not accepted, all whole ones are skipped, and every counter but that of the
sentences received is what it is without these lines. If records are validated, those that pass the
first switch and have findings are counted as invalid. -/
theorem processLines_eq_filter (config : GatewayConfig) (lines : List String) :
    let lax : GatewayConfig := { config with validateInbound := false, acceptVdo := true }
    let records := origins lax lines
    let own := lines.countP Sentence.isOwnReport
    let run := Gateway.processLines { config } lines
    let laxRun := Gateway.processLines { config := lax } lines
    laxRun.1 = records.map Prod.snd ∧
    run.1 = (records.filter fun (s, m) => (s.kind = .vdm ∨ config.acceptVdo = true) ∧
      (m.findings = [] ∨ config.validateInbound = false)).map Prod.snd ∧
    run.2.stats.sentencesReceived = laxRun.2.stats.sentencesReceived ∧
    run.2.stats.sentenceErrors = laxRun.2.stats.sentenceErrors ∧
    run.2.stats.fragmentsSkipped = laxRun.2.stats.fragmentsSkipped ∧
    (config.acceptVdo = false → run.2.stats.vdoSkipped = own ∧
      run.2.stats =
        (Gateway.processLines { config } (lines.filter (!Sentence.isOwnReport ·))).2.stats +
          { sentencesReceived := own, vdoSkipped := own }) ∧
    (config.validateInbound = true → run.2.stats.invalid = records.countP fun (s, m) =>
      (s.kind = .vdm ∨ config.acceptVdo = true) ∧ m.findings ≠ []) := by
  intro lax records own run laxRun
  refine ⟨records_processLines_lax config lines, records_processLines config lines, ?_,
    counter_lax config lines (.inl rfl), counter_lax config lines (.inr rfl), ?_, ?_⟩
  · exact (sentencesReceived_processLines config lines).trans
      (sentencesReceived_processLines lax lines).symm
  · intro hvdo
    exact ⟨vdoSkipped_processLines lines hvdo, stats_processLines_of_ownShip lines hvdo⟩
  · intro hvalidate
    refine (invalid_processLines config lines).trans (List.countP_congr fun p _ => ?_)
    rw [decide_eq_true_iff, decide_eq_true_iff, GatewayConfig.Takes, GatewayConfig.Admits]
    simp [hvalidate]

/-- Of two inquiries about the time one comes from a station without a proper identity; there are
two own reports, one of which has no payload, and a fragment. -/
theorem processLines_eq_filter_inquiries :
    let config : GatewayConfig := { acceptVdo := false }
    let lines := ["!AIVDM,1,1,,A,:02R5Ph0`QJH,0*42", "!AIVDO,1,1,,A,:02R5Ph0`QJH,0*40",
      "!AIVDO,1,1,,A,,0*24", "!AIVDM,1,1,,A,:>qc:000`QJH,0*09", "!AIVDM,2,1,,A,:02R5Ph0`QJH,0*41"]
    let run := Gateway.processLines { config } lines
    config.acceptVdo = false ∧ config.validateInbound = true ∧
    run.1 = [.utcDateInquiry { mmsi := 2655619, destMmsi := 2655654 }] ∧
    run.2.stats.vdoSkipped = 2 ∧ run.2.stats.invalid = 1 := by
  intro config lines run
  obtain ⟨-, hrecords, -, -, -, hown, hinvalid⟩ := processLines_eq_filter config lines
  refine ⟨rfl, rfl, hrecords.trans ?_, (hown rfl).1.trans ?_, (hinvalid rfl).trans ?_⟩
  all_goals decide +kernel

end Gateway

end AisStation
