import AisStation.Proofs.Accounting
import AisStation.Proofs.Rendering

/-!
# Streams of lines

A gateway keeps nothing from line to line but its counters. So a stream may be cut anywhere, every
line comes to what it comes to on its own, and the counters of the parts add up. Processing lines
and summarizing them are two loops over the same lines; they agree record for record and leave the
same gateway behind.
-/

namespace AisStation

/-! ## Sums of counters -/

namespace CodecStats

/-- Counter by counter. -/
instance : Add CodecStats where
  add s t := {
    sentencesReceived := s.sentencesReceived + t.sentencesReceived
    messagesDecoded := s.messagesDecoded + t.messagesDecoded
    messagesEncoded := s.messagesEncoded + t.messagesEncoded
    sentenceErrors := s.sentenceErrors + t.sentenceErrors
    fragmentsSkipped := s.fragmentsSkipped + t.fragmentsSkipped
    vdoSkipped := s.vdoSkipped + t.vdoSkipped
    wrongLength := s.wrongLength + t.wrongLength
    unknownType := s.unknownType + t.unknownType
    malformed := s.malformed + t.malformed
    invalid := s.invalid + t.invalid
    encodeErrors := s.encodeErrors + t.encodeErrors }

theorem sentencesReceived_add (s t : CodecStats) :
    (s + t).sentencesReceived = s.sentencesReceived + t.sentencesReceived := rfl

theorem counter_add (s t : CodecStats) (o : Disposition) :
    (s + t).counter o = s.counter o + t.counter o := by
  cases o <;> rfl

theorem counter_zero (o : Disposition) : counter {} o = 0 := by
  cases o <;> rfl

theorem decodeErrors_add (s t : CodecStats) :
    (s + t).decodeErrors = s.decodeErrors + t.decodeErrors := by
  have hwrong : (s + t).wrongLength = s.wrongLength + t.wrongLength := rfl
  have hunknown : (s + t).unknownType = s.unknownType + t.unknownType := rfl
  have hmalformed : (s + t).malformed = s.malformed + t.malformed := rfl
  unfold decodeErrors
  omega

/-- Statistics are told by the number of sentences and the counters of the dispositions. -/
theorem ext_counter {s t : CodecStats} (hreceived : s.sentencesReceived = t.sentencesReceived)
    (hcounter : ∀ o, s.counter o = t.counter o) : s = t := by
  cases s
  cases t
  exact CodecStats.mk.injEq .. ▸ ⟨hreceived, hcounter .decoded, hcounter .encoded,
    hcounter .sentenceError, hcounter .fragment, hcounter .ownShip, hcounter .wrongLength,
    hcounter .unknownType, hcounter .malformed, hcounter .invalid, hcounter .encodeError⟩

end CodecStats

namespace Gateway

variable {config : GatewayConfig}

/-! ## Cutting a stream -/

theorem handed_append (xs ys : List String) : handed (xs ++ ys) = handed xs ++ handed ys :=
  List.filter_append _ _

/-- Counting from any state adds the same to it. -/
theorem countLines_eq_add (config : GatewayConfig) (s : CodecStats) (lines : List String) :
    countLines config s lines = s + countLines config {} lines := by
  refine CodecStats.ext_counter ?_ fun o => ?_
  · rw [CodecStats.sentencesReceived_add, received_countLines, received_countLines, Nat.zero_add]
  · rw [CodecStats.counter_add, counter_countLines, counter_countLines, CodecStats.counter_zero,
      Nat.zero_add]

theorem countLines_append (config : GatewayConfig) (s : CodecStats) (xs ys : List String) :
    countLines config s (xs ++ ys) = countLines config (countLines config s xs) ys :=
  List.foldl_append

/-! ## Two readers -/

/-- Summarizing lines is processing them and writing a text for every record. -/
theorem summarize_eq (g : Gateway) (lines : List String) :
    g.summarize lines = ((g.processLines lines).1.map (·.toJson.render),
      (g.processLines lines).1.length, (g.processLines lines).2) := by
  induction lines generalizing g with
  | nil => rfl
  | cons line lines ih =>
    rw [summarize, processLines]
    by_cases hblank : Text.isBlankLine line = true
    · rw [if_pos hblank, if_pos hblank, ih]
    · rw [if_neg hblank, if_neg hblank]
      -- A line without a record adds nothing on either side.
      rcases hline : g.processLine line with ⟨_ | m, g'⟩
      · exact ih g'
      · simp only [ih g']
        rfl

/-- A stream may be cut anywhere: the records of the parts follow each other and their counters add
up, whatever the gateway has counted before. Every record is that of a line on its own, by a gateway
that has seen no other. Summarizing writes one line of text for every record, in their order, tells
their number and counts as processing does. -/
theorem processLines_append (config : GatewayConfig) (stats : CodecStats) (xs ys : List String) :
    let fresh : Gateway := { config }
    let g : Gateway := { config, stats }
    (fresh.processLines (xs ++ ys)).1 = (fresh.processLines xs).1 ++ (fresh.processLines ys).1 ∧
    (fresh.processLines (xs ++ ys)).2.stats =
      (fresh.processLines xs).2.stats + (fresh.processLines ys).2.stats ∧
    (fresh.processLines (xs ++ ys)).2.stats.decodeErrors =
      (fresh.processLines xs).2.stats.decodeErrors +
        (fresh.processLines ys).2.stats.decodeErrors ∧
    (g.processLines xs).1 = (handed xs).filterMap (fun line => (fresh.processLine line).1) ∧
    (g.processLines xs).2 = { config, stats := stats + (fresh.processLines xs).2.stats } ∧
    g.summarize xs = ((g.processLines xs).1.map (·.toJson.render), (g.processLines xs).1.length,
      (g.processLines xs).2) ∧
    ∀ text ∈ (g.summarize xs).1, '\n' ∉ text.toList := by
  intro fresh g
  have hstats : (fresh.processLines (xs ++ ys)).2.stats =
      (fresh.processLines xs).2.stats + (fresh.processLines ys).2.stats := by
    simp only [processLines_eq, handed_append, countLines_append]
    exact countLines_eq_add config _ _
  refine ⟨?_, hstats, ?_, ?_, ?_, summarize_eq g xs, ?_⟩
  · simp only [processLines_eq, handed_append, List.flatMap_append]
  · rw [hstats, CodecStats.decodeErrors_add]
  · rw [processLines_eq, List.filterMap_eq_flatMap_toList]
    rfl
  · rw [processLines_eq, processLines_eq]
    exact congrArg (Gateway.mk config) (countLines_eq_add config stats _)
  · intro text htext
    rw [summarize_eq] at htext
    obtain ⟨m, -, rfl⟩ := List.mem_map.mp htext
    exact Json.newline_notMem_render m.toJson

end Gateway

end AisStation
