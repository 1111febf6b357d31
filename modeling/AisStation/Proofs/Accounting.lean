import AisStation.Gateway.Basic
import Mathlib.Data.List.Basic

/-!
# The counters of a gateway

Every line and every record to be sent has one disposition, and every disposition has a counter. So
after many lines each counter has grown by the number of those that had its disposition.
-/

namespace AisStation

/-! ## Dispositions -/

/-- What the inputs of a gateway can come to. -/
inductive Disposition
  | decoded | encoded | sentenceError | fragment | ownShip | wrongLength | unknownType | malformed
  | invalid | encodeError
deriving DecidableEq, Repr

/-- The counter of a disposition. -/
def CodecStats.counter (s : CodecStats) : Disposition → Nat
  | .decoded => s.messagesDecoded
  | .encoded => s.messagesEncoded
  | .sentenceError => s.sentenceErrors
  | .fragment => s.fragmentsSkipped
  | .ownShip => s.vdoSkipped
  | .wrongLength => s.wrongLength
  | .unknownType => s.unknownType
  | .malformed => s.malformed
  | .invalid => s.invalid
  | .encodeError => s.encodeErrors

/-- What a line comes to. -/
def Inbound.disposition : Inbound → Disposition
  | decoded _ => .decoded
  | sentenceError _ => .sentenceError
  | fragment => .fragment
  | ownShip => .ownShip
  | codecError (.wrongLength ..) => .wrongLength
  | codecError (.unknownType _) => .unknownType
  | codecError (.malformed _) => .malformed
  | invalid _ => .invalid

/-- What a record to be sent comes to. -/
def Outbound.disposition : Outbound → Disposition
  | encoded _ => .encoded
  | invalid => .invalid
  | encodeError _ => .encodeError

theorem Inbound.counter_count (result : Inbound) (s : CodecStats) (o : Disposition) :
    (result.count s).counter o = s.counter o + if result.disposition = o then 1 else 0 := by
  cases result with
  | codecError error => cases error <;> cases o <;> rfl
  | _ => cases o <;> rfl

theorem Outbound.counter_count (result : Outbound) (s : CodecStats) (o : Disposition) :
    (result.count s).counter o = s.counter o + if result.disposition = o then 1 else 0 := by
  cases result <;> cases o <;> rfl

theorem Inbound.sentencesReceived_count (result : Inbound) (s : CodecStats) :
    (result.count s).sentencesReceived = s.sentencesReceived + 1 := by
  cases result with
  | codecError error => cases error <;> rfl
  | _ => rfl

theorem Outbound.sentencesReceived_count (result : Outbound) (s : CodecStats) :
    (result.count s).sentencesReceived = s.sentencesReceived := by
  cases result <;> rfl

/-- There is a record exactly if the line was decoded. -/
theorem Inbound.length_message? (result : Inbound) :
    result.message?.toList.length = if result.disposition = .decoded then 1 else 0 := by
  cases result with
  | codecError error => cases error <;> rfl
  | _ => rfl

/-- There is a sentence exactly if the record was encoded. -/
theorem Outbound.length_line? (result : Outbound) :
    result.line?.toList.length = if result.disposition = .encoded then 1 else 0 := by
  cases result <;> rfl

theorem Inbound.disposition_ne_encoded (result : Inbound) : result.disposition ≠ .encoded := by
  cases result with
  | codecError error => cases error <;> exact Disposition.noConfusion
  | _ => exact Disposition.noConfusion

theorem Outbound.disposition_ne_decoded (result : Outbound) : result.disposition ≠ .decoded := by
  cases result <;> exact Disposition.noConfusion

/-- No disposition is left out. -/
theorem Disposition.length_eq (os : List Disposition) : os.length =
    os.count .decoded + os.count .encoded + os.count .sentenceError + os.count .fragment +
      os.count .ownShip + os.count .wrongLength + os.count .unknownType + os.count .malformed +
      os.count .invalid + os.count .encodeError := by
  induction os with
  | nil => rfl
  | cons o os ih =>
    rw [List.length_cons, ih]
    cases o <;> simp only [List.count_cons, beq_iff_eq, reduceCtorEq, if_true, if_false] <;> omega

namespace Gateway

/-! ## Many lines -/

/-- The lines that are not blank. -/
def handed (lines : List String) : List String :=
  lines.filter fun line => !Text.isBlankLine line

/-- The counters after the lines are counted one by one. -/
def countLines (config : GatewayConfig) (s : CodecStats) (lines : List String) : CodecStats :=
  lines.foldl (fun s line => (config.receive line).count s) s

/-- What lines come to. -/
def dispositions (config : GatewayConfig) (lines : List String) : List Disposition :=
  lines.map fun line => (config.receive line).disposition

theorem dispositions_cons (config : GatewayConfig) (line : String) (lines : List String) :
    dispositions config (line :: lines) =
      (config.receive line).disposition :: dispositions config lines :=
  List.map_cons

theorem processLines_eq (g : Gateway) (lines : List String) :
    g.processLines lines =
      ((handed lines).flatMap fun line => (g.config.receive line).message?.toList,
        { g with stats := countLines g.config g.stats (handed lines) }) := by
  induction lines generalizing g with
  | nil => rfl
  | cons line lines ih =>
    rw [processLines]
    by_cases hblank : Text.isBlankLine line = true
    · have hhanded : handed (line :: lines) = handed lines := by
        rw [handed, List.filter_cons_of_neg (by simp [hblank]), handed]
      rw [if_pos hblank, ih, hhanded]
    · have hhanded : handed (line :: lines) = line :: handed lines := by
        rw [handed, List.filter_cons_of_pos (by simp [hblank]), handed]
      rw [if_neg hblank, hhanded]
      simp only [processLine, ih, List.flatMap_cons]
      rfl

theorem counter_countLines (config : GatewayConfig) (s : CodecStats) (lines : List String)
    (o : Disposition) : (countLines config s lines).counter o =
      s.counter o + (dispositions config lines).count o := by
  induction lines generalizing s with
  | nil => rfl
  | cons line lines ih =>
    rw [countLines, List.foldl_cons, ← countLines, ih, Inbound.counter_count, dispositions_cons,
      List.count_cons]
    simp only [beq_iff_eq]
    omega

theorem received_countLines (config : GatewayConfig) (s : CodecStats) (lines : List String) :
    (countLines config s lines).sentencesReceived = s.sentencesReceived + lines.length := by
  induction lines generalizing s with
  | nil => rfl
  | cons line lines ih =>
    rw [countLines, List.foldl_cons, ← countLines, ih, Inbound.sentencesReceived_count,
      List.length_cons]
    omega

theorem length_records (config : GatewayConfig) (lines : List String) :
    (lines.flatMap fun line => (config.receive line).message?.toList).length =
      (dispositions config lines).count .decoded := by
  induction lines with
  | nil => rfl
  | cons line lines ih =>
    rw [List.flatMap_cons, List.length_append, ih, Inbound.length_message?, dispositions_cons,
      List.count_cons]
    simp only [beq_iff_eq]
    omega

theorem count_encoded_dispositions (config : GatewayConfig) (lines : List String) :
    (dispositions config lines).count .encoded = 0 := by
  rw [List.count_eq_zero]
  intro hmem
  obtain ⟨line, -, hline⟩ := List.mem_map.mp hmem
  exact Inbound.disposition_ne_encoded _ hline

end Gateway

end AisStation
