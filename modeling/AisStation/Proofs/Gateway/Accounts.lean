import AisStation.Proofs.Gateway.Processing
import Mathlib.Data.List.DropRight

/-!
# The accounts of a gateway

A gateway is called with lines, with records to be sent, and for a reset of its counters, in any
order. Calls return, except those with a record that holds a number too long to be told, which raise
an exception and change nothing. Every other input has one disposition. The invariant says that each
counter is the number of inputs since the last reset that had its disposition; totals and sums
follow from it.
-/

namespace AisStation

namespace Gateway

/-! ## Calls -/

/-- A call of a gateway. -/
inductive Call
  | line (text : String)
  | lines (texts : List String)
  | encode (m : Message) (channel : Option String)
  | resetStats
deriving DecidableEq

/-- A call and what it returned or raised. -/
inductive Exchange
  | line (text : String) (answer : Except Exception (Option Message))
  | lines (texts : List String) (answer : Except Exception (List Message))
  | encode (m : Message) (channel : Option String) (answer : Except Exception (Option String))
  | resetStats

namespace Exchange

/-- The call. -/
def call : Exchange → Call
  | line text _ => .line text
  | lines texts _ => .lines texts
  | encode m channel _ => .encode m channel
  | resetStats => .resetStats

/-- The lines that are handed to the gateway, blank elements of a list aside. -/
def received : Exchange → List String
  | line text _ => [text]
  | lines texts _ => handed texts
  | _ => []

/-- The exception that is raised. -/
def exception? : Exchange → Option Exception
  | line _ (.error e) | lines _ (.error e) | encode _ _ (.error e) => some e
  | _ => none

/-- The records that are returned. -/
def records : Exchange → List Message
  | line _ (.ok record?) => record?.toList
  | lines _ (.ok records) => records
  | _ => []

/-- Is a record to be encoded? -/
def isEncoding : Exchange → Bool
  | encode .. => true
  | _ => false

/-- Is a record to be encoded that holds a number too long to be told? -/
def isOverlong (config : GatewayConfig) : Exchange → Bool
  | encode m _ _ => config.Overlong m
  | _ => false

/-- The sentences that are returned. -/
def sentences : Exchange → List String
  | encode _ _ (.ok sentence?) => sentence?.toList
  | _ => []

/-- Are the counters reset? -/
def isReset : Exchange → Bool
  | resetStats => true
  | _ => false

/-- What the inputs of the call come to under a configuration. -/
def dispositions (config : GatewayConfig) : Exchange → List Disposition
  | line text _ => Gateway.dispositions config [text]
  | lines texts _ => Gateway.dispositions config (handed texts)
  | encode m channel _ => ((config.send m channel).toOption.map Outbound.disposition).toList
  | resetStats => []

/-- Every line handed and every record to be encoded has one disposition, but for the records that
raise an exception. -/
theorem length_dispositions (config : GatewayConfig) (e : Exchange) :
    (e.dispositions config).length + (if e.isOverlong config then 1 else 0) =
      e.received.length + if e.isEncoding then 1 else 0 := by
  cases e with
  | lines texts answer => exact List.length_map _
  | encode m channel answer =>
    rw [dispositions, isOverlong]
    by_cases hlong : config.Overlong m
    · rw [GatewayConfig.send_overlong hlong]
      simp [hlong, Except.toOption, received, isEncoding]
    · obtain ⟨outcome, houtcome⟩ := GatewayConfig.exists_send_ok hlong channel
      rw [houtcome]
      simp [hlong, Except.toOption, received, isEncoding]
  | _ => rfl

theorem length_flatMap_dispositions (config : GatewayConfig) (es : List Exchange) :
    (es.flatMap (·.dispositions config)).length + es.countP (·.isOverlong config) =
      (es.flatMap (·.received)).length + es.countP (·.isEncoding) := by
  induction es with
  | nil => rfl
  | cons e es ih =>
    have hlength := length_dispositions config e
    rw [List.flatMap_cons, List.flatMap_cons, List.length_append, List.length_append,
      List.countP_cons, List.countP_cons]
    omega

end Exchange

/-- Performs a call. -/
def perform (g : Gateway) : Call → Exchange × Gateway
  | .line text =>
    let (answer, g) := g.tryLine text
    (.line text answer, g)
  | .lines texts =>
    let (answer, g) := g.tryLines texts
    (.lines texts answer, g)
  | .encode m channel =>
    let (answer, g) := g.encodeLine m channel
    (.encode m channel answer, g)
  | .resetStats => (.resetStats, g.resetStats)

/-- Performs calls one after the other. -/
def run (g : Gateway) : List Call → List Exchange × Gateway
  | [] => ([], g)
  | call :: calls =>
    let (exchange, g) := g.perform call
    let (exchanges, g) := g.run calls
    (exchange :: exchanges, g)

/-- The exchanges after the last reset. -/
def sinceReset (exchanges : List Exchange) : List Exchange :=
  exchanges.rtakeWhile fun e => !e.isReset

variable {config : GatewayConfig}

/-- The counters of a gateway say what happened in the exchanges. -/
structure Accounts (config : GatewayConfig) (s : CodecStats) (es : List Exchange) : Prop where
  received : s.sentencesReceived = (es.flatMap (·.received)).length
  counter : ∀ o, s.counter o = (es.flatMap (·.dispositions config)).count o
  records : (es.flatMap (·.records)).length = (es.flatMap (·.dispositions config)).count .decoded
  sentences :
    (es.flatMap (·.sentences)).length = (es.flatMap (·.dispositions config)).count .encoded

theorem Accounts.nil (config : GatewayConfig) : Accounts config {} [] := by
  refine ⟨rfl, ?_, rfl, rfl⟩
  intro o
  cases o <;> rfl

/-- Accounts are kept by an exchange after which the counters have grown by what happened in it. -/
theorem Accounts.append {s s' : CodecStats} {es : List Exchange} {e : Exchange}
    (h : Accounts config s es)
    (hreceived : s'.sentencesReceived = s.sentencesReceived + e.received.length)
    (hcounter : ∀ o, s'.counter o = s.counter o + (e.dispositions config).count o)
    (hrecords : e.records.length = (e.dispositions config).count .decoded)
    (hsentences : e.sentences.length = (e.dispositions config).count .encoded) :
    Accounts config s' (es ++ [e]) := by
  refine ⟨?_, ?_, ?_, ?_⟩
  · rw [hreceived, h.received, List.flatMap_append, List.length_append, List.flatMap_singleton]
  · intro o
    rw [hcounter, h.counter, List.flatMap_append, List.count_append, List.flatMap_singleton]
  · rw [List.flatMap_append, List.length_append, List.flatMap_append, List.count_append, h.records,
      List.flatMap_singleton, List.flatMap_singleton, hrecords]
  · rw [List.flatMap_append, List.length_append, List.flatMap_append, List.count_append,
      h.sentences, List.flatMap_singleton, List.flatMap_singleton, hsentences]

theorem call_perform (g : Gateway) (call : Call) : (g.perform call).1.call = call := by
  cases call <;> rfl

theorem perform_line (g : Gateway) (text : String) :
    g.perform (.line text) = (.line text (.ok (g.processLine text).1), (g.processLine text).2) := by
  rw [perform, tryLine_eq]

theorem perform_lines (g : Gateway) (texts : List String) :
    g.perform (.lines texts) =
      (.lines texts (.ok (g.processLines texts).1), (g.processLines texts).2) := by
  rw [perform, tryLines_eq]

theorem perform_encode_overlong (g : Gateway) {m : Message} (h : g.config.Overlong m)
    (channel : Option String) :
    g.perform (.encode m channel) = (.encode m channel (.error .unwritable), g) := by
  rw [perform, encodeLine, GatewayConfig.send_overlong h]

/-- Encoding a record raises an exception and changes nothing, or it has an outcome that is counted. -/
theorem perform_encode_cases (g : Gateway) (m : Message) (channel : Option String) :
    (g.config.Overlong m ∧
      g.perform (.encode m channel) = (.encode m channel (.error .unwritable), g)) ∨
    (¬g.config.Overlong m ∧ ∃ outcome, g.config.send m channel = .ok outcome ∧
      g.perform (.encode m channel) =
        (.encode m channel (.ok outcome.line?), { g with stats := outcome.count g.stats })) := by
  by_cases hlong : g.config.Overlong m
  · exact .inl ⟨hlong, g.perform_encode_overlong hlong channel⟩
  · obtain ⟨outcome, houtcome⟩ := GatewayConfig.exists_send_ok hlong channel
    refine .inr ⟨hlong, outcome, houtcome, ?_⟩
    rw [perform, encodeLine, houtcome]

theorem config_perform (g : Gateway) (call : Call) : (g.perform call).2.config = g.config := by
  cases call with
  | line text => rw [perform_line]; rfl
  | lines texts => rw [perform_lines, processLines_eq]
  | resetStats => rfl
  | encode m channel =>
    rcases g.perform_encode_cases m channel with ⟨-, hperform⟩ | ⟨-, outcome, -, hperform⟩
    all_goals rw [hperform]

/-- The exception of a call. -/
theorem exception?_perform (g : Gateway) (call : Call) :
    (g.perform call).1.exception? =
      if (g.perform call).1.isOverlong g.config then some .unwritable else none := by
  cases call with
  | line text => rw [perform_line]; rfl
  | lines texts => rw [perform_lines]; rfl
  | resetStats => rfl
  | encode m channel =>
    rcases g.perform_encode_cases m channel with ⟨hlong, hperform⟩ | ⟨hlong, outcome, -, hperform⟩
    · rw [hperform]
      exact (if_pos (decide_eq_true hlong)).symm
    · rw [hperform]
      exact (if_neg (mt of_decide_eq_true hlong)).symm

/-- One call keeps the accounts. -/
theorem Accounts.perform {g : Gateway} {es : List Exchange}
    (h : Accounts g.config g.stats (sinceReset es)) (call : Call) :
    Accounts g.config (g.perform call).2.stats (sinceReset (es ++ [(g.perform call).1])) := by
  cases call with
  | line text =>
    have hrecords := length_records g.config [text]
    rw [List.flatMap_singleton] at hrecords
    rw [perform_line, sinceReset, List.rtakeWhile_concat_pos _ _ _ (by rfl), ← sinceReset]
    exact h.append (received_countLines g.config g.stats [text])
      (counter_countLines g.config g.stats [text]) hrecords
      (count_encoded_dispositions g.config [text]).symm
  | lines texts =>
    rw [perform_lines, processLines_eq, sinceReset, List.rtakeWhile_concat_pos _ _ _ (by rfl),
      ← sinceReset]
    exact h.append (received_countLines g.config g.stats (handed texts))
      (counter_countLines g.config g.stats (handed texts)) (length_records g.config (handed texts))
      (count_encoded_dispositions g.config (handed texts)).symm
  | encode m channel =>
    rcases g.perform_encode_cases m channel with
      ⟨hlong, hperform⟩ | ⟨-, outcome, houtcome, hperform⟩
    · rw [hperform, sinceReset, List.rtakeWhile_concat_pos _ _ _ (by rfl), ← sinceReset]
      have hnone : (Exchange.encode m channel (.error .unwritable)).dispositions g.config = [] := by
        rw [Exchange.dispositions, GatewayConfig.send_overlong hlong]
        rfl
      exact h.append rfl (fun o => by rw [hnone]; rfl) (by rw [hnone]; rfl) (by rw [hnone]; rfl)
    · rw [hperform, sinceReset, List.rtakeWhile_concat_pos _ _ _ (by rfl), ← sinceReset]
      have hone : (Exchange.encode m channel (.ok outcome.line?)).dispositions g.config =
          [outcome.disposition] := by
        rw [Exchange.dispositions, houtcome]
        rfl
      have hcount (o : Disposition) : [outcome.disposition].count o =
          if outcome.disposition = o then 1 else 0 := by
        rw [List.count_singleton]
        simp only [beq_iff_eq]
      refine h.append (Outbound.sentencesReceived_count _ _) (fun o => ?_) ?_ ?_
      · rw [hone, hcount]
        exact Outbound.counter_count _ _ o
      · rw [hone, hcount, if_neg (Outbound.disposition_ne_decoded _)]
        rfl
      · rw [hone, hcount]
        exact Outbound.length_line? _
  | resetStats =>
    rw [sinceReset, List.rtakeWhile_concat_neg _ _ _ (by simp [Gateway.perform, Exchange.isReset])]
    exact Accounts.nil g.config

/-- Calls keep the accounts, whatever they are. -/
theorem Accounts.run {g : Gateway} {es : List Exchange}
    (h : Accounts g.config g.stats (sinceReset es)) (calls : List Call) :
    Accounts g.config (g.run calls).2.stats (sinceReset (es ++ (g.run calls).1)) := by
  induction calls generalizing g es with
  | nil =>
    rw [Gateway.run, List.append_nil]
    exact h
  | cons call calls ih =>
    have hstep := h.perform call
    rw [← config_perform g call] at hstep
    have hrest := ih hstep
    rw [config_perform, List.append_assoc] at hrest
    exact hrest

theorem Accounts.of_run (config : GatewayConfig) (calls : List Call) :
    Accounts config (Gateway.run { config } calls).2.stats
      (sinceReset (Gateway.run { config } calls).1) :=
  @Accounts.run { config } [] (Accounts.nil config) calls

theorem map_call_run (g : Gateway) (calls : List Call) :
    (g.run calls).1.map Exchange.call = calls := by
  induction calls generalizing g with
  | nil => rfl
  | cons call calls ih =>
    rw [run, List.map_cons, call_perform, ih]

/-- Every counter is the number of inputs since the last reset that had its disposition. -/
theorem counter_run (config : GatewayConfig) (calls : List Call) (o : Disposition) :
    (run { config } calls).2.stats.counter o =
      ((sinceReset (run { config } calls).1).flatMap (·.dispositions config)).count o :=
  (Accounts.of_run config calls).counter o

theorem exception?_run (g : Gateway) (calls : List Call) : ∀ e ∈ (g.run calls).1,
    e.exception? = if e.isOverlong g.config then some .unwritable else none := by
  induction calls generalizing g with
  | nil => exact fun e h => absurd h List.not_mem_nil
  | cons call calls ih =>
    have hrest := ih (g.perform call).2
    rw [config_perform] at hrest
    exact List.forall_mem_cons.mpr ⟨exception?_perform g call, hrest⟩

/-- A call that raises an exception changes nothing. -/
theorem perform_of_exception? {g : Gateway} {call : Call}
    (h : (g.perform call).1.exception?.isSome = true) : (g.perform call).2 = g := by
  cases call with
  | line text =>
    rw [perform_line] at h
    contradiction
  | lines texts =>
    rw [perform_lines] at h
    contradiction
  | resetStats => contradiction
  | encode m channel =>
    rcases g.perform_encode_cases m channel with ⟨-, hperform⟩ | ⟨-, outcome, -, hperform⟩
    · rw [hperform]
    · rw [hperform] at h
      contradiction

/-- The totals of a gateway that was made with a configuration and called in any way. Every call
returns, but those that raise an exception on a record with a number too long to be told; they
change nothing. Since the last reset every other input is counted under one disposition. -/
theorem accounts_run (config : GatewayConfig) (calls : List Call) :
    let exchanges := (run { config } calls).1
    let since := sinceReset exchanges
    let s := (run { config } calls).2.stats
    exchanges.map Exchange.call = calls ∧
    (∀ e ∈ exchanges,
      e.exception? = if e.isOverlong config then some .unwritable else none) ∧
    (∀ (g : Gateway) (call : Call), (g.perform call).1.exception?.isSome = true →
      (g.perform call).2 = g) ∧
    s.sentencesReceived = (since.flatMap (·.received)).length ∧
    s.messagesDecoded = (since.flatMap (·.records)).length ∧
    s.messagesEncoded = (since.flatMap (·.sentences)).length ∧
    (since.flatMap (·.received)).length + since.countP (·.isEncoding) =
      s.messagesDecoded + s.messagesEncoded + s.sentenceErrors + s.fragmentsSkipped +
        s.vdoSkipped + s.wrongLength + s.unknownType + s.malformed + s.invalid + s.encodeErrors +
        since.countP (·.isOverlong config) ∧
    s.decodeErrors = s.wrongLength + s.unknownType + s.malformed := by
  intro exchanges since s
  have h : Accounts config s since := Accounts.of_run config calls
  refine ⟨map_call_run _ calls, exception?_run { config } calls,
    fun g call => perform_of_exception?, h.received, ?_, ?_, ?_, rfl⟩
  · exact (h.counter .decoded).trans h.records.symm
  · exact (h.counter .encoded).trans h.sentences.symm
  · rw [← Exchange.length_flatMap_dispositions config, Disposition.length_eq]
    simp only [← h.counter]
    rfl

/-- The identity of the sender is out of range and too long to be told: the call raises an exception
and counts nothing. -/
theorem not_returned_overlong :
    let m : Message := .positionReport { mmsi := Text.overlong }
    run {} [.encode m none] = ([.encode m none (.error .unwritable)], {}) := by
  intro m
  have hfinding : ⟨"mmsi", .outOfRange Text.overlong 0 999999999⟩ ∈ m.findings := by
    decide +kernel
  have hlong : GatewayConfig.Overlong {} m := fun h =>
    Text.not_isWritable_overlong (h _ hfinding _ rfl)
  rw [run, perform_encode_overlong {} hlong]
  rfl

end Gateway

end AisStation
