import AisStation.Proofs.Accounting
import AisStation.Proofs.Relay.Connections

/-!
# The counters of a relay and of its gateway

The gateway counts a line when it is taken, the relay counts it as forwarded when its writes are
through. In between the connection that took the line waits, so the two counts differ by the
connections that wait.
-/

namespace AisStation

/-! ## The gateway -/

namespace Inbound

theorem messagesDecoded_count (outcome : Inbound) (s : CodecStats) :
    (outcome.count s).messagesDecoded =
      s.messagesDecoded + (if outcome.message?.isSome then 1 else 0) := by
  cases outcome with
  | codecError error => cases error <;> rfl
  | _ => rfl

end Inbound

theorem Gateway.sentencesReceived_processLine (g : Gateway) (line : String) :
    (g.processLine line).2.stats.sentencesReceived = g.stats.sentencesReceived + 1 :=
  (g.config.receive line).sentencesReceived_count g.stats

theorem Gateway.messagesDecoded_processLine (g : Gateway) (line : String) :
    (g.processLine line).2.stats.messagesDecoded =
      g.stats.messagesDecoded + (if (g.processLine line).1.isSome then 1 else 0) :=
  (g.config.receive line).messagesDecoded_count g.stats

namespace Relay

variable {r r' : Relay} {event : Event} {change : Connection → Connection}

/-! ## Connections that wait -/

/-- Are writes of the connection's last line under way? -/
def Phase.isForwarding : Phase → Bool
  | .forwarding _ => true
  | _ => false

/-- The number of connections that wait until their last line is written to all others. -/
def pending (r : Relay) : Nat :=
  r.connections.countP (·.phase.isForwarding)

theorem pending_updateAll (hchange : ∀ c, (change c).phase = c.phase) (r : Relay)
    (clients : List Nat) : (r.updateAll clients change).pending = r.pending := by
  have hphases (r : Relay) :
      r.pending = (r.connections.map (·.phase)).countP Phase.isForwarding := by
    rw [List.countP_map]
    rfl
  rw [hphases, hphases, map_updateAll hchange]

/-- Where a connection goes on to another phase, only its own part in the count changes. -/
theorem pending_update {client : Nat} {before after : Phase} (hbefore : r.phase client = before)
    (harrived : before ≠ .finished) (hafter : ∀ c, (change c).phase = after) :
    (r.update client change).pending + (if before.isForwarding then 1 else 0) =
      r.pending + (if after.isForwarding then 1 else 0) := by
  obtain ⟨c, hc, hphase⟩ := exists_of_phase_ne (hbefore ▸ harrived)
  have hcount := countP_update hc (·.phase.isForwarding) change
  rw [hphase, hbefore, hafter] at hcount
  exact hcount

theorem pending_append {c : Connection} (h : c.phase.isForwarding = false) (r : Relay) :
    (r.connections ++ [c]).countP (·.phase.isForwarding) = r.pending := by
  rw [List.countP_append, List.countP_singleton, h]
  rfl

theorem pending_forward {sender : Nat} (hphase : r.phase sender = .reading) (text : String)
    (targets : List Nat) :
    ((r.updateAll targets (·.write text)).update sender
      ({ · with phase := .forwarding targets })).pending = r.pending + 1 := by
  have hwrite := phase_updateAll (Connection.phase_write text) r targets sender
  have hpending := pending_update (hwrite.trans hphase) Phase.noConfusion
    (fun _ => rfl : ∀ c : Connection, ({ c with phase := .forwarding targets }).phase = _)
  rw [pending_updateAll (Connection.phase_write text)] at hpending
  exact hpending

theorem pending_endForward {sender : Nat} {targets : List Nat}
    (hphase : r.phase sender = .forwarding targets) (failed : List Nat) :
    (r.endForward sender targets failed).pending + 1 = r.pending := by
  have hdrop := phase_updateAll Connection.phase_drop r
    (targets.filter (failed.contains ·)) sender
  have hpending := pending_update (hdrop.trans hphase) Phase.noConfusion
    (fun _ => rfl : ∀ c : Connection, ({ c with phase := .reading }).phase = _)
  rw [pending_updateAll Connection.phase_drop] at hpending
  exact hpending

theorem forwarded_endForward (r : Relay) (sender : Nat) (targets failed : List Nat) :
    (r.endForward sender targets failed).stats.sentencesForwarded =
      r.stats.sentencesForwarded + 1 :=
  congrArg (·.sentencesForwarded + 1) (stats_updateAll r _ _)

theorem pending_finish {client : Nat} (hphase : r.phase client = .reading) :
    (r.update client Connection.finish).pending = r.pending :=
  pending_update hphase Phase.noConfusion (fun _ => rfl : ∀ c : Connection, c.finish.phase = _)

/-! ## The balance -/

/-- Every line that the gateway counted was dropped or decoded, and every line that it decoded was
forwarded or is being forwarded. -/
structure Balanced (r : Relay) : Prop where
  received : r.stats.sentencesDropped + r.gateway.stats.messagesDecoded =
    r.gateway.stats.sentencesReceived
  decoded : r.stats.sentencesForwarded + r.pending = r.gateway.stats.messagesDecoded

theorem Transition.balanced (h : Transition r event r') (hr : r.Balanced) : r'.Balanced := by
  have hreceived := hr.received
  have hdecoded := hr.decoded
  cases h with
  | turnedAway hfull =>
    refine ⟨hreceived, ?_⟩
    rw [pending, pending_append rfl]
    exact hdecoded
  | admitted hroom =>
    refine ⟨hreceived, ?_⟩
    rw [pending, pending_append rfl]
    exact hdecoded
  | @dropped sender bytes text hphase htext hline =>
    have hreceived' := r.gateway.sentencesReceived_processLine text
    have hdecoded' := r.gateway.messagesDecoded_processLine text
    rw [hline, Option.isSome_none, if_neg Bool.false_ne_true] at hdecoded'
    constructor
    · show r.stats.sentencesDropped + 1 + (r.gateway.processLine text).2.stats.messagesDecoded =
        (r.gateway.processLine text).2.stats.sentencesReceived
      omega
    · exact hdecoded.trans hdecoded'.symm
  | @forwarded sender bytes text m hphase htext hline =>
    have hreceived' := r.gateway.sentencesReceived_processLine text
    have hdecoded' := r.gateway.messagesDecoded_processLine text
    rw [hline, Option.isSome_some, if_pos rfl] at hdecoded'
    have hpending := pending_forward hphase (wire text) (r.targets sender)
    have hstats : ((r.updateAll (r.targets sender) (·.write (wire text))).update sender
        ({ · with phase := .forwarding (r.targets sender) })).stats = r.stats :=
      stats_updateAll r _ _
    constructor
    · calc _ = r.stats.sentencesDropped + (r.gateway.processLine text).2.stats.messagesDecoded :=
            congrArg (·.sentencesDropped + _) hstats
        _ = (r.gateway.processLine text).2.stats.sentencesReceived := by omega
    · calc _ = r.stats.sentencesForwarded + (r.pending + 1) :=
            congrArg₂ (·.sentencesForwarded + ·) hstats hpending
        _ = (r.gateway.processLine text).2.stats.messagesDecoded := by omega
  | @flushed sender targets failed hphase =>
    have hpending := pending_endForward hphase failed
    have hgateway : (r.endForward sender targets failed).gateway = r.gateway :=
      gateway_updateAll r _ _
    have hdropped : (r.endForward sender targets failed).stats.sentencesDropped =
        r.stats.sentencesDropped :=
      congrArg (·.sentencesDropped) (stats_updateAll r _ _)
    have hforwarded := forwarded_endForward r sender targets failed
    constructor
    · rw [hdropped, hgateway]
      exact hreceived
    · rw [hforwarded, hgateway]
      omega
  | left hphase => exact ⟨hreceived, (congrArg _ (pending_finish hphase)).trans hdecoded⟩
  | ignored harrival htaking => exact hr

theorem balanced_run (config : RelayConfig) (gatewayConfig : GatewayConfig) (events : List Event) :
    (({ config, gateway := { config := gatewayConfig } } : Relay).run events).Balanced :=
  run_induction Transition.balanced ⟨rfl, rfl⟩ events

/-! ## Lines that are taken -/

theorem Transition.sentencesReceived (h : Transition r event r') :
    r'.gateway.stats.sentencesReceived =
      r.gateway.stats.sentencesReceived + (r.taking? event).toList.length := by
  cases h with
  | @dropped sender bytes text hphase htext hline =>
    rw [taking?_line hphase htext]
    exact r.gateway.sentencesReceived_processLine text
  | @forwarded sender bytes text m hphase htext hline =>
    rw [taking?_line hphase htext]
    exact r.gateway.sentencesReceived_processLine text
  | @flushed sender targets failed hphase =>
    exact congrArg (·.stats.sentencesReceived) (gateway_updateAll r _ _)
  | ignored harrival htaking =>
    rw [htaking]
    rfl
  | _ => rfl

theorem sentencesReceived_run (r : Relay) (events : List Event) :
    (r.run events).gateway.stats.sentencesReceived =
      r.gateway.stats.sentencesReceived + (r.taken events).length := by
  refine trace_induction (P := fun r' seen => r'.gateway.stats.sentencesReceived =
    r.gateway.stats.sentencesReceived + seen.length) ?_ rfl events
  intro before after event seen h hbefore
  rw [h.sentencesReceived, hbefore, List.length_append, Nat.add_assoc]

/-- However events follow each other in a relay that starts without connections, on a gateway of its
own: the lines it dropped are those the gateway counted without decoding a record, the lines it
forwarded or is forwarding are those the gateway decoded, and together they are the lines that
were taken. Where the writes of a line are through, one line less is under way and one more is
forwarded. -/
theorem run_counters (config : RelayConfig) (gatewayConfig : GatewayConfig)
    (events : List Event) :
    let start : Relay := { config, gateway := { config := gatewayConfig } }
    let r := start.run events
    r.gateway.stats.messagesDecoded ≤ r.gateway.stats.sentencesReceived ∧
    r.stats.sentencesDropped =
      r.gateway.stats.sentencesReceived - r.gateway.stats.messagesDecoded ∧
    r.stats.sentencesForwarded + r.pending = r.gateway.stats.messagesDecoded ∧
    r.stats.sentencesForwarded + r.stats.sentencesDropped + r.pending =
      r.gateway.stats.sentencesReceived ∧
    r.gateway.stats.sentencesReceived = (start.taken events).length ∧
    (∀ earlier sender targets failed later, events = earlier ++ .flushed sender failed :: later →
      (start.run earlier).phase sender = .forwarding targets →
      let after := start.run (earlier ++ [.flushed sender failed])
      after.pending + 1 = (start.run earlier).pending ∧
        after.stats.sentencesForwarded = (start.run earlier).stats.sentencesForwarded + 1) := by
  intro start r
  have hbalanced : r.Balanced := balanced_run config gatewayConfig events
  have hreceived := hbalanced.received
  have hdecoded := hbalanced.decoded
  have htaken : r.gateway.stats.sentencesReceived = 0 + (start.taken events).length :=
    sentencesReceived_run start events
  refine ⟨by omega, by omega, hdecoded, by omega, by omega, ?_⟩
  intro earlier sender targets failed later hevents hphase
  have hstep : start.run (earlier ++ [.flushed sender failed]) =
      (start.run earlier).endForward sender targets failed := by
    rw [run_append, run_cons, step, hphase]
    rfl
  rw [hstep]
  exact ⟨pending_endForward hphase failed, forwarded_endForward _ sender targets failed⟩

end Relay

end AisStation
