import AisStation.Proofs.Relay.Lines

/-!
# What a relay takes of a client

A client's handler takes a line, waits until its writes are through and takes the next one, while
other clients connect, send lines and leave. None of that makes a difference to what is taken: the
events that are about the client decide it.
-/

namespace AisStation

namespace Relay

variable {r r' : Relay} {event : Event} {events : List Event} {client : Nat}

/-! ## Events of others -/

/-- The connection that an event is about, unless one arrives. -/
def Event.client? : Event → Option Nat
  | connect => none
  | line sender _ => some sender
  | flushed sender _ => some sender
  | leave client => some client

theorem phase_update_of_ne {i : Nat} (h : i ≠ client) (r : Relay)
    (change : Connection → Connection) : (r.update i change).phase client = r.phase client := by
  rw [phase, phase, getElem?_update]
  cases r.connections[client]? with
  | none => rfl
  | some c => rw [Option.map_some, if_neg h]

theorem phase_of_append {connections : List Connection}
    (h : r'.connections = r.connections ++ connections) (harrived : client < r.connections.length) :
    r'.phase client = r.phase client := by
  rw [phase, phase, h, List.getElem?_append_left harrived]

/-- A connection that has arrived goes on only at events that are about it. -/
theorem phase_step_of_other (hother : event.client? ≠ some client)
    (harrived : client < r.connections.length) :
    (r.step event).phase client = r.phase client := by
  have htransition := r.transition_step event
  generalize r.step event = r' at htransition ⊢
  cases htransition with
  | turnedAway hfull => exact phase_of_append rfl harrived
  | admitted hroom => exact phase_of_append rfl harrived
  | dropped hphase htext hline => rfl
  | @forwarded sender bytes text m hphase htext hline =>
    have hne : sender ≠ client := fun h => hother (congrArg some h)
    refine (phase_update_of_ne hne _ _).trans ?_
    exact phase_updateAll (Connection.phase_write (wire text)) r (r.targets sender) client
  | @flushed sender targets failed hphase =>
    have hne : sender ≠ client := fun h => hother (congrArg some h)
    refine (phase_update_of_ne hne _ _).trans ?_
    exact phase_updateAll Connection.phase_drop r _ client
  | @left client' hphase =>
    have hne : client' ≠ client := fun h => hother (congrArg some h)
    exact phase_update_of_ne hne r Connection.finish
  | ignored harrival htaking => rfl

/-- Whoever has arrived stays among the connections. -/
theorem lt_length_step (harrived : client < r.connections.length) (event : Event) :
    client < (r.step event).connections.length := by
  obtain ⟨c, hc, -⟩ :=
    (r.transition_step event).precedes client _ (List.getElem?_eq_getElem harrived)
  exact (List.getElem?_eq_some_iff.mp hc).1

/-- Only an arrival adds a connection. -/
theorem length_step (h : event.client? ≠ none) :
    (r.step event).connections.length = r.connections.length := by
  rcases (r.transition_step event).arrival_cases with ⟨harrival, -⟩ | ⟨-, hlength, -, -⟩
  · cases event with
    | connect => exact absurd rfl h
    | _ => contradiction
  · exact hlength

theorem length_run (h : ∀ event ∈ events, event.client? ≠ none) (r : Relay) :
    (r.run events).connections.length = r.connections.length := by
  induction events generalizing r with
  | nil => rfl
  | cons event events ih =>
    obtain ⟨hevent, hevents⟩ := List.forall_mem_cons.mp h
    rw [run_cons, ih hevents, length_step hevent]

theorem phase_run_of_others (hothers : ∀ event ∈ events, event.client? ≠ some client)
    (harrived : client < r.connections.length) :
    (r.run events).phase client = r.phase client := by
  induction events generalizing r with
  | nil => rfl
  | cons event events ih =>
    obtain ⟨hevent, hevents⟩ := List.forall_mem_cons.mp hothers
    rw [run_cons, ih hevents (lt_length_step harrived event), phase_step_of_other hevent harrived]

/-! ## Lines that are taken -/

theorem trace_append {α : Type} (observed? : Relay → Event → Option α) (r : Relay)
    (earlier later : List Event) : r.trace observed? (earlier ++ later) =
      r.trace observed? earlier ++ (r.run earlier).trace observed? later := by
  induction earlier generalizing r with
  | nil => rfl
  | cons event earlier ih => rw [List.cons_append, trace, trace, ih, run_cons, List.append_assoc]

theorem exists_of_mem_taken {t : Taking} (ht : t ∈ r.taken events) :
    ∃ bytes, Event.line t.sender bytes ∈ events ∧ lineText? bytes = some t.text := by
  induction events generalizing r with
  | nil => exact absurd ht List.not_mem_nil
  | cons event events ih =>
    rcases List.mem_append.mp ht with ht | ht
    · obtain ⟨sender, bytes, htext, rfl, rfl, -, -⟩ := exists_of_taking? (Option.mem_toList.mp ht)
      exact ⟨bytes, List.mem_cons_self, htext⟩
    · obtain ⟨bytes, hmem, htext⟩ := ih ht
      exact ⟨bytes, List.mem_cons_of_mem _ hmem, htext⟩

/-- Whoever sent a line has arrived. -/
theorem sender_lt_of_mem_taken {t : Taking} (ht : t ∈ r.taken events) :
    t.sender < (r.run events).connections.length := by
  induction events generalizing r with
  | nil => exact absurd ht List.not_mem_nil
  | cons event events ih =>
    rw [run_cons]
    rcases List.mem_append.mp ht with ht | ht
    · have hphase : r.phase t.sender ≠ .finished := by
        have htaking := Option.mem_toList.mp ht
        obtain ⟨sender, bytes, htext, rfl, rfl, -, -⟩ := exists_of_taking? htaking
        intro hfinished
        simp only [taking?, hfinished] at htaking
        contradiction
      obtain ⟨c, hc, -⟩ := exists_of_phase_ne hphase
      obtain ⟨c', hc', -⟩ := (precedes_run r (event :: events)) t.sender c hc
      exact (List.getElem?_eq_some_iff.mp hc').1
    · exact ih ht

/-- The texts of the lines of a client that are taken, in their order. -/
def textsTaken (r : Relay) (client : Nat) (events : List Event) : List String :=
  ((r.taken events).filter (·.sender = client)).map (·.text)

theorem textsTaken_append (r : Relay) (client : Nat) (earlier later : List Event) :
    r.textsTaken client (earlier ++ later) =
      r.textsTaken client earlier ++ (r.run earlier).textsTaken client later := by
  rw [textsTaken, taken, trace_append, List.filter_append, List.map_append]
  rfl

theorem textsTaken_eq_nil (h : ∀ t ∈ r.taken events, t.sender ≠ client) :
    r.textsTaken client events = [] := by
  rw [textsTaken, List.map_eq_nil_iff, List.filter_eq_nil_iff]
  intro t ht hsender
  exact h t ht (of_decide_eq_true hsender)

theorem textsTaken_of_others (hothers : ∀ event ∈ events, event.client? ≠ some client) :
    r.textsTaken client events = [] := by
  refine textsTaken_eq_nil fun t ht hsender => ?_
  obtain ⟨bytes, hmem, -⟩ := exists_of_mem_taken ht
  exact hothers _ hmem (congrArg some hsender)

theorem textsTaken_cons (r : Relay) (client : Nat) (event : Event) (events : List Event) :
    r.textsTaken client (event :: events) =
      r.textsTaken client [event] ++ (r.step event).textsTaken client events :=
  r.textsTaken_append client [event] events

theorem textsTaken_line (r : Relay) (client : Nat) (bytes : List UInt8) :
    r.textsTaken client [.line client bytes] =
      if r.phase client = .reading then (lineText? bytes).toList else [] := by
  rw [textsTaken, taken, trace, trace, List.append_nil]
  cases hphase : r.phase client with
  | reading => cases htext : lineText? bytes <;> simp [taking?, hphase, htext]
  | _ => simp [taking?, hphase]

/-- From a connection that has finished nothing is taken any more. -/
theorem textsTaken_of_finished (hphase : r.phase client = .finished)
    (harrived : client < r.connections.length) (events : List Event) :
    r.textsTaken client events = [] := by
  induction events generalizing r with
  | nil => rfl
  | cons event events ih =>
    obtain ⟨c', hc', hprecedes⟩ :=
      (r.transition_step event).precedes client _ (List.getElem?_eq_getElem harrived)
    have hfinished : (r.step event).phase client = .finished := by
      rw [phase_of_getElem? hc']
      apply hprecedes.finished
      rw [← phase_of_getElem? (List.getElem?_eq_getElem harrived), hphase]
    have hone : r.textsTaken client [event] = [] := by
      refine textsTaken_eq_nil fun t ht hsender => ?_
      have htaking : r.taking? event = some t := by
        rw [taken, trace, trace, List.append_nil] at ht
        exact Option.mem_toList.mp ht
      obtain ⟨sender, bytes, -, rfl, rfl, -, -⟩ := exists_of_taking? htaking
      simp only [taking?, hsender, hphase] at htaking
      contradiction
    rw [textsTaken_cons, hone, ih hfinished (lt_length_step harrived event)]
    rfl

/-- The events by which lines of a client are taken, the writes of each one through before the
next. -/
def taking (client : Nat) (failed : List Nat) (lines : List (List UInt8)) : List Event :=
  lines.flatMap fun line => [.line client line, .flushed client failed]

/-- Lines that are taken one after the other are all handed to the gateway, except for blank
ones. -/
theorem textsTaken_taking (hphase : r.phase client = .reading) (failed : List Nat)
    (lines : List (List UInt8)) :
    r.textsTaken client (taking client failed lines) = lineTexts lines ∧
      (r.run (taking client failed lines)).phase client = .reading := by
  rw [← filterMap_lineText?]
  induction lines generalizing r with
  | nil => exact ⟨rfl, hphase⟩
  | cons line lines ih =>
    let between := r.run [.line client line, .flushed client failed]
    have hbetween : between.phase client = .reading :=
      phase_step_flushed (phase_step_line hphase line) failed
    obtain ⟨htexts, hlater⟩ := ih hbetween
    have hone : r.textsTaken client [.line client line, .flushed client failed] =
        (lineText? line).toList := by
      rw [textsTaken_cons, textsTaken_line, if_pos hphase]
      exact List.append_nil _
    have hsplit : taking client failed (line :: lines) =
        [.line client line, .flushed client failed] ++ taking client failed lines := rfl
    constructor
    · rw [hsplit, textsTaken_append, hone, htexts, List.filterMap_cons]
      cases lineText? line <;> rfl
    · rw [hsplit, run_append]
      exact hlater

/-- Nothing is taken of a client behind the line with which it leaves. -/
theorem textsTaken_taking_leave (hphase : r.phase client = .reading) (failed : List Nat)
    (lines : List (List UInt8)) (later : List Event) :
    r.textsTaken client ((taking client failed lines ++ [.leave client]) ++ later) =
      lineTexts lines := by
  obtain ⟨htexts, hlast⟩ := textsTaken_taking hphase failed lines
  generalize taking client failed lines = events at htexts hlast ⊢
  obtain ⟨c, hc, -⟩ := exists_of_phase_ne (hlast.trans_ne Phase.noConfusion)
  have harrived := (List.getElem?_eq_some_iff.mp hc).1
  have hnone : (r.run events).textsTaken client (.leave client :: later) = [] := by
    rw [textsTaken_cons,
      textsTaken_of_finished (phase_step_leave hlast) (lt_length_step harrived (.leave client))]
    rfl
  rw [List.append_assoc, textsTaken_append, htexts, List.singleton_append, hnone, List.append_nil]

/-! ## What others do in between -/

/-- The events that are about a connection. -/
def eventsOf (client : Nat) (events : List Event) : List Event :=
  events.filter (·.client? = some client)

theorem eventsOf_cons (client : Nat) (event : Event) (events : List Event) :
    eventsOf client (event :: events) =
      if event.client? = some client then event :: eventsOf client events
      else eventsOf client events := by
  rw [eventsOf, List.filter_cons]
  simp only [decide_eq_true_iff]
  rfl

/-- The phase, whoever is waited for. -/
def Phase.plain : Phase → Phase
  | forwarding _ => forwarding []
  | phase => phase

/-- What a connection is about to do after an event that is about it. -/
def Phase.after (config : GatewayConfig) : Phase → Event → Phase
  | reading, .line _ bytes =>
    match lineText? bytes with
    | some text => if (config.receive text).message?.isSome then forwarding [] else reading
    | none => reading
  | reading, .leave _ => finished
  | forwarding _, .flushed _ _ => reading
  | phase, _ => phase

theorem Phase.plain_eq_reading {phase : Phase} : phase.plain = .reading ↔ phase = .reading := by
  cases phase <;> simp [plain]

/-- A connection waits after a line with a record, and goes on after any other line. -/
theorem phase_step_line_eq {bytes : List UInt8} {text : String}
    (hphase : r.phase client = .reading) (htext : lineText? bytes = some text) :
    (r.step (.line client bytes)).phase client =
      if (r.gateway.config.receive text).message?.isSome then .forwarding (r.targets client)
      else .reading := by
  have htaking := taking?_line hphase htext
  have htransition := r.transition_step (.line client bytes)
  generalize r.step (.line client bytes) = r' at htransition ⊢
  cases htransition with
  | @dropped _ _ text' hphase' htext' hline =>
    obtain rfl := Option.some.inj (htext'.symm.trans htext)
    have hmessage : (r.gateway.config.receive text').message? = none := hline
    rw [hmessage, if_neg (by simp)]
    exact hphase
  | @forwarded _ _ text' m hphase' htext' hline =>
    obtain rfl := Option.some.inj (htext'.symm.trans htext)
    have hmessage : (r.gateway.config.receive text').message? = some m := hline
    have hwritten : (r.updateAll (r.targets client) (·.write (wire text'))).phase client =
        .reading := by
      rw [phase_updateAll (Connection.phase_write (wire text')), hphase]
    refine (phase_update (hwritten.trans_ne Phase.noConfusion) (.forwarding _)).trans ?_
    rw [hmessage]
    rfl
  | ignored harrival hignored =>
    rw [htaking] at hignored
    contradiction

/-- What a connection does next depends on nothing but the events that are about it, and on how
lines are decoded. -/
theorem plain_phase_step (h : event.client? = some client) :
    ((r.step event).phase client).plain =
      (r.phase client).plain.after r.gateway.config event := by
  cases event with
  | connect => contradiction
  | line sender bytes =>
    obtain rfl : sender = client := Option.some.inj h
    cases hphase : r.phase sender with
    | reading =>
      cases htext : lineText? bytes with
      | none => simp [step, hphase, htext, Phase.plain, Phase.after]
      | some text =>
        rw [phase_step_line_eq hphase htext]
        simp only [Phase.plain, Phase.after, htext]
        cases (r.gateway.config.receive text).message?.isSome <;> rfl
    | _ => simp [step, hphase, Phase.plain, Phase.after]
  | flushed sender failed =>
    obtain rfl : sender = client := Option.some.inj h
    cases hphase : r.phase sender with
    | forwarding targets =>
      rw [phase_step_flushed (hphase.trans_ne Phase.noConfusion)]
      rfl
    | _ => simp [step, hphase, Phase.plain, Phase.after]
  | leave sender =>
    obtain rfl : sender = client := Option.some.inj h
    cases hphase : r.phase sender with
    | reading =>
      rw [phase_step_leave hphase]
      rfl
    | _ => simp [step, hphase, Phase.plain, Phase.after]

theorem Transition.gatewayConfig (h : Transition r event r') :
    r'.gateway.config = r.gateway.config := by
  cases h with
  | flushed hphase =>
    rw [endForward]
    simp [update]
  | _ => rfl

/-- Two relays that are at one in what a connection is about to do and in how they decode lines. -/
structure Agree (client : Nat) (r r' : Relay) : Prop where
  phase : (r.phase client).plain = (r'.phase client).plain
  config : r.gateway.config = r'.gateway.config

theorem Agree.refl (client : Nat) (r : Relay) : Agree client r r :=
  ⟨rfl, rfl⟩

theorem Agree.step (h : Agree client r r') (hown : event.client? = some client) :
    Agree client (r.step event) (r'.step event) where
  phase := by rw [plain_phase_step hown, plain_phase_step hown, h.phase, h.config]
  config := by
    rw [(r.transition_step event).gatewayConfig, (r'.transition_step event).gatewayConfig, h.config]

theorem Agree.step_of_other (h : Agree client r r') (hother : event.client? ≠ some client)
    (harrived : client < r.connections.length) : Agree client (r.step event) r' where
  phase := by rw [phase_step_of_other hother harrived, h.phase]
  config := by rw [(r.transition_step event).gatewayConfig, h.config]

theorem Agree.textsTaken_singleton (h : Agree client r r') (hown : event.client? = some client) :
    r.textsTaken client [event] = r'.textsTaken client [event] := by
  cases event with
  | line sender bytes =>
    obtain rfl : sender = client := Option.some.inj hown
    have hreading : r.phase sender = .reading ↔ r'.phase sender = .reading := by
      rw [← Phase.plain_eq_reading, h.phase, Phase.plain_eq_reading]
    rw [textsTaken_line, textsTaken_line, if_congr hreading rfl rfl]
  | _ => rfl

/-- What is taken of a client is what would be taken if there were no events but its own. -/
theorem Agree.textsTaken (h : Agree client r r') (harrived : client < r.connections.length)
    (events : List Event) :
    r.textsTaken client events = r'.textsTaken client (eventsOf client events) := by
  induction events generalizing r r' with
  | nil => rfl
  | cons event events ih =>
    have hlater := lt_length_step harrived event
    rw [textsTaken_cons, eventsOf_cons]
    by_cases hown : event.client? = some client
    · rw [if_pos hown, r'.textsTaken_cons, h.textsTaken_singleton hown, ih (h.step hown) hlater]
    · have hnone : r.textsTaken client [event] = [] := by
        refine textsTaken_of_others fun event' hevent' => ?_
        rwa [List.mem_singleton.mp hevent']
      rw [if_neg hown, hnone, ih (h.step_of_other hown harrived) hlater]
      rfl

/-- However the events of others come in between, the same lines of a client are taken. -/
theorem textsTaken_congr (harrived : client < r.connections.length) {events' : List Event}
    (h : eventsOf client events = eventsOf client events') :
    r.textsTaken client events = r.textsTaken client events' := by
  rw [(Agree.refl client r).textsTaken harrived events, h,
    ← (Agree.refl client r).textsTaken harrived events']

end Relay

end AisStation
