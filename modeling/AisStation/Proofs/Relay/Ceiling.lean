import AisStation.Proofs.Relay.Connections

/-!
# The ceiling on clients

However connections, lines, failing writes and ends follow each other, a relay has no more members
than its configuration allows, and a connection that has come to its end, or was turned away when it
arrived, is closed and stays out.
-/

namespace AisStation

namespace Relay

variable {r r' : Relay} {event : Event}

/-- As many connections are members as the configuration allows, or more. -/
def isFull (r : Relay) : Bool :=
  r.config.maxClients ≤ r.clientCount

/-- The connection has come to its end: it is closed and no line is forwarded to it. -/
def HasEnded (r : Relay) (client : Nat) : Prop :=
  ∃ c, r.connections[client]? = some c ∧
    c.phase = .finished ∧ c.isClosed = true ∧ c.isMember = false

theorem HasEnded.precedes {client : Nat} (h : r.HasEnded client) (hr : r.Precedes r') :
    r'.HasEnded client := by
  obtain ⟨c, hc, hphase, hclosed, hmember⟩ := h
  obtain ⟨c', hc', hlater⟩ := hr client c hc
  refine ⟨c', hc', hlater.finished hphase, hlater.isClosed hclosed, ?_⟩
  cases hagain : c'.isMember with
  | false => rfl
  | true => exact absurd (hlater.isMember hagain) (by simp [hmember])

theorem HasEnded.isMember {client : Nat} (h : r.HasEnded client) : r.isMember client = false := by
  obtain ⟨c, hc, -, -, hmember⟩ := h
  rw [Relay.isMember, hc]
  exact hmember

/-! ## Arrivals -/

theorem connect_eq (r : Relay) : r.connect = { r with
    connections := r.connections ++ [if r.isFull then .rejected else .accepted]
    stats := { r.stats with
      clientsAccepted := r.stats.clientsAccepted + [r].countP (!·.isFull)
      clientsRejected := r.stats.clientsRejected + [r].countP (·.isFull) } } := by
  rw [connect]
  by_cases hfull : r.config.maxClients ≤ r.clientCount
  · simp [isFull, hfull]
  · simp [isFull, hfull]

theorem connections_connect (r : Relay) :
    r.connect.connections = r.connections ++ [if r.isFull then .rejected else .accepted] := by
  rw [connect_eq]

theorem getElem?_connect (r : Relay) :
    r.connect.connections[r.connections.length]? =
      some (if r.isFull then .rejected else .accepted) := by
  rw [connections_connect, List.getElem?_append_right (Nat.le_refl _), Nat.sub_self]
  rfl

/-- Whoever is turned away has come to its end. -/
theorem hasEnded_connect (hfull : r.isFull = true) : r.connect.HasEnded r.connections.length := by
  refine ⟨.rejected, ?_, rfl, rfl, rfl⟩
  rw [getElem?_connect, if_pos hfull]

/-- An event is an arrival or leaves the number of connections alone. -/
theorem Transition.arrival_cases (h : Transition r event r') :
    (r.arrival? event = some r ∧ r' = r.connect) ∨
    (r.arrival? event = none ∧ r'.connections.length = r.connections.length ∧
      r'.stats.clientsAccepted = r.stats.clientsAccepted ∧
      r'.stats.clientsRejected = r.stats.clientsRejected) := by
  cases h with
  | turnedAway hfull =>
    left
    refine ⟨rfl, ?_⟩
    rw [connect, if_pos hfull]
  | admitted hroom =>
    left
    refine ⟨rfl, ?_⟩
    rw [connect, if_neg (by omega)]
  | dropped hphase htext hline => exact .inr ⟨rfl, rfl, rfl, rfl⟩
  | forwarded hphase htext hline =>
    right
    refine ⟨rfl, ?_, ?_, ?_⟩ <;> simp [update]
  | flushed hphase =>
    right
    refine ⟨rfl, ?_, ?_, ?_⟩ <;> simp [endForward, update]
  | left hphase => exact .inr ⟨rfl, length_update r _ _, rfl, rfl⟩
  | ignored harrival htaking => exact .inr ⟨harrival, rfl, rfl, rfl⟩

theorem Transition.config (h : Transition r event r') : r'.config = r.config := by
  cases h with
  | forwarded hphase htext hline => simp [update]
  | flushed hphase => simp [endForward, update]
  | _ => rfl

theorem config_run (r : Relay) (events : List Event) : (r.run events).config = r.config :=
  run_induction (P := fun r' => r'.config = r.config) (fun h hr => h.config.trans hr) rfl events

/-- What is known when `seen` are the relays that all connections so far have found. -/
structure Admissions (r : Relay) (seen : List Relay) : Prop where
  length : r.connections.length = seen.length
  accepted : r.stats.clientsAccepted = seen.countP (!·.isFull)
  rejected : r.stats.clientsRejected = seen.countP (·.isFull)
  since : ∀ (client : Nat) (before : Relay), seen[client]? = some before →
    before.connections.length = client ∧ before.config = r.config ∧ before.connect.Precedes r

theorem Transition.admissions {seen : List Relay} (h : Transition r event r')
    (hr : r.Admissions seen) : r'.Admissions (seen ++ (r.arrival? event).toList) := by
  obtain ⟨harrival, hconnect⟩ | ⟨harrival, hlength, haccepted, hrejected⟩ := h.arrival_cases
  · rw [harrival, Option.toList_some]
    refine ⟨?_, ?_, ?_, ?_⟩
    · rw [hconnect, connections_connect, List.length_append, List.length_append, hr.length]
      rfl
    · rw [hconnect, connect_eq, List.countP_append, hr.accepted]
    · rw [hconnect, connect_eq, List.countP_append, hr.rejected]
    · intro client before hbefore
      -- the connection that arrives is the last one, and has just found `r`
      rcases Nat.lt_or_ge client seen.length with hlt | hge
      · rw [List.getElem?_append_left hlt] at hbefore
        obtain ⟨hclient, hconfig, hsince⟩ := hr.since client before hbefore
        exact ⟨hclient, hconfig.trans h.config.symm, hsince.trans h.precedes⟩
      · rw [List.getElem?_append_right hge, List.getElem?_singleton,
          Option.ite_none_right_eq_some] at hbefore
        obtain ⟨hzero, hlast⟩ := hbefore
        obtain rfl := Option.some.inj hlast
        have hlength := hr.length
        refine ⟨by omega, h.config.symm, ?_⟩
        rw [hconnect]
        exact .refl _
  · rw [harrival, Option.toList_none, List.append_nil]
    refine ⟨hlength.trans hr.length, haccepted.trans hr.accepted, hrejected.trans hr.rejected, ?_⟩
    intro client before hbefore
    obtain ⟨hclient, hconfig, hsince⟩ := hr.since client before hbefore
    exact ⟨hclient, hconfig.trans h.config.symm, hsince.trans h.precedes⟩

theorem admissions_run (config : RelayConfig) (gateway : Gateway) (events : List Event) :
    Admissions (({ config, gateway } : Relay).run events)
      (({ config, gateway } : Relay).arrivals events) := by
  refine trace_induction Transition.admissions ⟨rfl, rfl, rfl, ?_⟩ events
  intro client before hbefore
  exact absurd hbefore (by simp)

namespace Admissions

variable {seen : List Relay} {client : Nat}

theorem handled (h : r.Admissions seen) :
    r.stats.clientsAccepted + r.stats.clientsRejected = seen.length := by
  have hsplit := seen.length_eq_countP_add_countP (·.isFull)
  simp only [Bool.not_eq_true, Bool.decide_eq_false] at hsplit
  rw [h.accepted, h.rejected]
  omega

/-- Whoever was turned away stays out. -/
theorem hasEnded {before : Relay} (h : r.Admissions seen) (hbefore : seen[client]? = some before)
    (hfull : before.isFull = true) : r.HasEnded client := by
  obtain ⟨rfl, -, hsince⟩ := h.since client before hbefore
  exact (hasEnded_connect hfull).precedes hsince

/-- Whoever is a member has found room. -/
theorem exists_room (h : r.Admissions seen) (hmember : r.isMember client = true) :
    ∃ before, seen[client]? = some before ∧ before.isFull = false := by
  have hclient : client < seen.length := by
    rw [← h.length]
    exact lt_of_isMember hmember
  have hbefore := List.getElem?_eq_getElem hclient
  refine ⟨seen[client], hbefore, ?_⟩
  rw [Bool.eq_false_iff]
  intro hfull
  exact absurd hmember (by simp [(h.hasEnded hbefore hfull).isMember])

theorem isFull_iff {before : Relay} (h : r.Admissions seen)
    (hbefore : seen[client]? = some before) :
    before.isFull = true ↔ r.config.maxClients ≤ before.clientCount := by
  obtain ⟨-, hconfig, -⟩ := h.since client before hbefore
  rw [isFull, hconfig, decide_eq_true_iff]

end Admissions

theorem length_arrivals (r : Relay) (events : List Event) :
    (r.arrivals events).length = events.count .connect := by
  rw [arrivals]
  induction events generalizing r with
  | nil => rfl
  | cons event events ih =>
    rw [trace, List.length_append, ih, List.count_cons]
    cases event with
    | connect => exact Nat.add_comm _ _
    | _ => simp [arrival?]

/-! ## Members -/

theorem clientCount_eq (r : Relay) : r.clientCount = r.members.length := by
  have hmembers : r.connections.map (·.isMember) =
      (List.range r.connections.length).map r.isMember := by
    apply List.ext_getElem?
    intro i
    rw [List.getElem?_map, List.getElem?_map]
    rcases Nat.lt_or_ge i r.connections.length with hlt | hge
    · rw [List.getElem?_range hlt, List.getElem?_eq_getElem hlt]
      simp [Relay.isMember, hlt]
    · simp [hge]
  calc r.clientCount
      = (r.connections.map (·.isMember)).countP id := by rw [List.countP_map]; rfl
    _ = (List.range r.connections.length).countP r.isMember := by
        rw [hmembers, List.countP_map]; rfl
    _ = r.members.length := by rw [List.countP_eq_length_filter]; rfl

theorem Precedes.isMember {client : Nat} (h : r.Precedes r')
    (hclient : client < r.connections.length) (hmember : r'.isMember client = true) :
    r.isMember client = true := by
  have hc := List.getElem?_eq_getElem hclient
  obtain ⟨c', hc', hlater⟩ := h client _ hc
  rw [isMember_iff] at hmember ⊢
  obtain ⟨c'', hc'', hmember⟩ := hmember
  obtain rfl : c' = c'' := Option.some.inj (hc'.symm.trans hc'')
  exact ⟨_, hc, hlater.isMember hmember⟩

/-- Where nobody arrives there are no new members. -/
theorem Precedes.clientCount_le (h : r.Precedes r')
    (hlength : r'.connections.length = r.connections.length) :
    r'.clientCount ≤ r.clientCount := by
  rw [clientCount_eq, clientCount_eq, members, members, hlength, ← List.countP_eq_length_filter,
    ← List.countP_eq_length_filter]
  apply List.countP_mono_left
  intro i hi hmember
  exact h.isMember (List.mem_range.mp hi) hmember

theorem clientCount_connect (r : Relay) :
    r.connect.clientCount = r.clientCount + (if r.isFull then 0 else 1) := by
  rw [clientCount, connections_connect, List.countP_append]
  cases r.isFull <;> rfl

/-! ## What holds in every state -/

/-- A connection that has finished is closed and no member. -/
def Connection.IsSettled (c : Connection) : Prop :=
  c.phase = .finished → c.isClosed = true ∧ c.isMember = false

theorem Connection.IsSettled.write {c : Connection} (h : c.IsSettled) (text : String) :
    (c.write text).IsSettled :=
  h

theorem Connection.isSettled_drop (c : Connection) : c.drop.IsSettled :=
  fun _ => ⟨rfl, rfl⟩

theorem Connection.isSettled_finish (c : Connection) : c.finish.IsSettled :=
  fun _ => ⟨rfl, rfl⟩

theorem Connection.isSettled_phase {phase : Phase} (h : phase ≠ .finished) (c : Connection) :
    ({ c with phase } : Connection).IsSettled :=
  fun hfinished => absurd hfinished h

/-- The members do not exceed the ceiling, and every connection is settled. -/
structure Guarded (r : Relay) : Prop where
  clientCount_le : (r.clientCount : Int) ≤ max 0 r.config.maxClients
  isSettled : ∀ c ∈ r.connections, c.IsSettled

theorem Transition.clientCount_le (h : Transition r event r')
    (hr : (r.clientCount : Int) ≤ max 0 r.config.maxClients) :
    (r'.clientCount : Int) ≤ max 0 r'.config.maxClients := by
  rw [h.config]
  obtain ⟨-, hconnect⟩ | ⟨-, hlength, -, -⟩ := h.arrival_cases
  · rw [hconnect, clientCount_connect]
    cases hfull : r.isFull with
    | true => simpa using hr
    | false =>
      have hroom : (r.clientCount : Int) < r.config.maxClients := by simpa [isFull] using hfull
      simp only [Bool.false_eq_true, if_false]
      omega
  · -- the ceiling may be negative, but the members do not get more
    have hle := h.precedes.clientCount_le hlength
    omega

theorem Transition.isSettled (h : Transition r event r') (hr : ∀ c ∈ r.connections, c.IsSettled) :
    ∀ c ∈ r'.connections, c.IsSettled := by
  cases h with
  | turnedAway hfull =>
    intro c hc
    rcases List.mem_append.mp hc with hc | hc
    · exact hr c hc
    · obtain rfl := List.mem_singleton.mp hc
      exact fun _ => ⟨rfl, rfl⟩
  | admitted hroom =>
    intro c hc
    rcases List.mem_append.mp hc with hc | hc
    · exact hr c hc
    · obtain rfl := List.mem_singleton.mp hc
      intro hphase
      cases hphase
  | dropped hphase htext hline => exact hr
  | @forwarded sender bytes text m hphase htext hline =>
    have hwrite := forall_updateAll (fun c hc => hc.write (wire text)) (r.targets sender) hr
    exact forall_update (fun c _ => c.isSettled_phase Phase.noConfusion) hwrite
  | @flushed sender targets failed hphase =>
    have hdrop := forall_updateAll (fun c _ => c.isSettled_drop)
      (targets.filter (failed.contains ·)) hr
    exact forall_update (fun c _ => c.isSettled_phase Phase.noConfusion) hdrop
  | left hphase => exact forall_update (fun c _ => c.isSettled_finish) hr
  | ignored harrival htaking => exact hr

theorem Transition.guarded (h : Transition r event r') (hr : r.Guarded) : r'.Guarded :=
  ⟨h.clientCount_le hr.clientCount_le, h.isSettled hr.isSettled⟩

theorem guarded_run (config : RelayConfig) (gateway : Gateway) (events : List Event) :
    (({ config, gateway } : Relay).run events).Guarded := by
  refine run_induction Transition.guarded ⟨?_, ?_⟩ events
  · exact Int.le_max_left 0 config.maxClients
  · intro c hc
    exact absurd hc List.not_mem_nil

theorem Guarded.hasEnded {client : Nat} (h : r.Guarded) (hclient : client < r.connections.length)
    (hphase : r.phase client = .finished) : r.HasEnded client := by
  have hc := List.getElem?_eq_getElem hclient
  rw [phase_of_getElem? hc] at hphase
  exact ⟨_, hc, hphase, h.isSettled _ (List.getElem_mem hclient) hphase⟩

/-- A connection that is about to take a line and leaves instead has come to its end. -/
theorem hasEnded_leave {client : Nat} (hphase : r.phase client = .reading) :
    (r.step (.leave client)).HasEnded client := by
  have hstep : r.step (.leave client) = r.update client Connection.finish := by
    simp only [step, hphase]
  have hbusy : r.phase client ≠ .finished := by
    rw [hphase]
    exact Phase.noConfusion
  obtain ⟨c, hc, -⟩ := exists_of_phase_ne hbusy
  refine ⟨c.finish, ?_, rfl, rfl, rfl⟩
  rw [hstep, update, List.getElem?_modify_eq, hc]
  rfl

/-- Nobody is a member who has finished. -/
theorem Guarded.phase_ne {client : Nat} (h : r.Guarded) (hmember : r.isMember client = true) :
    r.phase client ≠ .finished := by
  intro hphase
  have hended := h.hasEnded (lt_of_isMember hmember) hphase
  exact absurd hmember (by simp [hended.isMember])

/-- However events follow each other in a relay that starts without connections, its members do not
exceed the ceiling; the connections it handled were accepted or turned away, the latter exactly when
it was full at their arrival; whoever is a member was accepted and has not finished; whoever was
turned away or has finished at some point is closed and no member from then on; and a connection
that leaves when it is about to take a line finishes with that. -/
theorem run_ceiling (config : RelayConfig) (gateway : Gateway) (events : List Event) :
    let start : Relay := { config, gateway }
    let r := start.run events
    r.config = config ∧
    (r.clientCount : Int) ≤ max 0 config.maxClients ∧
    r.stats.clientsAccepted + r.stats.clientsRejected = events.count .connect ∧
    r.stats.clientsRejected = (start.arrivals events).countP (·.isFull) ∧
    (∀ client, r.isMember client = true → r.phase client ≠ .finished ∧
      ∃ before, (start.arrivals events)[client]? = some before ∧
        before.clientCount < config.maxClients) ∧
    (∀ client before, (start.arrivals events)[client]? = some before →
      (before.connect.connections[client]? = some .rejected ↔
        config.maxClients ≤ before.clientCount) ∧
      (config.maxClients ≤ before.clientCount → r.HasEnded client)) ∧
    (∀ earlier later, events = earlier ++ later → ∀ client,
      client < (start.run earlier).connections.length →
      (start.run earlier).phase client = .finished → r.HasEnded client) ∧
    (∀ earlier client later, events = earlier ++ .leave client :: later →
      (start.run earlier).phase client = .reading → r.HasEnded client) := by
  intro start r
  have hadmissions : r.Admissions (start.arrivals events) := admissions_run config gateway events
  have hguarded : r.Guarded := guarded_run config gateway events
  have hconfig : r.config = config := config_run start events
  refine ⟨hconfig, ?_, ?_, hadmissions.rejected, ?_, ?_, ?_, ?_⟩
  · rw [← hconfig]
    exact hguarded.clientCount_le
  · rw [← length_arrivals start]
    exact hadmissions.handled
  · intro client hmember
    obtain ⟨before, hbefore, hroom⟩ := hadmissions.exists_room hmember
    refine ⟨hguarded.phase_ne hmember, before, hbefore, ?_⟩
    rw [Bool.eq_false_iff, ne_eq, hadmissions.isFull_iff hbefore, hconfig] at hroom
    exact Int.not_le.mp hroom
  · intro client before hbefore
    obtain ⟨rfl, -, -⟩ := hadmissions.since client before hbefore
    rw [← hconfig, ← hadmissions.isFull_iff hbefore, getElem?_connect]
    refine ⟨?_, hadmissions.hasEnded hbefore⟩
    cases before.isFull with
    | true => simp
    | false => simp [Connection.accepted, Connection.rejected]
  · rintro earlier later rfl client hclient hphase
    have hended := (guarded_run config gateway earlier).hasEnded hclient hphase
    rw [show r = (start.run earlier).run later from run_append start earlier later]
    exact hended.precedes (precedes_run _ later)
  · rintro earlier client later rfl hphase
    rw [show r = ((start.run earlier).step (.leave client)).run later from
      run_append start earlier (.leave client :: later)]
    exact (hasEnded_leave hphase).precedes (precedes_run _ later)

/-- With room for one, the second of two clients is turned away, and a third is accepted once the
first has left. -/
example :
    (({ config := { maxClients := 1 } } : Relay).run
      [.connect, .connect, .leave 0, .connect]).connections.map (·.isMember) =
      [false, false, true] := by
  decide

end Relay

end AisStation
