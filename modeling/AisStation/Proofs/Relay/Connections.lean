import AisStation.Proofs.Relay.Transition

/-!
# The connections of a relay in the course of a run

A connection only ever moves on: it does not come back once it has finished, it is not opened again
once it is closed, nobody is a member a second time, and what was written to it stays written. A
change that leaves some part of every connection alone leaves it alone for the whole relay.
-/

namespace AisStation

namespace Relay

variable {r r' r'' : Relay} {event : Event} {change : Connection → Connection}

/-! ## Runs -/

theorem run_cons (r : Relay) (event : Event) (events : List Event) :
    r.run (event :: events) = (r.step event).run events := rfl

theorem run_append (r : Relay) (earlier later : List Event) :
    r.run (earlier ++ later) = (r.run earlier).run later :=
  List.foldl_append

/-- What every transition keeps is kept in every run. -/
theorem run_induction {P : Relay → Prop}
    (hstep : ∀ {r r' : Relay} {event : Event}, Transition r event r' → P r → P r') (h : P r)
    (events : List Event) : P (r.run events) := by
  induction events generalizing r with
  | nil => exact h
  | cons event events ih => exact ih (hstep (r.transition_step event) h)

/-- What every transition keeps between a relay and all that was observed before it holds at the end
of every run. -/
theorem trace_induction {α : Type} {observed? : Relay → Event → Option α}
    {P : Relay → List α → Prop}
    (hstep : ∀ {r r' : Relay} {event : Event} {seen : List α}, Transition r event r' → P r seen →
      P r' (seen ++ (observed? r event).toList))
    (h : P r []) (events : List Event) : P (r.run events) (r.trace observed? events) := by
  -- the induction is on the events, for anything that was observed before them
  suffices ∀ seen, P r seen → P (r.run events) (seen ++ r.trace observed? events) from this [] h
  clear h
  induction events generalizing r with
  | nil =>
    intro seen h
    rwa [trace, List.append_nil]
  | cons event events ih =>
    intro seen h
    rw [run_cons, trace, ← List.append_assoc]
    exact ih _ (hstep (r.transition_step event) h)

theorem forall_trace {α : Type} {observed? : Relay → Event → Option α} {P : α → Prop}
    (h : ∀ r event a, observed? r event = some a → P a) (r : Relay) (events : List Event) :
    ∀ a ∈ r.trace observed? events, P a := by
  induction events generalizing r with
  | nil => simp [trace]
  | cons event events ih =>
    intro a ha
    rcases List.mem_append.mp ha with ha | ha
    · exact h r event a (Option.mem_toList.mp ha)
    · exact ih (r.step event) a ha

/-! ## Parts of connections -/

/-- A part of the elements that the change of one element leaves alone is the same for all. -/
theorem map_modify_of_eq {α β : Type} {p : α → β} {f : α → α} (h : ∀ a, p (f a) = p a)
    (l : List α) (i : Nat) : (l.modify i f).map p = l.map p := by
  apply List.ext_getElem?
  intro j
  rw [List.getElem?_map, List.getElem?_map, List.getElem?_modify]
  cases l[j]? with
  | none => rfl
  | some a =>
    by_cases hij : i = j
    · simp [hij, h]
    · simp [hij]

theorem map_updateAll {β : Type} {p : Connection → β} (h : ∀ c, p (change c) = p c) (r : Relay)
    (clients : List Nat) : (r.updateAll clients change).connections.map p = r.connections.map p := by
  induction clients generalizing r with
  | nil => rfl
  | cons i clients ih =>
    exact (ih (r.update i change)).trans (map_modify_of_eq h r.connections i)

@[simp] theorem length_update (r : Relay) (client : Nat) (change : Connection → Connection) :
    (r.update client change).connections.length = r.connections.length :=
  List.length_modify change r.connections client

@[simp] theorem length_updateAll (r : Relay) (clients : List Nat) (change : Connection → Connection) :
    (r.updateAll clients change).connections.length = r.connections.length := by
  induction clients generalizing r with
  | nil => rfl
  | cons i clients ih =>
    exact (ih (r.update i change)).trans (length_update r i change)

@[simp] theorem config_updateAll (r : Relay) (clients : List Nat)
    (change : Connection → Connection) : (r.updateAll clients change).config = r.config := by
  rw [updateAll_eq]

@[simp] theorem gateway_updateAll (r : Relay) (clients : List Nat)
    (change : Connection → Connection) : (r.updateAll clients change).gateway = r.gateway := by
  rw [updateAll_eq]

@[simp] theorem stats_updateAll (r : Relay) (clients : List Nat)
    (change : Connection → Connection) : (r.updateAll clients change).stats = r.stats := by
  rw [updateAll_eq]

theorem phase_eq (r : Relay) (client : Nat) :
    r.phase client = ((r.connections.map (·.phase))[client]?).getD .finished := by
  rw [phase, List.getElem?_map]
  cases r.connections[client]? <;> rfl

theorem isMember_eq (r : Relay) (client : Nat) :
    r.isMember client = ((r.connections.map (·.isMember))[client]?).getD false := by
  rw [isMember, List.getElem?_map]
  cases r.connections[client]? <;> rfl

theorem phase_of_getElem? {client : Nat} {c : Connection} (h : r.connections[client]? = some c) :
    r.phase client = c.phase := by
  simp only [phase, h]

theorem isMember_iff {client : Nat} :
    r.isMember client = true ↔ ∃ c, r.connections[client]? = some c ∧ c.isMember = true := by
  rw [isMember]
  cases r.connections[client]? with
  | none => simp
  | some c => simp

theorem lt_of_isMember {client : Nat} (h : r.isMember client = true) :
    client < r.connections.length := by
  obtain ⟨c, hc, -⟩ := isMember_iff.mp h
  exact (List.getElem?_eq_some_iff.mp hc).1

/-- A connection that is about to do something has arrived. -/
theorem exists_of_phase_ne {client : Nat} (h : r.phase client ≠ .finished) :
    ∃ c, r.connections[client]? = some c ∧ c.phase = r.phase client := by
  cases hc : r.connections[client]? with
  | none =>
    rw [phase, hc] at h
    exact absurd rfl h
  | some c => exact ⟨c, rfl, (phase_of_getElem? hc).symm⟩

theorem getElem?_update (r : Relay) (i : Nat) (change : Connection → Connection) (j : Nat) :
    (r.update i change).connections[j]? =
      r.connections[j]?.map fun c => if i = j then change c else c :=
  List.getElem?_modify change i r.connections j

/-- How many connections have some property depends on the changed one alone. -/
theorem countP_update {client : Nat} {c : Connection} (hc : r.connections[client]? = some c)
    (p : Connection → Bool) (change : Connection → Connection) :
    (r.update client change).connections.countP p + (if p c then 1 else 0) =
      r.connections.countP p + (if p (change c) then 1 else 0) := by
  have hclient := (List.getElem?_eq_some_iff.mp hc).1
  -- the connections before and after the changed one stay as they are
  obtain ⟨before, c', after, hsplit, hlength, hmodify⟩ := List.exists_of_modify change hclient
  have hc' : c' = c := by
    rw [hsplit, List.getElem?_append_right (by omega), hlength, Nat.sub_self] at hc
    exact Option.some.inj hc
  have hupdate : (r.update client change).connections = before ++ change c' :: after := hmodify
  rw [hupdate, hsplit, hc', List.countP_append, List.countP_append, List.countP_cons,
    List.countP_cons]
  omega

/-- What holds of all connections and is kept by a change holds of all connections after it. -/
theorem forall_update {P : Connection → Prop} (hchange : ∀ c, P c → P (change c)) {client : Nat}
    (h : ∀ c ∈ r.connections, P c) : ∀ c ∈ (r.update client change).connections, P c := by
  intro c hc
  obtain ⟨j, hj⟩ := List.mem_iff_getElem?.mp hc
  rw [getElem?_update] at hj
  obtain ⟨c', hc', rfl⟩ := Option.map_eq_some_iff.mp hj
  have hp := h c' (List.mem_of_getElem? hc')
  split
  · exact hchange c' hp
  · exact hp

theorem forall_updateAll {P : Connection → Prop} (hchange : ∀ c, P c → P (change c))
    (clients : List Nat) (h : ∀ c ∈ r.connections, P c) :
    ∀ c ∈ (r.updateAll clients change).connections, P c := by
  induction clients generalizing r with
  | nil => exact h
  | cons i clients ih => exact ih (forall_update hchange h)

end Relay

/-! ## Later states of a connection -/

namespace Relay.Connection

/-- `c'` is a state that a connection may come to be in after `c`. -/
structure Precedes (c c' : Connection) : Prop where
  finished : c.phase = .finished → c'.phase = .finished
  isMember : c'.isMember = true → c.isMember = true
  isClosed : c.isClosed = true → c'.isClosed = true
  received : c.received <+: c'.received

theorem Precedes.refl (c : Connection) : c.Precedes c :=
  ⟨id, id, id, List.prefix_rfl⟩

theorem Precedes.trans {c c' c'' : Connection} (h : c.Precedes c') (h' : c'.Precedes c'') :
    c.Precedes c'' :=
  ⟨h'.finished ∘ h.finished, h.isMember ∘ h'.isMember, h'.isClosed ∘ h.isClosed,
    h.received.trans h'.received⟩

@[simp] theorem phase_write (text : String) (c : Connection) : (c.write text).phase = c.phase := rfl

@[simp] theorem phase_drop (c : Connection) : c.drop.phase = c.phase := rfl

@[simp] theorem received_drop (c : Connection) : c.drop.received = c.received := rfl

@[simp] theorem received_finish (c : Connection) : c.finish.received = c.received := rfl

theorem precedes_write (text : String) (c : Connection) : c.Precedes (c.write text) :=
  ⟨id, id, id, List.prefix_append c.received [text]⟩

theorem precedes_drop (c : Connection) : c.Precedes c.drop :=
  ⟨id, fun h => absurd h Bool.false_ne_true, fun _ => rfl, List.prefix_rfl⟩

theorem precedes_finish (c : Connection) : c.Precedes c.finish :=
  ⟨fun _ => rfl, fun h => absurd h Bool.false_ne_true, fun _ => rfl, List.prefix_rfl⟩

/-- A connection that has not finished may go on to anything. -/
theorem precedes_phase {c : Connection} (h : c.phase ≠ .finished) (phase : Phase) :
    c.Precedes { c with phase } :=
  ⟨fun hfinished => absurd hfinished h, id, id, List.prefix_rfl⟩

end Relay.Connection

namespace Relay

variable {r r' r'' : Relay} {event : Event} {change : Connection → Connection}

/-- Every connection of `r` is one of `r'`, in a later state. -/
def Precedes (r r' : Relay) : Prop :=
  ∀ (i : Nat) (c : Connection), r.connections[i]? = some c →
    ∃ c' : Connection, r'.connections[i]? = some c' ∧ c.Precedes c'

theorem Precedes.refl (r : Relay) : r.Precedes r :=
  fun _ c hc => ⟨c, hc, .refl c⟩

theorem Precedes.trans (h : r.Precedes r') (h' : r'.Precedes r'') : r.Precedes r'' := by
  intro i c hc
  obtain ⟨c', hc', hlater⟩ := h i c hc
  obtain ⟨c'', hc'', hlater'⟩ := h' i c' hc'
  exact ⟨c'', hc'', hlater.trans hlater'⟩

theorem precedes_append (r : Relay) {connections : List Connection}
    (h : r'.connections = r.connections ++ connections) : r.Precedes r' := by
  intro i c hc
  refine ⟨c, ?_, .refl c⟩
  rw [h, List.getElem?_append_left (List.getElem?_eq_some_iff.mp hc).1]
  exact hc

theorem precedes_update {client : Nat}
    (h : ∀ c : Connection, r.connections[client]? = some c → c.Precedes (change c)) :
    r.Precedes (r.update client change) := by
  intro i c hc
  rw [getElem?_update, hc]
  by_cases hi : client = i
  · subst hi
    exact ⟨change c, by simp, h c hc⟩
  · exact ⟨c, by simp [hi], .refl c⟩

theorem precedes_updateAll (h : ∀ c : Connection, c.Precedes (change c)) (r : Relay) (clients : List Nat) :
    r.Precedes (r.updateAll clients change) := by
  induction clients generalizing r with
  | nil => exact .refl r
  | cons i clients ih => exact (precedes_update fun c _ => h c).trans (ih (r.update i change))

/-- A connection that is not finished in a relay may go on to anything. -/
theorem precedes_update_phase {client : Nat} (h : r.phase client ≠ .finished) (phase : Phase) :
    r.Precedes (r.update client ({ · with phase })) := by
  apply precedes_update
  intro c hc
  rw [phase_of_getElem? hc] at h
  exact Connection.precedes_phase h phase

theorem phase_updateAll (hchange : ∀ c, (change c).phase = c.phase) (r : Relay)
    (clients : List Nat) (client : Nat) :
    (r.updateAll clients change).phase client = r.phase client := by
  rw [phase_eq, phase_eq, map_updateAll hchange]

/-- At every event every connection moves on, if it changes at all. -/
theorem Transition.precedes (h : Transition r event r') : r.Precedes r' := by
  cases h with
  | turnedAway hfull => exact precedes_append r rfl
  | admitted hroom => exact precedes_append r rfl
  | dropped hphase htext hline => exact fun i c hc => ⟨c, hc, .refl c⟩
  | @forwarded sender bytes text m hphase htext hline =>
    have hwrite := precedes_updateAll (Connection.precedes_write (wire text)) r (r.targets sender)
    refine hwrite.trans (precedes_update_phase ?_ _)
    rw [phase_updateAll (Connection.phase_write (wire text)), hphase]
    exact Phase.noConfusion
  | @flushed sender targets failed hphase =>
    have hdrop := precedes_updateAll Connection.precedes_drop r
      (targets.filter (failed.contains ·))
    refine hdrop.trans (precedes_update_phase ?_ _)
    rw [phase_updateAll Connection.phase_drop, hphase]
    exact Phase.noConfusion
  | left hphase => exact precedes_update fun c _ => c.precedes_finish
  | ignored harrival htaking => exact .refl r

theorem precedes_run (r : Relay) (events : List Event) : r.Precedes (r.run events) :=
  run_induction (fun h hr => hr.trans h.precedes) (.refl r) events

end Relay

end AisStation
