import AisStation.Proofs.Framing
import AisStation.Proofs.Relay.Ceiling

/-!
# What the clients of a relay receive

The lines that decode are put in one order, that in which they are taken, and every client receives
in this order those of them that others sent while it was a member. Writes that fail remove the
clients they were meant for and nobody else.
-/

namespace AisStation

/-! ## Accepted lines are ASCII -/

theorem Text.trim_trim (cs : List Char) : trim (trim cs) = trim cs := by
  obtain ⟨after, hsplit, -, hlast⟩ := dropTailWhile_spec isBlank (cs.dropWhile isBlank)
  change cs.dropWhile isBlank = trim cs ++ after at hsplit
  change ∀ c, (trim cs).getLast? = some c → isBlank c = false at hlast
  by_cases hne : trim cs = []
  · rw [hne]
    rfl
  · have hhead : ∀ c, (trim cs).head? = some c → isBlank c = false := by
      intro c hc
      have hfirst := List.head?_dropWhile_not isBlank cs
      rw [hsplit, List.head?_append, hc] at hfirst
      exact hfirst
    have hblank : ∀ c ∈ ([] : List Char), isBlank c = true := by simp
    have htrim := trim_append hblank hblank hhead hlast hne
    rwa [List.nil_append, List.append_nil] at htrim

theorem Sentence.isAscii_of_parse {line : String} {s : Sentence} (h : parse line = .ok s) :
    Text.isAscii (Text.trim line.toList) = true := by
  rw [parse] at h
  generalize Text.trim line.toList = cs at h ⊢
  unfold parseTrimmed at h
  split at h
  · next text =>
    cases hascii : Text.isAscii ('!' :: text) with
    | true => rfl
    | false =>
      rw [hascii] at h
      cases h
  · cases h

theorem GatewayConfig.exists_parse_of_receive {config : GatewayConfig} {line : String}
    {m : Message} (h : (config.receive line).message? = some m) :
    ∃ s, Sentence.parse line = .ok s := by
  cases hparse : Sentence.parse line with
  | error why =>
    rw [receive, hparse] at h
    cases h
  | ok s => exact ⟨s, rfl⟩

namespace Relay

theorem trim_of_lineText? {bytes : List UInt8} {text : String} (h : lineText? bytes = some text) :
    Text.trim text.toList = text.toList := by
  rw [lineText?] at h
  cases hcs : Text.trim (bytes.map byteChar) with
  | nil =>
    rw [hcs] at h
    cases h
  | cons c cs =>
    rw [hcs] at h
    obtain rfl := Option.some.inj h
    rw [String.toList_ofList, ← hcs, Text.trim_trim]

/-- The line held a record. -/
def Taking.isAccepted (t : Taking) : Bool :=
  t.message?.isSome

/-- The connection is one of those to which lines were forwarded, and the line is not its own. -/
def Taking.reaches (t : Taking) (client : Nat) : Bool :=
  t.sender ≠ client && t.members.contains client

theorem isAscii_of_taking? {r : Relay} {event : Event} {t : Taking} (h : r.taking? event = some t)
    (haccepted : t.isAccepted = true) : Text.isAscii t.text.toList = true := by
  obtain ⟨sender, bytes, htext, -, -, hmessage, -⟩ := exists_of_taking? h
  obtain ⟨m, hm⟩ := Option.isSome_iff_exists.mp haccepted
  rw [hmessage] at hm
  obtain ⟨s, hs⟩ := GatewayConfig.exists_parse_of_receive hm
  have hascii := Sentence.isAscii_of_parse hs
  rwa [trim_of_lineText? htext] at hascii

/-! ## What was written to a connection -/

variable {r r' : Relay} {event : Event} {change : Connection → Connection}

/-- What was written to a connection, oldest first. -/
def received (r : Relay) (client : Nat) : List String :=
  match r.connections[client]? with
  | some c => c.received
  | none => []

theorem received_eq (r : Relay) (client : Nat) :
    r.received client = ((r.connections.map (·.received))[client]?).getD [] := by
  rw [received, List.getElem?_map]
  cases r.connections[client]? <;> rfl

theorem received_update (hchange : ∀ c, (change c).received = c.received) (r : Relay)
    (i client : Nat) : (r.update i change).received client = r.received client := by
  rw [received_eq, received_eq]
  exact congrArg (fun texts => (texts[client]?).getD []) (map_modify_of_eq hchange r.connections i)

theorem received_update_phase (r : Relay) (phase : Phase) (i client : Nat) :
    (r.update i ({ · with phase })).received client = r.received client :=
  received_update (fun _ => rfl : ∀ c : Connection, ({ c with phase }).received = c.received) r i
    client

theorem received_updateAll (hchange : ∀ c, (change c).received = c.received) (r : Relay)
    (clients : List Nat) (client : Nat) :
    (r.updateAll clients change).received client = r.received client := by
  rw [received_eq, received_eq, map_updateAll hchange]

/-- Nothing is written to a connection before it arrives. -/
theorem received_append {c : Connection} (hc : c.received = [])
    (h : r'.connections = r.connections ++ [c]) (client : Nat) :
    r'.received client = r.received client := by
  rw [received, received, h]
  rcases Nat.lt_trichotomy client r.connections.length with hlt | rfl | hgt
  · rw [List.getElem?_append_left hlt]
  · rw [List.getElem?_concat_length, List.getElem?_eq_none (Nat.le_refl _)]
    exact hc
  · have hlength : (r.connections ++ [c]).length = r.connections.length + 1 := List.length_append
    rw [List.getElem?_eq_none (by omega), List.getElem?_eq_none (by omega)]

theorem received_update_write (text : String) (r : Relay) {i : Nat}
    (hi : i < r.connections.length) (client : Nat) :
    (r.update i (·.write text)).received client =
      r.received client ++ (if client = i then [text] else []) := by
  rw [received, received, getElem?_update]
  by_cases hclient : client = i
  · subst hclient
    simp [hi, Connection.write]
  · have hne : i ≠ client := fun h => hclient h.symm
    simp [hclient, hne]

/-- A text that is written to some connections, each once, is the last that they have received. -/
theorem received_updateAll_write (text : String) {clients : List Nat} (hnodup : clients.Nodup)
    (r : Relay) (harrived : ∀ i ∈ clients, i < r.connections.length) (client : Nat) :
    (r.updateAll clients (·.write text)).received client =
      r.received client ++ (if client ∈ clients then [text] else []) := by
  induction clients generalizing r with
  | nil => simp [updateAll]
  | cons i clients ih =>
    obtain ⟨hi, hclients⟩ := List.forall_mem_cons.mp harrived
    obtain ⟨hnot, hnodup⟩ := List.nodup_cons.mp hnodup
    have hrest := ih hnodup (r.update i (·.write text)) (by simpa using hclients)
    rw [received_update_write text r hi, List.append_assoc] at hrest
    refine hrest.trans (congrArg (r.received client ++ ·) ?_)
    -- the first client of the list is not written to again
    by_cases hclient : client = i
    · subst hclient
      simp [hnot]
    · simp [hclient]

theorem mem_members {client : Nat} : client ∈ r.members ↔ r.isMember client = true := by
  rw [members, List.mem_filter, List.mem_range]
  exact ⟨fun h => h.2, fun h => ⟨lt_of_isMember h, h⟩⟩

theorem mem_targets {sender client : Nat} :
    client ∈ r.targets sender ↔ sender ≠ client ∧ r.isMember client = true := by
  rw [targets, List.mem_filter, List.mem_range, Bool.and_eq_true, decide_eq_true_iff]
  constructor
  · rintro ⟨-, hne, hmember⟩
    exact ⟨hne.symm, hmember⟩
  · rintro ⟨hne, hmember⟩
    exact ⟨lt_of_isMember hmember, hne.symm, hmember⟩

theorem nodup_targets (r : Relay) (sender : Nat) : (r.targets sender).Nodup :=
  List.nodup_range.filter _

/-! ## One event -/

/-- The accepted lines among some that reach a client, in the same order. -/
def deliveries (taken : List Taking) (client : Nat) : List Taking :=
  (taken.filter (·.isAccepted)).filter (·.reaches client)

theorem deliveries_append (taken taken' : List Taking) (client : Nat) :
    deliveries (taken ++ taken') client = deliveries taken client ++ deliveries taken' client := by
  rw [deliveries, List.filter_append, List.filter_append]
  rfl

theorem reaches_iff {t : Taking} (h : t.members = r.members) {client : Nat} :
    t.reaches client = true ↔ client ∈ r.targets t.sender := by
  rw [mem_targets, Taking.reaches, Bool.and_eq_true, decide_eq_true_iff, List.contains_iff_mem, h,
    mem_members]

theorem Transition.received (h : Transition r event r') (client : Nat) :
    r'.received client = r.received client ++
      (deliveries (r.taking? event).toList client).map fun t => wire t.text := by
  cases h with
  | turnedAway hfull =>
    rw [received_append rfl rfl]
    exact (List.append_nil _).symm
  | admitted hroom =>
    rw [received_append rfl rfl]
    exact (List.append_nil _).symm
  | @dropped sender bytes text hphase htext hline =>
    rw [taking?_line hphase htext, hline]
    exact (List.append_nil _).symm
  | @forwarded sender bytes text m hphase htext hline =>
    have hwrite := received_updateAll_write (wire text) (r.nodup_targets sender) r
      (fun i hi => lt_of_isMember (mem_targets.mp hi).2) client
    have hupdate := received_update_phase (r.updateAll (r.targets sender) (·.write (wire text)))
      (.forwarding (r.targets sender)) sender client
    refine (hupdate.trans hwrite).trans (congrArg (r.received client ++ ·) ?_)
    rw [taking?_line hphase htext, hline]
    by_cases hclient : client ∈ r.targets sender
    · have hreaches := (reaches_iff (t := ⟨sender, text, some m, r.members⟩) rfl).mpr hclient
      simp [deliveries, Taking.isAccepted, hclient, hreaches]
    · have hreaches := mt (reaches_iff (t := ⟨sender, text, some m, r.members⟩) rfl).mp hclient
      simp [deliveries, Taking.isAccepted, hclient, hreaches]
  | @flushed sender targets failed hphase =>
    have hdrop := received_updateAll Connection.received_drop r
      (targets.filter (failed.contains ·)) client
    have hupdate := received_update_phase
      (r.updateAll (targets.filter (failed.contains ·)) Connection.drop) .reading sender client
    exact (hupdate.trans hdrop).trans (List.append_nil _).symm
  | @left client' hphase =>
    rw [received_update Connection.received_finish]
    exact (List.append_nil _).symm
  | ignored harrival htaking =>
    rw [htaking]
    exact (List.append_nil _).symm

/-! ## Whole runs -/

theorem received_run (r : Relay) (events : List Event) (client : Nat) :
    (r.run events).received client =
      r.received client ++ (deliveries (r.taken events) client).map fun t => wire t.text := by
  refine trace_induction (P := fun r' seen => r'.received client =
    r.received client ++ (deliveries seen client).map fun t => wire t.text) ?_ ?_ events
  · intro before after event seen h hbefore
    rw [h.received, hbefore, deliveries_append, List.map_append, List.append_assoc]
  · exact (List.append_nil _).symm

theorem received_start (config : RelayConfig) (gateway : Gateway) (events : List Event)
    (client : Nat) :
    (({ config, gateway } : Relay).run events).received client =
      (deliveries (({ config, gateway } : Relay).taken events) client).map fun t => wire t.text :=
  received_run { config, gateway } events client

/-- A client that has arrived and is no member receives nothing from then on. -/
theorem received_run_of_not_isMember {client : Nat} (hclient : client < r.connections.length)
    (hmember : r.isMember client = false) (events : List Event) :
    (r.run events).received client = r.received client := by
  suffices client < (r.run events).connections.length ∧ (r.run events).isMember client = false ∧
      (r.run events).received client = r.received client from this.2.2
  -- a line reaches members only, and nobody who has arrived becomes one later
  refine run_induction (P := fun r' => client < r'.connections.length ∧
    r'.isMember client = false ∧ r'.received client = r.received client) ?_
    ⟨hclient, hmember, rfl⟩ events
  rintro before after event h ⟨hclient, hmember, hreceived⟩
  refine ⟨?_, ?_, ?_⟩
  · obtain ⟨c, hc, -⟩ := h.precedes client _ (List.getElem?_eq_getElem hclient)
    exact (List.getElem?_eq_some_iff.mp hc).1
  · rw [Bool.eq_false_iff]
    intro hafter
    exact absurd (h.precedes.isMember hclient hafter) (by simp [hmember])
  · rw [h.received, hreceived]
    cases htaking : before.taking? event with
    | none => exact List.append_nil _
    | some t =>
      obtain ⟨-, -, -, -, -, -, hmembers⟩ := exists_of_taking? htaking
      have hnot : ¬t.reaches client = true := by
        rw [reaches_iff hmembers, mem_targets, hmember]
        rintro ⟨-, ⟨⟩⟩
      have hnone : deliveries [t] client = [] := by
        rw [deliveries, List.filter_eq_nil_iff]
        intro t' ht'
        obtain rfl := List.mem_singleton.mp (List.mem_filter.mp ht').1
        exact hnot
      rw [Option.toList_some, hnone]
      exact List.append_nil _

/-- Nor does a connection that is turned away receive anything. -/
theorem received_run_of_isFull (hfull : r.isFull = true) (later : List Event) :
    (r.connect.run later).received r.connections.length = [] := by
  have harrived : r.connections.length < r.connect.connections.length := by
    rw [connections_connect, List.length_append, List.length_singleton]
    omega
  have hnone : r.connect.received r.connections.length = [] := by
    rw [received, getElem?_connect, if_pos hfull]
    rfl
  have hmember := (hasEnded_connect hfull).isMember
  exact (received_run_of_not_isMember harrived hmember later).trans hnone

theorem isAscii_of_mem_taken {t : Taking} {events : List Event} (ht : t ∈ r.taken events)
    (haccepted : t.isAccepted = true) : Text.isAscii t.text.toList = true := by
  have hall : ∀ t ∈ r.taken events, t.isAccepted = true → Text.isAscii t.text.toList = true :=
    forall_trace (fun _ _ _ h => isAscii_of_taking? h) r events
  exact hall t ht haccepted

/-! ## Failing writes -/

theorem isMember_update_drop {i client : Nat} :
    (r.update i Connection.drop).isMember client = true ↔
      r.isMember client = true ∧ client ≠ i := by
  rw [isMember, isMember, getElem?_update]
  cases r.connections[client]? with
  | none => simp
  | some c =>
    by_cases hi : i = client
    · simp [hi, Connection.drop]
    · simp [hi, Ne.symm hi]

theorem isMember_updateAll_drop {clients : List Nat} {client : Nat} :
    (r.updateAll clients Connection.drop).isMember client = true ↔
      r.isMember client = true ∧ client ∉ clients := by
  induction clients generalizing r with
  | nil => simp [updateAll]
  | cons i clients ih =>
    have hrest := ih (r := r.update i Connection.drop)
    rw [isMember_update_drop, and_assoc] at hrest
    rw [List.mem_cons, not_or]
    exact hrest

theorem isMember_endForward {sender : Nat} {targets failed : List Nat} {client : Nat} :
    (r.endForward sender targets failed).isMember client = true ↔
      r.isMember client = true ∧ ¬(client ∈ targets ∧ client ∈ failed) := by
  have hphase : (r.endForward sender targets failed).isMember client =
      (r.updateAll (targets.filter (failed.contains ·)) Connection.drop).isMember client := by
    rw [isMember_eq, isMember_eq]
    exact congrArg (fun flags => (flags[client]?).getD false)
      (map_modify_of_eq
        (fun _ => rfl : ∀ c : Connection, ({ c with phase := .reading }).isMember = c.isMember) _ _)
  rw [hphase, isMember_updateAll_drop, List.mem_filter, List.contains_iff_mem]

/-- However events follow each other in a relay that starts without connections, every client
receives, in the order in which they were taken and each once, the accepted lines that others sent
while it was a member; accepted lines are ASCII, so they go out as they are. A connection that was
turned away receives nothing, nor does a client receive anything once it is out, and when the writes
of a line are through, exactly those of its receivers go out whose writes failed. -/
theorem run_forwarding (config : RelayConfig) (gateway : Gateway) (events : List Event) :
    let start : Relay := { config, gateway }
    let r := start.run events
    let accepted := (start.taken events).filter (·.isAccepted)
    (∀ client, r.received client =
      (accepted.filter (·.reaches client)).map fun t => wire t.text) ∧
    (∀ t ∈ accepted, Text.isAscii t.text.toList = true) ∧
    (∀ earlier later, events = earlier ++ .connect :: later →
      config.maxClients ≤ (start.run earlier).clientCount →
      r.received (start.run earlier).connections.length = []) ∧
    (∀ earlier later, events = earlier ++ later → ∀ client,
      client < (start.run earlier).connections.length →
      (start.run earlier).isMember client = false →
      r.received client = (start.run earlier).received client) ∧
    (∀ sender targets failed, r.phase sender = .forwarding targets → ∀ client,
      (r.step (.flushed sender failed)).isMember client = true ↔
        r.isMember client = true ∧ ¬(client ∈ targets ∧ client ∈ failed)) := by
  intro start r accepted
  refine ⟨?_, ?_, ?_, ?_, ?_⟩
  · exact received_start config gateway events
  · intro t ht
    obtain ⟨htaken, haccepted⟩ := List.mem_filter.mp ht
    exact isAscii_of_mem_taken htaken haccepted
  · rintro earlier later rfl hle
    have hfull : (start.run earlier).isFull = true := by
      rw [isFull, decide_eq_true_iff, config_run]
      exact hle
    rw [show r = (start.run earlier).connect.run later from run_append start earlier _]
    exact received_run_of_isFull hfull later
  · rintro earlier later rfl client hclient hmember
    rw [show r = (start.run earlier).run later from run_append start earlier later]
    exact received_run_of_not_isMember hclient hmember later
  · intro sender targets failed hphase client
    rw [step, hphase]
    exact isMember_endForward

/-- One of three clients sends a line, and the write to the second fails. -/
example :
    let line := "!AIVDM,1,1,,B,:5MlU41GMK6@,0*6C"
    let r := ({} : Relay).run [.connect, .connect, .connect,
      .line 0 (line.toList.map fun c => c.toNat.toUInt8), .flushed 0 [1]]
    r.connections.map (fun c => (c.isMember, c.received)) =
      [(true, []), (false, [wire line]), (true, [wire line])] := by
  decide +kernel

end Relay

end AisStation
