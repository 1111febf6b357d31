import AisStation.Proofs.Relay.Buffers

/-!
# Lines are passed on as they are

From the bytes that a client sends to those that the others receive. Of a stream the lines before
the first one that is too long are handed to the gateway; the lines that hold a record are ASCII,
and go out one by one, each behind the other with nothing in between. So whoever reads them, another
relay for example, finds the same lines there, and the same records in them.
-/

namespace AisStation

namespace Relay

variable {r : Relay} {events : List Event} {t : Taking}

/-! ## Accepted lines -/

theorem message?_of_mem_taken (ht : t ∈ r.taken events) :
    t.message? = (r.gateway.config.receive t.text).message? := by
  induction events generalizing r with
  | nil => exact absurd ht List.not_mem_nil
  | cons event events ih =>
    rcases List.mem_append.mp ht with ht | ht
    · obtain ⟨sender, bytes, -, rfl, rfl, hmessage, -⟩ :=
        exists_of_taking? (Option.mem_toList.mp ht)
      exact hmessage
    · rw [ih ht, (r.transition_step event).gatewayConfig]

theorem lineText_of_lineText? {bytes : List UInt8} {text : String}
    (h : lineText? bytes = some text) : lineText bytes = text := by
  rw [lineText?_eq] at h
  exact Option.some.inj (Option.ite_none_left_eq_some.mp h).2

/-- A line that holds a byte beyond ASCII is not accepted. -/
theorem forall_lt_of_isAccepted (ht : t ∈ r.taken events) (haccepted : t.isAccepted = true)
    {bytes : List UInt8} (hbytes : lineText bytes = t.text) : ∀ byte ∈ bytes, byte < 128 := by
  intro byte hbyte
  by_contra hforeign
  have hascii := isAscii_of_mem_taken ht haccepted
  rw [← hbytes, isAscii_lineText_of_mem hbyte (UInt8.not_lt.mp hforeign)] at hascii
  contradiction

variable (hcut : ∀ sender bytes, Event.line sender bytes ∈ events → newline ∉ bytes)

include hcut

theorem isLine_of_isAccepted (ht : t ∈ r.taken events) (haccepted : t.isAccepted = true) :
    IsLine t.text := by
  obtain ⟨bytes, hmem, htext⟩ := exists_of_mem_taken ht
  have hascii := List.all_eq_true.mp (isAscii_of_mem_taken ht haccepted)
  refine ⟨fun c hc => of_decide_eq_true (hascii c hc), trim_of_lineText? htext, ?_⟩
  rw [← lineText_of_lineText? htext]
  exact newline_notMem_lineText (hcut t.sender bytes hmem)

theorem isLine_of_mem_deliveries {client : Nat} {text : String}
    (h : text ∈ (deliveries (r.taken events) client).map (·.text)) : IsLine text := by
  obtain ⟨t, ht, rfl⟩ := List.mem_map.mp h
  obtain ⟨htaken, haccepted⟩ := List.mem_filter.mp (List.mem_filter.mp ht).1
  exact isLine_of_isAccepted hcut htaken haccepted

end Relay

namespace StreamRelay

open Relay

variable {s : StreamRelay}

/-! ## Whole runs -/

theorem IsAligned.applyAll (h : s.IsAligned) (operations : List Operation) :
    (operations.foldl StreamRelay.apply s).IsAligned := by
  induction operations generalizing s with
  | nil => exact h
  | cons operation operations ih => exact ih (h.apply operation)

theorem config_foldl_apply (s : StreamRelay) (operations : List Operation) :
    (operations.foldl apply s).relay.config = s.relay.config := by
  rw [relay_foldl_apply, config_run]

/-- A client that is admitted is read from the beginning of its stream. -/
theorem IsAligned.connect (h : s.IsAligned)
    (hroom : s.relay.clientCount < s.relay.config.maxClients) :
    s.connect.IsRead s.relay.connections.length ∧
      s.connect.buffer s.relay.connections.length = [] := by
  have hfree : s.relay.isFull = false := decide_eq_false (not_le.mpr hroom)
  have hconnection := s.relay.getElem?_connect
  rw [hfree, if_neg Bool.false_ne_true] at hconnection
  have hbuffer : s.connect.buffer s.relay.connections.length = [] := by
    rw [← h, buffer, StreamRelay.connect, List.getElem?_concat_length]
  refine ⟨⟨phase_of_getElem? hconnection, ?_, ?_, .inl hbuffer⟩, hbuffer⟩
  · rw [← h, StreamRelay.connect, List.length_append]
    exact Nat.lt_succ_self _
  · rw [hbuffer]
    exact List.not_mem_nil

/-- Whatever comes in between, of the stream of a client that is admitted just the lines before the
first one that is too long are taken. -/
theorem IsAligned.textsTaken_connect (h : s.IsAligned)
    (hroom : s.relay.clientCount < s.relay.config.maxClients) {operations : List Operation}
    {events : List Event} (hevents : eventsOf s.relay.connections.length events =
      eventsOf s.relay.connections.length (s.connect.history operations)) :
    s.connect.relay.textsTaken s.relay.connections.length events =
      lineTexts (streamLines s.relay.config.maxLineBytes
        (input s.relay.connections.length operations).2
        (input s.relay.connections.length operations).1) := by
  obtain ⟨hread, hbuffer⟩ := h.connect hroom
  have htexts := hread.textsTaken_history operations
  have hconfig : s.connect.relay.config = s.relay.config := s.config_apply .connect
  rw [hbuffer, hconfig, List.nil_append] at htexts
  rw [textsTaken_congr hread.arrived_relay hevents, htexts]

/-- Nothing is taken of a client before it connects. -/
theorem textsTaken_history_connect (s : StreamRelay) (operations : List Operation)
    (events : List Event) :
    let before := operations.foldl apply s
    let client := before.relay.connections.length
    s.relay.textsTaken client (s.history operations ++ .connect :: events) =
      before.connect.relay.textsTaken client events := by
  intro before client
  have hbefore : before.relay = s.relay.run (s.history operations) :=
    s.relay_foldl_apply operations
  have hnone : s.relay.textsTaken client (s.history operations) = [] := by
    refine textsTaken_eq_nil fun t ht hsender => ?_
    have hlt := sender_lt_of_mem_taken ht
    rw [← hbefore, hsender] at hlt
    exact Nat.lt_irrefl _ hlt
  rw [textsTaken_append, hnone, ← hbefore, textsTaken_cons]
  rfl

/-- However the stream of a client is cut into chunks, and whatever other clients do in between, the
gateway is handed the texts of just those of its lines that stand before the first one that is too
long, in their order and without the blank ones. An accepted line has no byte beyond ASCII, so that
it can be written, and any gateway of the same configuration finds the same record in it. What a
client receives are whole lines; cut at the newlines, they are the accepted lines that were meant
for it, one for one. -/
theorem lines_handled (config : RelayConfig) (gateway : Gateway) :
    let start : StreamRelay := { relay := { config, gateway } }
    (∀ earlier later : List Operation,
      let before := earlier.foldl apply start
      let client := before.relay.connections.length
      let texts := lineTexts
        (streamLines config.maxLineBytes (input client later).2 (input client later).1)
      before.relay.clientCount < config.maxClients →
      start.relay.textsTaken client (start.history (earlier ++ .connect :: later)) = texts ∧
      ∀ events, eventsOf client events = eventsOf client (before.connect.history later) →
        start.relay.textsTaken client (start.history earlier ++ .connect :: events) = texts) ∧
    (∀ operations sender bytes,
      Event.line sender bytes ∈ start.history operations → newline ∉ bytes) ∧
    ∀ events, (∀ sender bytes, Event.line sender bytes ∈ events → newline ∉ bytes) →
      let taken := start.relay.taken events
      (∀ t ∈ taken, t.message? = (gateway.config.receive t.text).message?) ∧
      (∀ t ∈ taken, t.isAccepted = true →
        (∀ bytes, lineText bytes = t.text → ∀ byte ∈ bytes, byte < 128) ∧
        (∀ c ∈ (wire t.text).toList, c.toNat < 128) ∧
        ∀ g : Gateway, g.config = gateway.config → (g.processLine t.text).1 = t.message?) ∧
      ∀ client,
        let texts := ((taken.filter (·.isAccepted)).filter (·.reaches client)).map (·.text)
        let chunks := ((start.relay.run events).received client).map asciiBytes
        (start.relay.run events).received client = texts.map wire ∧
        (∀ chunk ∈ chunks, ∃ line, chunk = line ++ [newline] ∧ newline ∉ line) ∧
        (chunks.flatten.splitOn newline).map lineText = texts ++ [""] := by
  intro start
  have haligned : start.IsAligned := rfl
  have hcut : start.IsCut := fun _ => List.not_mem_nil
  refine ⟨?_, ?_, ?_⟩
  · intro earlier later before client texts hroom
    have hconfig : before.relay.config = config := start.config_foldl_apply earlier
    have htexts {events : List Event}
        (hevents : eventsOf client events = eventsOf client (before.connect.history later)) :
        start.relay.textsTaken client (start.history earlier ++ .connect :: events) = texts := by
      rw [textsTaken_history_connect]
      rw [← hconfig] at hroom
      rw [(haligned.applyAll earlier).textsTaken_connect hroom hevents, hconfig]
    refine ⟨?_, fun events hevents => htexts hevents⟩
    rw [history_append]
    exact htexts rfl
  · intro operations sender bytes hmem
    exact hcut.newline_notMem_history hmem
  · intro events hnewline taken
    refine ⟨fun t ht => message?_of_mem_taken ht, ?_, ?_⟩
    · intro t ht haccepted
      have hline := isLine_of_isAccepted hnewline ht haccepted
      refine ⟨fun bytes hbytes => forall_lt_of_isAccepted ht haccepted hbytes,
        hline.ascii_append (by decide), ?_⟩
      intro g hconfig
      rw [message?_of_mem_taken ht]
      exact congrArg (fun config => (config.receive t.text).message?) hconfig
    · intro client texts chunks
      have hlines : ∀ text ∈ texts, IsLine text :=
        fun text htext => isLine_of_mem_deliveries hnewline htext
      have hreceived : (start.relay.run events).received client = texts.map wire := by
        rw [List.map_map]
        exact received_start config gateway events client
      have hchunks : chunks = (texts.map wire).map asciiBytes :=
        congrArg (List.map asciiBytes) hreceived
      refine ⟨hreceived, ?_, ?_⟩
      · intro chunk hchunk
        rw [hchunks, List.map_map] at hchunk
        obtain ⟨text, htext, rfl⟩ := List.mem_map.mp hchunk
        exact ⟨lineBytes text, asciiBytes_wire text, (hlines text htext).newline_notMem⟩
      · rw [hchunks]
        exact map_lineText_splitOn_wire hlines

/-- A line comes in two chunks, behind a blank one, and in between another client sends a line that
is not ASCII. -/
example :
    let line := "!AIVDM,1,1,,B,:5MlU41GMK6@,0*6C"
    let operations : List Operation := [.connect, .connect,
      .receive 0 (asciiBytes "\r\n!AIVDM,1,1,,B,:5M"), .receive 1 [33, 65, 255, 10],
      .receive 0 (asciiBytes "lU41GMK6@,0*6C\r"), .receive 0 [10]]
    let relay := (operations.foldl apply {}).relay
    relay.connections.map (·.received) = [[], [wire line]] ∧ relay.stats.sentencesDropped = 1 := by
  decide +kernel

end StreamRelay

end AisStation
