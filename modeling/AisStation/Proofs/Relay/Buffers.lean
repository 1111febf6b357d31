import AisStation.Proofs.Relay.Handler

/-!
# What a relay takes of a stream of bytes

The bytes of a client arrive in chunks, and between these the other clients go on. Still the lines
of the client that are taken are those of its whole stream. The invariant of a client that is read:
its buffer holds the part of its stream behind the last line that was taken, which is within the
limit.
-/

namespace AisStation

namespace StreamRelay

open Relay

variable {s : StreamRelay} {client : Nat} {operation : Operation}

/-! ## Events of operations -/

/-- The events that a relay goes through at an operation. -/
def events (s : StreamRelay) : Operation → List Event
  | .connect => [.connect]
  | .receive client bytes =>
    match s.relay.phase client with
    | .reading =>
      let (lines, rest?) := split s.relay.config.maxLineBytes (s.buffer client ++ bytes)
      taking client s.broken lines ++ if rest?.isSome then [] else [.leave client]
    | _ => []
  | .finish client => taking client s.broken [s.buffer client] ++ [.leave client]
  | .reset client => [.leave client]
  | .breakOff _ => []

/-- The events that a relay goes through in the course of operations. -/
def history (s : StreamRelay) : List Operation → List Event
  | [] => []
  | operation :: operations => s.events operation ++ (s.apply operation).history operations

theorem foldl_deliver (s : StreamRelay) (client : Nat) (lines : List (List UInt8)) :
    lines.foldl (fun s line => s.deliver client line) s =
      { s with relay := s.relay.run (taking client s.broken lines) } := by
  induction lines generalizing s with
  | nil => rfl
  | cons line lines ih =>
    have hbroken : (s.deliver client line).broken = s.broken := rfl
    rw [List.foldl_cons, ih, hbroken]
    rfl

/-- Bytes arrive, and no line among them is too long. -/
theorem receive_within {bytes rest : List UInt8} {lines : List (List UInt8)}
    (hphase : s.relay.phase client = .reading)
    (hsplit : split s.relay.config.maxLineBytes (s.buffer client ++ bytes) = (lines, some rest)) :
    s.events (.receive client bytes) = taking client s.broken lines ∧
      s.receive client bytes =
        StreamRelay.update { s with relay := s.relay.run (taking client s.broken lines) } client
          ({ · with buffer := rest }) := by
  constructor
  · simp only [events, hphase, hsplit, Option.isSome_some, if_true, List.append_nil]
  · simp only [receive, hphase, hsplit, foldl_deliver]

/-- Bytes arrive, and a line among them is too long. -/
theorem receive_overlong {bytes : List UInt8} {lines : List (List UInt8)}
    (hphase : s.relay.phase client = .reading)
    (hsplit : split s.relay.config.maxLineBytes (s.buffer client ++ bytes) = (lines, none)) :
    s.events (.receive client bytes) = taking client s.broken lines ++ [.leave client] ∧
      s.receive client bytes =
        StreamRelay.leave { s with relay := s.relay.run (taking client s.broken lines) }
          client := by
  constructor
  · simp only [events, hphase, hsplit, Option.isSome_none, Bool.false_eq_true, if_false]
  · simp only [receive, hphase, hsplit, foldl_deliver]

/-- Bytes of a connection that is not read are lost. -/
theorem receive_of_ne (hphase : s.relay.phase client ≠ .reading) (bytes : List UInt8) :
    s.events (.receive client bytes) = [] ∧ s.receive client bytes = s := by
  constructor
  · rw [events]
    split
    · contradiction
    · rfl
  · rw [receive]
    split
    · contradiction
    · rfl

theorem relay_apply (s : StreamRelay) (operation : Operation) :
    (s.apply operation).relay = s.relay.run (s.events operation) := by
  cases operation with
  | receive client bytes =>
    by_cases hphase : s.relay.phase client = .reading
    · cases hsplit : split s.relay.config.maxLineBytes (s.buffer client ++ bytes) with
      | mk lines rest? =>
        cases rest? with
        | some rest =>
          obtain ⟨hevents, hreceive⟩ := receive_within hphase hsplit
          rw [apply, hreceive, hevents]
          rfl
        | none =>
          obtain ⟨hevents, hreceive⟩ := receive_overlong hphase hsplit
          rw [apply, hreceive, hevents, run_append]
          rfl
    · obtain ⟨hevents, hreceive⟩ := receive_of_ne hphase bytes
      rw [apply, hreceive, hevents]
      rfl
  | _ => rfl

theorem relay_foldl_apply (s : StreamRelay) (operations : List Operation) :
    (operations.foldl apply s).relay = s.relay.run (s.history operations) := by
  induction operations generalizing s with
  | nil => rfl
  | cons operation operations ih =>
    rw [List.foldl_cons, ih, history, run_append, relay_apply]

theorem history_append (s : StreamRelay) (earlier later : List Operation) :
    s.history (earlier ++ later) = s.history earlier ++ (earlier.foldl apply s).history later := by
  induction earlier generalizing s with
  | nil => rfl
  | cons operation earlier ih =>
    rw [List.cons_append, history, ih, history, List.append_assoc, List.foldl_cons]

/-- The client whose stream an operation goes on with. -/
def Operation.source? : Operation → Option Nat
  | receive client _ => some client
  | finish client => some client
  | reset client => some client
  | _ => none

theorem client?_of_mem_taking {event : Event} {failed : List Nat} {lines : List (List UInt8)}
    (h : event ∈ taking client failed lines) : event.client? = some client := by
  obtain ⟨line, -, hevent⟩ := List.mem_flatMap.mp h
  rcases List.mem_cons.mp hevent with rfl | hevent
  · rfl
  · rw [List.mem_singleton.mp hevent]
    rfl

/-- The events of an operation are about the client of its stream. -/
theorem client?_of_mem_events {event : Event} (h : event ∈ s.events operation) :
    event.client? = operation.source? := by
  cases operation with
  | connect =>
    rw [List.mem_singleton.mp h]
    rfl
  | receive client bytes =>
    rw [events] at h
    split at h
    · rcases List.mem_append.mp h with h | h
      · exact client?_of_mem_taking h
      · split at h
        · exact absurd h List.not_mem_nil
        · rw [List.mem_singleton.mp h]
          rfl
    · exact absurd h List.not_mem_nil
  | finish client =>
    rcases List.mem_append.mp h with h | h
    · exact client?_of_mem_taking h
    · rw [List.mem_singleton.mp h]
      rfl
  | reset client =>
    rw [List.mem_singleton.mp h]
    rfl
  | breakOff client => exact absurd h List.not_mem_nil

/-! ## Buffers -/

theorem getElem?_update (s : StreamRelay) (i : Nat) (change : Stream → Stream) (j : Nat) :
    (s.update i change).streams[j]? =
      s.streams[j]?.map fun stream => if i = j then change stream else stream :=
  List.getElem?_modify change i s.streams j

theorem buffer_update_of_ne {i : Nat} (h : i ≠ client) (s : StreamRelay)
    (change : Stream → Stream) : (s.update i change).buffer client = s.buffer client := by
  rw [buffer, buffer, getElem?_update]
  cases s.streams[client]? with
  | none => rfl
  | some stream => rw [Option.map_some, if_neg h]

theorem buffer_update (harrived : client < s.streams.length) (rest : List UInt8) :
    (s.update client ({ · with buffer := rest })).buffer client = rest := by
  rw [buffer, getElem?_update, List.getElem?_eq_getElem harrived, Option.map_some, if_pos rfl]

theorem buffer_breakOff (s : StreamRelay) (i client : Nat) :
    (s.breakOff i).buffer client = s.buffer client := by
  rw [buffer, buffer, breakOff, getElem?_update]
  cases s.streams[client]? with
  | none => rfl
  | some stream => by_cases h : i = client <;> simp [h]

theorem buffer_connect (harrived : client < s.streams.length) :
    s.connect.buffer client = s.buffer client := by
  rw [buffer, buffer, connect, List.getElem?_append_left harrived]

@[simp] theorem length_streams_update (s : StreamRelay) (i : Nat) (change : Stream → Stream) :
    (s.update i change).streams.length = s.streams.length :=
  List.length_modify change s.streams i

/-- An operation on the stream of a client changes at most its buffer, and leaves no newline
there. -/
theorem streams_apply {i : Nat} (h : operation.source? = some i) :
    (s.apply operation).streams = s.streams ∨ ∃ rest, newline ∉ rest ∧
      (s.apply operation).streams = (s.update i ({ · with buffer := rest })).streams := by
  cases operation with
  | receive client bytes =>
    obtain rfl : client = i := Option.some.inj h
    by_cases hphase : s.relay.phase client = .reading
    · right
      have hcut := (newline_notMem_split s.relay.config.maxLineBytes (s.buffer client ++ bytes)).2
      cases hsplit : split s.relay.config.maxLineBytes (s.buffer client ++ bytes) with
      | mk lines rest? =>
        rw [hsplit] at hcut
        cases rest? with
        | some rest =>
          rw [apply, (receive_within hphase hsplit).2]
          exact ⟨rest, hcut rest rfl, rfl⟩
        | none =>
          rw [apply, (receive_overlong hphase hsplit).2]
          exact ⟨[], List.not_mem_nil, rfl⟩
    · left
      rw [apply, (receive_of_ne hphase bytes).2]
  | finish client =>
    obtain rfl : client = i := Option.some.inj h
    exact .inr ⟨[], List.not_mem_nil, rfl⟩
  | reset client =>
    obtain rfl : client = i := Option.some.inj h
    exact .inr ⟨[], List.not_mem_nil, rfl⟩
  | _ => contradiction

theorem length_streams_apply {i : Nat} (h : operation.source? = some i) :
    (s.apply operation).streams.length = s.streams.length := by
  rcases streams_apply (s := s) h with hsame | ⟨rest, -, hrest⟩
  · rw [hsame]
  · rw [hrest, length_streams_update]

theorem buffer_apply_of_other (hother : operation.source? ≠ some client)
    (harrived : client < s.streams.length) :
    (s.apply operation).buffer client = s.buffer client := by
  cases hsource : operation.source? with
  | some i =>
    rw [hsource] at hother
    rcases streams_apply (s := s) hsource with hsame | ⟨rest, -, hrest⟩
    · rw [buffer, hsame]
      rfl
    · have hne : i ≠ client := fun h => hother (congrArg some h)
      rw [← buffer_update_of_ne hne s ({ · with buffer := rest }), buffer, hrest]
      rfl
  | none =>
    cases operation with
    | connect => exact buffer_connect harrived
    | breakOff i => exact s.buffer_breakOff i client
    | _ => contradiction

theorem lt_length_streams_apply (harrived : client < s.streams.length) (operation : Operation) :
    client < (s.apply operation).streams.length := by
  cases hsource : operation.source? with
  | some i => rwa [length_streams_apply hsource]
  | none =>
    cases operation with
    | connect =>
      rw [apply, connect, List.length_append]
      omega
    | breakOff i => rwa [apply, breakOff, length_streams_update]
    | _ => contradiction

/-- Every connection has its streams. -/
def IsAligned (s : StreamRelay) : Prop :=
  s.streams.length = s.relay.connections.length

theorem IsAligned.apply (h : s.IsAligned) (operation : Operation) :
    (s.apply operation).IsAligned := by
  cases hsource : operation.source? with
  | some i =>
    have hevents : ∀ event ∈ s.events operation, event.client? ≠ none := by
      intro event hevent
      rw [client?_of_mem_events hevent, hsource]
      exact Option.some_ne_none i
    rw [IsAligned, length_streams_apply hsource, relay_apply, length_run hevents]
    exact h
  | none =>
    cases operation with
    | connect =>
      show (s.streams ++ [({} : Stream)]).length = s.relay.connect.connections.length
      rw [connections_connect, List.length_append, List.length_append, h]
      rfl
    | breakOff i =>
      show (s.update i ({ · with isBroken := true })).streams.length = s.relay.connections.length
      rw [length_streams_update, h]
    | _ => contradiction

/-! ## Lines without newlines -/

/-- No buffer holds a newline. -/
def IsCut (s : StreamRelay) : Prop :=
  ∀ client, newline ∉ s.buffer client

theorem IsCut.update (h : s.IsCut) {rest : List UInt8} (hrest : newline ∉ rest) (i : Nat) :
    (s.update i ({ · with buffer := rest })).IsCut := by
  intro client
  by_cases hi : i = client
  · subst hi
    rw [buffer, getElem?_update]
    cases s.streams[i]? with
    | none => exact List.not_mem_nil
    | some stream => rwa [Option.map_some, if_pos rfl]
  · rw [buffer_update_of_ne hi]
    exact h client

theorem IsCut.apply (h : s.IsCut) (operation : Operation) : (s.apply operation).IsCut := by
  cases hsource : operation.source? with
  | some i =>
    rcases streams_apply (s := s) hsource with hsame | ⟨rest, hcut, hrest⟩
    · intro client
      rw [buffer, hsame]
      exact h client
    · intro client
      rw [buffer, hrest]
      exact h.update hcut i client
  | none =>
    intro client
    cases operation with
    | connect =>
      rw [StreamRelay.apply, connect, buffer]
      rcases Nat.lt_trichotomy client s.streams.length with hlt | rfl | hgt
      · rw [List.getElem?_append_left hlt]
        exact h client
      · rw [List.getElem?_concat_length]
        exact List.not_mem_nil
      · rw [List.getElem?_eq_none (by rw [List.length_append, List.length_singleton]; omega)]
        exact List.not_mem_nil
    | breakOff i =>
      rw [StreamRelay.apply, buffer_breakOff]
      exact h client
    | _ => contradiction

theorem mem_of_line_mem_taking {i : Nat} {bytes : List UInt8} {failed : List Nat}
    {lines : List (List UInt8)} (h : Event.line i bytes ∈ taking client failed lines) :
    bytes ∈ lines := by
  obtain ⟨line, hline, hevent⟩ := List.mem_flatMap.mp h
  rcases List.mem_cons.mp hevent with hevent | hevent
  · obtain ⟨-, rfl⟩ := Event.line.inj hevent
    exact hline
  · cases List.mem_singleton.mp hevent

/-- Lines are taken without their newlines. -/
theorem IsCut.newline_notMem_events (h : s.IsCut) {i : Nat} {bytes : List UInt8}
    (hmem : Event.line i bytes ∈ s.events operation) : newline ∉ bytes := by
  cases operation with
  | connect => cases List.mem_singleton.mp hmem
  | receive client chunk =>
    rw [events] at hmem
    split at hmem
    · rcases List.mem_append.mp hmem with hmem | hmem
      · exact (newline_notMem_split _ _).1 bytes (mem_of_line_mem_taking hmem)
      · split at hmem
        · exact absurd hmem List.not_mem_nil
        · cases List.mem_singleton.mp hmem
    · exact absurd hmem List.not_mem_nil
  | finish client =>
    rcases List.mem_append.mp hmem with hmem | hmem
    · rw [List.mem_singleton.mp (mem_of_line_mem_taking hmem)]
      exact h client
    · cases List.mem_singleton.mp hmem
  | reset client => cases List.mem_singleton.mp hmem
  | breakOff client => exact absurd hmem List.not_mem_nil

theorem IsCut.newline_notMem_history (h : s.IsCut) {i : Nat} {bytes : List UInt8}
    {operations : List Operation} (hmem : Event.line i bytes ∈ s.history operations) :
    newline ∉ bytes := by
  induction operations generalizing s with
  | nil => exact absurd hmem List.not_mem_nil
  | cons operation operations ih =>
    rcases List.mem_append.mp hmem with hmem | hmem
    · exact h.newline_notMem_events hmem
    · exact ih (h.apply operation) hmem

/-! ## The stream of a client -/

/-- The bytes of a client's stream, up to where it ends or fails, and whether it ends. -/
def input (client : Nat) : List Operation → List UInt8 × Bool
  | [] => ([], false)
  | .receive i bytes :: operations =>
    let later := input client operations
    if i = client then (bytes ++ later.1, later.2) else later
  | .finish i :: operations => if i = client then ([], true) else input client operations
  | .reset i :: operations => if i = client then ([], false) else input client operations
  | _ :: operations => input client operations

theorem input_of_other {operations : List Operation} (h : operation.source? ≠ some client) :
    input client (operation :: operations) = input client operations := by
  cases operation with
  | receive i bytes =>
    have hne : i ≠ client := fun hi => h (congrArg some hi)
    rw [input, if_neg hne]
  | finish i =>
    have hne : i ≠ client := fun hi => h (congrArg some hi)
    rw [input, if_neg hne]
  | reset i =>
    have hne : i ≠ client := fun hi => h (congrArg some hi)
    rw [input, if_neg hne]
  | _ => rfl

theorem input_receive (client : Nat) (bytes : List UInt8) (operations : List Operation) :
    input client (.receive client bytes :: operations) =
      (bytes ++ (input client operations).1, (input client operations).2) := by
  rw [input, if_pos rfl]

theorem input_finish (client : Nat) (operations : List Operation) :
    input client (.finish client :: operations) = ([], true) := by
  rw [input, if_pos rfl]

theorem input_reset (client : Nat) (operations : List Operation) :
    input client (.reset client :: operations) = ([], false) := by
  rw [input, if_pos rfl]

/-- The client is read, and what is left of its stream is a piece of a line within the limit. -/
structure IsRead (s : StreamRelay) (client : Nat) : Prop where
  phase : s.relay.phase client = .reading
  arrived : client < s.streams.length
  cut : newline ∉ s.buffer client
  within : s.buffer client = [] ∨ isWithin s.relay.config.maxLineBytes (s.buffer client) = true

theorem IsRead.arrived_relay (h : s.IsRead client) : client < s.relay.connections.length := by
  obtain ⟨c, hc, -⟩ := exists_of_phase_ne (h.phase.trans_ne Phase.noConfusion)
  exact (List.getElem?_eq_some_iff.mp hc).1

theorem config_apply (s : StreamRelay) (operation : Operation) :
    (s.apply operation).relay.config = s.relay.config := by
  rw [relay_apply, config_run]

theorem IsRead.apply_of_other (h : s.IsRead client) (hother : operation.source? ≠ some client) :
    (s.apply operation).IsRead client := by
  have hbuffer := buffer_apply_of_other hother h.arrived
  have hevents : ∀ event ∈ s.events operation, event.client? ≠ some client := by
    intro event hevent
    rwa [client?_of_mem_events hevent]
  refine ⟨?_, lt_length_streams_apply h.arrived operation, ?_, ?_⟩
  · rw [relay_apply, phase_run_of_others hevents h.arrived_relay, h.phase]
  · rw [hbuffer]
    exact h.cut
  · rw [hbuffer, config_apply]
    exact h.within

/-- A chunk all of whose lines are within the limit. -/
theorem IsRead.receive_within (h : s.IsRead client) {bytes last : List UInt8}
    {lines : List (List UInt8)}
    (hsplit : split s.relay.config.maxLineBytes (s.buffer client ++ bytes) = (lines, some last))
    (hcut : newline ∉ last) (hwithin : isWithin s.relay.config.maxLineBytes last = true) :
    s.relay.textsTaken client (s.events (.receive client bytes)) = lineTexts lines ∧
      (s.receive client bytes).IsRead client ∧
        (s.receive client bytes).buffer client = last := by
  obtain ⟨hevents, hreceive⟩ := StreamRelay.receive_within h.phase hsplit
  obtain ⟨htexts, hphase⟩ := textsTaken_taking h.phase s.broken lines
  let taken : StreamRelay := { s with relay := s.relay.run (taking client s.broken lines) }
  have hbuffer : (taken.update client ({ · with buffer := last })).buffer client = last :=
    buffer_update (s := taken) h.arrived last
  rw [hevents, hreceive]
  refine ⟨htexts, ⟨hphase, ?_, ?_, .inr ?_⟩, hbuffer⟩
  · rw [length_streams_update]
    exact h.arrived
  · rw [hbuffer]
    exact hcut
  · rw [hbuffer]
    show isWithin (s.relay.run _).config.maxLineBytes last = true
    rwa [config_run]

/-- The lines of a client that are taken are those of its stream, whatever chunks it comes in. -/
theorem IsRead.textsTaken_history (h : s.IsRead client) (operations : List Operation) :
    s.relay.textsTaken client (s.history operations) =
      lineTexts (streamLines s.relay.config.maxLineBytes (input client operations).2
        (s.buffer client ++ (input client operations).1)) := by
  induction operations generalizing s with
  | nil =>
    rw [history, input, List.append_nil, streamLines_false_last h.cut]
    rfl
  | cons operation operations ih =>
    rw [history]
    by_cases hsource : operation.source? = some client
    · cases operation with
      | receive client' bytes =>
        obtain rfl : client' = client := Option.some.inj hsource
        rw [input_receive, ← List.append_assoc]
        -- the buffer and the chunk together are the first chunk of what is left of the stream
        cases hsplit : split s.relay.config.maxLineBytes (s.buffer client' ++ bytes) with
        | mk lines rest? =>
          cases rest? with
          | some last =>
            obtain ⟨hlines, hcut, hwithin⟩ := streamLines_of_split_some
              hsplit (input client' operations).1
            obtain ⟨htexts, hread, hbuffer⟩ := h.receive_within hsplit hcut hwithin
            have hlater := ih hread
            have hconfig : (s.receive client' bytes).relay.config = s.relay.config :=
              s.config_apply (.receive client' bytes)
            rw [hbuffer, hconfig] at hlater
            rw [textsTaken_append, htexts, ← relay_apply, hlines, lineTexts_append, ← hlater]
            rfl
          | none =>
            rw [(receive_overlong h.phase hsplit).1, textsTaken_taking_leave h.phase,
              streamLines_of_split_none hsplit]
      | finish client' =>
        obtain rfl : client' = client := Option.some.inj hsource
        rw [input_finish, List.append_nil, streamLines_true_last h.cut]
        show s.relay.textsTaken client' ((taking client' s.broken [s.buffer client'] ++
          [.leave client']) ++ _) = _
        rw [textsTaken_taking_leave h.phase]
        rcases h.within with hempty | hwithin
        · rw [hempty]
          split <;> rfl
        · rw [if_pos hwithin]
      | reset client' =>
        obtain rfl : client' = client := Option.some.inj hsource
        rw [input_reset, List.append_nil, streamLines_false_last h.cut]
        exact textsTaken_taking_leave h.phase [] [] _
      | _ => contradiction
    · have hnone : s.relay.textsTaken client (s.events operation) = [] := by
        refine textsTaken_of_others fun event hevent => ?_
        rwa [client?_of_mem_events hevent]
      rw [textsTaken_append, hnone, ← relay_apply, ih (h.apply_of_other hsource),
        buffer_apply_of_other hsource h.arrived, config_apply, input_of_other hsource]
      rfl

end StreamRelay

end AisStation
