import AisStation.Config.Component
import AisStation.Relay.Line

/-!
The relay.

Clients connect and send lines; each line that decodes is forwarded, without the blanks around it,
to every other client. A connection beyond the ceiling is closed at once. The relay is a state and
its steps are events: a connection arrives, a connection's line is taken and written to the others,
the writes of a line are through with some of them failing, a connection leaves. A connection takes
no further line while the writes of its last one are under way, and other events may come in
between.
-/

namespace AisStation

/-- Counters of a relay. -/
structure RelayStats where
  clientsAccepted : Nat := 0
  clientsRejected : Nat := 0
  sentencesForwarded : Nat := 0
  sentencesDropped : Nat := 0
deriving DecidableEq, Repr

namespace Relay

/-- What a connection is about to do. -/
inductive Phase
  /-- Take the next line. -/
  | reading
  /-- Wait until the given connections have taken what was written to them. -/
  | forwarding (targets : List Nat)
  /-- Nothing any more. -/
  | finished
deriving DecidableEq, Repr

/-- A connection. -/
structure Connection where
  phase : Phase
  /-- Are the lines of others forwarded to it? -/
  isMember : Bool
  /-- Is its outgoing side closed? -/
  isClosed : Bool
  /-- What was written to it, oldest first. -/
  received : List String
deriving DecidableEq, Repr

namespace Connection

/-- A connection that was accepted. -/
def accepted : Connection := ⟨.reading, true, false, []⟩

/-- A connection that was turned away. -/
def rejected : Connection := ⟨.finished, false, true, []⟩

/-- The connection with a text written to it. -/
def write (text : String) (c : Connection) : Connection :=
  { c with received := c.received ++ [text] }

/-- The connection after a write to it has failed. -/
def drop (c : Connection) : Connection :=
  { c with isMember := false, isClosed := true }

/-- The connection after its end. -/
def finish (c : Connection) : Connection :=
  { c.drop with phase := .finished }

end Connection

/-- Something that happens to a relay. Connections are numbered in the order of their arrival. -/
inductive Event
  /-- A connection arrives. -/
  | connect
  /-- A connection's next line is taken, as it came. -/
  | line (sender : Nat) (bytes : List UInt8)
  /-- The writes of a connection's last line are through; those to the given connections failed. -/
  | flushed (sender : Nat) (failed : List Nat)
  /-- A connection's input ends, fails, or holds a line that is too long. -/
  | leave (client : Nat)
deriving DecidableEq, Repr

end Relay

/-- A relay. -/
structure Relay where
  config : RelayConfig := {}
  gateway : Gateway := {}
  stats : RelayStats := {}
  /-- All connections, in the order of their arrival. -/
  connections : List Relay.Connection := []
deriving DecidableEq, Repr

namespace Relay

/-- What a connection is about to do; a connection that never arrived does nothing. -/
def phase (r : Relay) (client : Nat) : Phase :=
  match r.connections[client]? with
  | some c => c.phase
  | none => .finished

/-- Are lines forwarded to the connection? -/
def isMember (r : Relay) (client : Nat) : Bool :=
  match r.connections[client]? with
  | some c => c.isMember
  | none => false

/-- How many connections lines are forwarded to. -/
def clientCount (r : Relay) : Nat :=
  r.connections.countP (·.isMember)

/-- The connections that a line of `sender` is forwarded to. -/
def targets (r : Relay) (sender : Nat) : List Nat :=
  (List.range r.connections.length).filter fun i => i ≠ sender && r.isMember i

/-- The relay with one connection changed. -/
def update (r : Relay) (client : Nat) (change : Connection → Connection) : Relay :=
  { r with connections := r.connections.modify client change }

/-- The relay with some connections changed. -/
def updateAll (r : Relay) (clients : List Nat) (change : Connection → Connection) : Relay :=
  clients.foldl (fun r client => r.update client change) r

/-- A connection arrives: it is accepted if there is room. -/
def connect (r : Relay) : Relay :=
  if r.config.maxClients ≤ r.clientCount then
    { r with
      connections := r.connections ++ [.rejected]
      stats := { r.stats with clientsRejected := r.stats.clientsRejected + 1 } }
  else
    { r with
      connections := r.connections ++ [.accepted]
      stats := { r.stats with clientsAccepted := r.stats.clientsAccepted + 1 } }

/-- A line on the wire. -/
def wire (text : String) : String :=
  text ++ "\r\n"

/-- A line of `sender` is decoded and, if it holds a record, written to the others. -/
def takeLine (r : Relay) (sender : Nat) (text : String) : Relay :=
  let (message?, gateway) := r.gateway.processLine text
  let r := { r with gateway }
  match message? with
  | none =>
    { r with stats := { r.stats with sentencesDropped := r.stats.sentencesDropped + 1 } }
  | some _ =>
    let targets := r.targets sender
    (r.updateAll targets (·.write (wire text))).update sender
      ({ · with phase := .forwarding targets })

/-- The writes to `targets` are through. Where a write failed, the connection is dropped. -/
def endForward (r : Relay) (sender : Nat) (targets failed : List Nat) : Relay :=
  let r := r.updateAll (targets.filter (failed.contains ·)) Connection.drop
  { r.update sender ({ · with phase := .reading }) with
    stats := { r.stats with sentencesForwarded := r.stats.sentencesForwarded + 1 } }

/-- What the relay is after an event. An event that the connection's phase does not allow changes
nothing, nor does a line of blanks. -/
def step (r : Relay) : Event → Relay
  | .connect => r.connect
  | .line sender bytes =>
    match r.phase sender, lineText? bytes with
    | .reading, some text => r.takeLine sender text
    | _, _ => r
  | .flushed sender failed =>
    match r.phase sender with
    | .forwarding targets => r.endForward sender targets failed
    | _ => r
  | .leave client =>
    match r.phase client with
    | .reading => r.update client Connection.finish
    | _ => r

/-- What the relay is after a sequence of events. -/
def run (r : Relay) (events : List Event) : Relay :=
  events.foldl step r

/-- The relay that a configuration describes, unless it disables it. -/
def ofConfig? (value : Json) : Except ComponentError (Option Relay) := do
  let (relaySection, codecSection) ← RelayConfig.sections value
  let config ← RelayConfig.ofConfig relaySection
  if config.enabled then
    let gateway ← (Gateway.ofConfig codecSection).mapError .shape
    return some { config, gateway }
  else
    return none

end Relay

end AisStation
