import AisStation.Relay.Basic
import Mathlib.Data.List.Basic

/-!
# What an event does to a relay

At an event a relay does one of seven things, and this module says once what they are. Whatever is
claimed of all runs of a relay is proved for these seven, and carried over to runs by induction on
their events.
-/

namespace AisStation

namespace Relay

/-! ## What is observed of a run -/

/-- A line that a connection took, and what became of it. -/
structure Taking where
  sender : Nat
  /-- The line without blanks around it. -/
  text : String
  /-- What the gateway decoded of it. -/
  message? : Option Message
  /-- The connections to which lines were forwarded when it was taken. -/
  members : List Nat
deriving DecidableEq, Repr

/-- The connections that lines are forwarded to. -/
def members (r : Relay) : List Nat :=
  (List.range r.connections.length).filter r.isMember

/-- The line that is taken at an event: a line that is not blank, of a connection that is about to
take one. -/
def taking? (r : Relay) : Event → Option Taking
  | .line sender bytes =>
    match r.phase sender, lineText? bytes with
    | .reading, some text => some {
        sender, text, message? := (r.gateway.processLine text).1, members := r.members }
    | _, _ => none
  | _ => none

theorem taking?_line {r : Relay} {sender : Nat} {bytes : List UInt8} {text : String}
    (hphase : r.phase sender = .reading) (htext : lineText? bytes = some text) :
    r.taking? (.line sender bytes) = some {
      sender, text, message? := (r.gateway.processLine text).1, members := r.members } := by
  simp only [taking?, hphase, htext]

theorem exists_of_taking? {r : Relay} {event : Event} {t : Taking} (h : r.taking? event = some t) :
    ∃ sender bytes, lineText? bytes = some t.text ∧ event = .line sender bytes ∧
      t.sender = sender ∧ t.message? = (r.gateway.processLine t.text).1 ∧ t.members = r.members := by
  cases event with
  | line sender bytes =>
    rw [taking?] at h
    split at h
    · next text hphase htext =>
      obtain rfl := Option.some.inj h
      exact ⟨sender, bytes, htext, rfl, rfl, rfl, rfl⟩
    · cases h
  | _ => cases h

/-- The relay that a connection finds at its arrival. -/
def arrival? (r : Relay) : Event → Option Relay
  | .connect => some r
  | _ => none

/-- What is observed at the events of a run, in their order. -/
def trace {α : Type} (observed? : Relay → Event → Option α) (r : Relay) : List Event → List α
  | [] => []
  | event :: events => (observed? r event).toList ++ (r.step event).trace observed? events

/-- The lines that are taken in a run. -/
def taken (r : Relay) (events : List Event) : List Taking :=
  r.trace taking? events

/-- The relays that the connections of a run find when they arrive. -/
def arrivals (r : Relay) (events : List Event) : List Relay :=
  r.trace arrival? events

/-! ## Transitions -/

/-- The relays that a relay may be after an event. -/
inductive Transition (r : Relay) : Event → Relay → Prop
  /-- A connection arrives and there is no room for it. -/
  | turnedAway (hfull : r.config.maxClients ≤ r.clientCount) :
    Transition r .connect { r with
      connections := r.connections ++ [.rejected]
      stats := { r.stats with clientsRejected := r.stats.clientsRejected + 1 } }
  /-- A connection arrives and there is room for it. -/
  | admitted (hroom : r.clientCount < r.config.maxClients) :
    Transition r .connect { r with
      connections := r.connections ++ [.accepted]
      stats := { r.stats with clientsAccepted := r.stats.clientsAccepted + 1 } }
  /-- A line is taken that holds no record. -/
  | dropped {sender : Nat} {bytes : List UInt8} {text : String}
      (hphase : r.phase sender = .reading) (htext : lineText? bytes = some text)
      (hline : (r.gateway.processLine text).1 = none) :
    Transition r (.line sender bytes) { r with
      gateway := (r.gateway.processLine text).2
      stats := { r.stats with sentencesDropped := r.stats.sentencesDropped + 1 } }
  /-- A line is taken that holds a record, and is written to the others. -/
  | forwarded {sender : Nat} {bytes : List UInt8} {text : String} {m : Message}
      (hphase : r.phase sender = .reading) (htext : lineText? bytes = some text)
      (hline : (r.gateway.processLine text).1 = some m) :
    Transition r (.line sender bytes)
      { (r.updateAll (r.targets sender) (·.write (wire text))).update sender
          ({ · with phase := .forwarding (r.targets sender) }) with
        gateway := (r.gateway.processLine text).2 }
  /-- The writes of a line are through. -/
  | flushed {sender : Nat} {targets failed : List Nat}
      (hphase : r.phase sender = .forwarding targets) :
    Transition r (.flushed sender failed) (r.endForward sender targets failed)
  /-- A connection ends. -/
  | left {client : Nat} (hphase : r.phase client = .reading) :
    Transition r (.leave client) (r.update client Connection.finish)
  /-- Nothing happens. -/
  | ignored {event : Event} (harrival : r.arrival? event = none)
      (htaking : r.taking? event = none) : Transition r event r

theorem updateAll_eq (r : Relay) (clients : List Nat) (change : Connection → Connection) :
    r.updateAll clients change =
      { r with connections := clients.foldl (fun cs i => cs.modify i change) r.connections } := by
  induction clients generalizing r with
  | nil => rfl
  | cons i clients ih => exact ih (r.update i change)

theorem transition_step (r : Relay) (event : Event) : Transition r event (r.step event) := by
  cases event with
  | connect =>
    rw [step, connect]
    split
    · exact .turnedAway ‹_›
    · exact .admitted (by omega)
  | line sender bytes =>
    rw [step]
    split
    · next text hphase htext =>
      cases hline : (r.gateway.processLine text).1 with
      | none =>
        have htake : r.takeLine sender text = { r with
            gateway := (r.gateway.processLine text).2
            stats := { r.stats with sentencesDropped := r.stats.sentencesDropped + 1 } } := by
          simp only [takeLine, hline]
        rw [htake]
        exact .dropped hphase htext hline
      | some m =>
        have htake : r.takeLine sender text =
            { (r.updateAll (r.targets sender) (·.write (wire text))).update sender
                ({ · with phase := .forwarding (r.targets sender) }) with
              gateway := (r.gateway.processLine text).2 } := by
          simp only [takeLine, hline, updateAll_eq]
          rfl
        rw [htake]
        exact .forwarded hphase htext hline
    · next hnone =>
      refine .ignored rfl ?_
      rw [taking?]
      split
      · next text hphase htext => exact absurd htext (hnone text hphase)
      · rfl
  | flushed sender failed =>
    rw [step]
    split
    · next targets hphase => exact .flushed hphase
    · exact .ignored rfl rfl
  | leave client =>
    rw [step]
    split
    · next hphase => exact .left hphase
    · exact .ignored rfl rfl

end Relay

end AisStation
