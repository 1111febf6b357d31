import AisStation.Proofs.Relay.Connections
import AisStation.Relay.Stream

/-!
# Relays over streams

Whatever happens on the streams of a relay, the relay itself goes through events. What holds after
every run of events therefore holds of a relay over streams.
-/

namespace AisStation

namespace StreamRelay

/-- Something that happens on the streams of a relay. -/
inductive Operation
  | connect
  | receive (client : Nat) (bytes : List UInt8)
  | finish (client : Nat)
  | reset (client : Nat)
  | breakOff (client : Nat)
deriving DecidableEq, Repr

/-- The relay and its streams after an operation. -/
def apply (s : StreamRelay) : Operation → StreamRelay
  | .connect => s.connect
  | .receive client bytes => s.receive client bytes
  | .finish client => s.finish client
  | .reset client => s.reset client
  | .breakOff client => s.breakOff client

/-- The relay of `s'` is that of `s` after some events. -/
def Follows (s' s : StreamRelay) : Prop :=
  ∃ events, s'.relay = s.relay.run events

variable {s s' s'' : StreamRelay}

theorem Follows.of_relay_eq (h : s'.relay = s.relay) : s'.Follows s :=
  ⟨[], h⟩

theorem Follows.trans (h' : s''.Follows s') (h : s'.Follows s) : s''.Follows s := by
  obtain ⟨later, hlater⟩ := h'
  obtain ⟨earlier, hearlier⟩ := h
  refine ⟨earlier ++ later, ?_⟩
  rw [hlater, hearlier, Relay.run_append]

theorem follows_update (s : StreamRelay) (client : Nat) (change : Relay.Stream → Relay.Stream) :
    (s.update client change).Follows s :=
  .of_relay_eq rfl

theorem follows_connect (s : StreamRelay) : s.connect.Follows s :=
  ⟨[.connect], rfl⟩

theorem follows_deliver (s : StreamRelay) (client : Nat) (bytes : List UInt8) :
    (s.deliver client bytes).Follows s :=
  ⟨[.line client bytes, .flushed client s.broken], rfl⟩

theorem follows_leave (s : StreamRelay) (client : Nat) : (s.leave client).Follows s :=
  ⟨[.leave client], rfl⟩

theorem follows_foldl_deliver (s : StreamRelay) (client : Nat) (lines : List (List UInt8)) :
    (lines.foldl (fun s line => s.deliver client line) s).Follows s := by
  induction lines generalizing s with
  | nil => exact .of_relay_eq rfl
  | cons line lines ih => exact (ih (s.deliver client line)).trans (s.follows_deliver client line)

theorem follows_receive (s : StreamRelay) (client : Nat) (bytes : List UInt8) :
    (s.receive client bytes).Follows s := by
  rw [receive]
  split
  · split
    next lines rest? hsplit =>
    have hlines := s.follows_foldl_deliver client lines
    cases rest? with
    | some rest => exact (follows_update _ client _).trans hlines
    | none => exact (follows_leave _ client).trans hlines
  · exact .of_relay_eq rfl

theorem follows_finish (s : StreamRelay) (client : Nat) : (s.finish client).Follows s :=
  (follows_leave _ client).trans (s.follows_deliver client (s.buffer client))

theorem follows_apply (s : StreamRelay) (operation : Operation) : (s.apply operation).Follows s := by
  cases operation with
  | connect => exact s.follows_connect
  | receive client bytes => exact s.follows_receive client bytes
  | finish client => exact s.follows_finish client
  | reset client => exact s.follows_leave client
  | breakOff client => exact s.follows_update client _

/-- After any operations the relay is one that a run of events leads to. -/
theorem follows_applyAll (s : StreamRelay) (operations : List Operation) :
    (operations.foldl apply s).Follows s := by
  induction operations generalizing s with
  | nil => exact .of_relay_eq rfl
  | cons operation operations ih =>
    exact (ih (s.apply operation)).trans (s.follows_apply operation)

end StreamRelay

end AisStation
