import AisStation.Relay.Basic

/-!
A relay over streams.

Each client has a stream of bytes to the relay, of which the relay keeps what does not yet make up a
line, and a stream from the relay, which may break. Bytes are turned into the relay's events: a line
is taken and its writes are through before the next line of the same stream is taken.
-/

namespace AisStation

namespace Relay

/-- The streams of a client. -/
structure Stream where
  /-- The bytes of an unfinished line. -/
  buffer : List UInt8 := []
  /-- Do writes to the client fail? -/
  isBroken : Bool := false
deriving DecidableEq, Repr

end Relay

/-- A relay and the streams of its connections. -/
structure StreamRelay where
  relay : Relay := {}
  streams : List Relay.Stream := []
deriving DecidableEq, Repr

namespace StreamRelay

open Relay

/-- The bytes of a client's unfinished line. -/
def buffer (s : StreamRelay) (client : Nat) : List UInt8 :=
  match s.streams[client]? with
  | some stream => stream.buffer
  | none => []

/-- The connections to which writes fail. -/
def broken (s : StreamRelay) : List Nat :=
  (List.range s.streams.length).filter fun i =>
    match s.streams[i]? with
    | some stream => stream.isBroken
    | none => false

/-- Changes the streams of a client. -/
def update (s : StreamRelay) (client : Nat) (change : Stream → Stream) : StreamRelay :=
  { s with streams := s.streams.modify client change }

/-- A client connects. -/
def connect (s : StreamRelay) : StreamRelay :=
  { relay := s.relay.step .connect, streams := s.streams ++ [{}] }

/-- Takes a line of a client and waits until it is forwarded. -/
def deliver (s : StreamRelay) (client : Nat) (bytes : List UInt8) : StreamRelay :=
  { s with relay := s.relay.run [.line client bytes, .flushed client s.broken] }

/-- The client's side of a connection is over. -/
def leave (s : StreamRelay) (client : Nat) : StreamRelay :=
  { s.update client ({ · with buffer := [] }) with relay := s.relay.step (.leave client) }

/-- Bytes of a client arrive. -/
def receive (s : StreamRelay) (client : Nat) (bytes : List UInt8) : StreamRelay :=
  match s.relay.phase client with
  | .reading =>
    let (lines, rest?) := split s.relay.config.maxLineBytes (s.buffer client ++ bytes)
    let s := lines.foldl (fun s line => s.deliver client line) s
    match rest? with
    | some rest => s.update client ({ · with buffer := rest })
    | none => s.leave client
  | _ => s

/-- A client's input ends; a line without its newline counts as a line. -/
def finish (s : StreamRelay) (client : Nat) : StreamRelay :=
  (s.deliver client (s.buffer client)).leave client

/-- A client's input fails; a line without its newline is lost. -/
def reset (s : StreamRelay) (client : Nat) : StreamRelay :=
  s.leave client

/-- From now on writes to a client fail. -/
def breakOff (s : StreamRelay) (client : Nat) : StreamRelay :=
  s.update client ({ · with isBroken := true })

end StreamRelay

end AisStation
