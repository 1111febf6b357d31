import AisStation.Gateway.Stats
import AisStation.Message.Decode
import AisStation.Message.Encode
import AisStation.Message.Summary
import AisStation.Sentence
import AisStation.Validation

/-!
The gateway between sentences and records.

Each line has exactly one outcome: a record, or the reason for which it is skipped. The gateway
counts outcomes and keeps nothing else from line to line, so the outcome of a line depends on the
line and the configuration alone.

The steps of a gateway may raise exceptions, and it catches those that it has an outcome for. What
escapes it ends the call. Of the lines none escapes, so `receive` gives their outcome at once.
-/

namespace AisStation

/-- What a gateway accepts and how it frames what it sends. -/
structure GatewayConfig where
  validateInbound : Bool := true
  validateOutbound : Bool := true
  acceptVdo : Bool := true
  talker : String := "AI"
  channel : String := "A"
deriving DecidableEq, Repr

/-- Everything that the steps of a gateway can raise. -/
inductive Exception
  | sentence (error : SentenceError)
  | codec (error : CodecError)
  /-- Records of this kind do not carry messages of this type. -/
  | wrongCarrier (kind : RecordKind) (messageType : Int)
  /-- Something is wrong with a number, and it is too long to be told. -/
  | unwritable
deriving DecidableEq, Repr

namespace Exception

/-- What decoding raises. -/
def ofDecode : DecodeError → Exception
  | .codec error => codec error
  | .unwritable => unwritable

/-- What encoding raises. -/
def ofEncode : EncodeError → Exception
  | .codec error => codec error
  | .wrongCarrier kind messageType => wrongCarrier kind messageType
  | .unwritable => unwritable

/-- What validation raises. -/
def ofUnwritable (_ : Text.Unwritable) : Exception :=
  unwritable

/-- Handles the exceptions that have an outcome; all others escape. -/
def handle {α : Type} (outcome? : Exception → Option α) : Except Exception α → Except Exception α
  | .ok a => .ok a
  | .error e => match outcome? e with
    | some a => .ok a
    | none => .error e

end Exception

/-- The outcome of a line. -/
inductive Inbound
  | decoded (m : Message)
  | sentenceError (error : SentenceError)
  | fragment
  | ownShip
  | codecError (error : CodecError)
  | invalid (m : Message)
deriving DecidableEq, Repr

namespace Inbound

/-- The outcome of a line on which an exception is raised that the gateway catches. -/
def ofException? : Exception → Option Inbound
  | .sentence error => some (sentenceError error)
  | .codec error => some (codecError error)
  | .wrongCarrier .. | .unwritable => none

/-- The record, if there is one. -/
def message? : Inbound → Option Message
  | decoded m => some m
  | _ => none

/-- Counts the outcome. -/
def count (outcome : Inbound) (s : CodecStats) : CodecStats :=
  let s := { s with sentencesReceived := s.sentencesReceived + 1 }
  match outcome with
  | decoded _ => { s with messagesDecoded := s.messagesDecoded + 1 }
  | sentenceError _ => { s with sentenceErrors := s.sentenceErrors + 1 }
  | fragment => { s with fragmentsSkipped := s.fragmentsSkipped + 1 }
  | ownShip => { s with vdoSkipped := s.vdoSkipped + 1 }
  | codecError (.wrongLength ..) => { s with wrongLength := s.wrongLength + 1 }
  | codecError (.unknownType _) => { s with unknownType := s.unknownType + 1 }
  | codecError (.malformed _) => { s with malformed := s.malformed + 1 }
  | invalid _ => { s with invalid := s.invalid + 1 }

end Inbound

/-- The outcome of a record to be sent. -/
inductive Outbound
  | encoded (line : String)
  | invalid
  | encodeError (error : EncodeError)
deriving DecidableEq, Repr

namespace Outbound

/-- The outcome of a record on which an exception is raised that the gateway catches. -/
def ofException? : Exception → Option Outbound
  | .codec error => some (encodeError (.codec error))
  | .wrongCarrier kind messageType => some (encodeError (.wrongCarrier kind messageType))
  | .sentence _ | .unwritable => none

/-- The sentence, if there is one. -/
def line? : Outbound → Option String
  | encoded line => some line
  | _ => none

/-- Counts the outcome. -/
def count (outcome : Outbound) (s : CodecStats) : CodecStats :=
  match outcome with
  | encoded _ => { s with messagesEncoded := s.messagesEncoded + 1 }
  | invalid => { s with invalid := s.invalid + 1 }
  | encodeError _ => { s with encodeErrors := s.encodeErrors + 1 }

end Outbound

namespace GatewayConfig

/-- The outcome of a line. -/
def receive (config : GatewayConfig) (line : String) : Inbound :=
  match Sentence.parse line with
  | .error error => .sentenceError error
  | .ok sentence =>
    if sentence.isFragmented then .fragment
    else if sentence.isOwnShip && !config.acceptVdo then .ownShip
    else match Decode.result sentence.payload (some sentence.bitLength) with
      | .error error => .codecError error
      | .ok m => if config.validateInbound && !m.isValid then .invalid m else .decoded m

/-- The steps from a line to its outcome. -/
def takeIn (config : GatewayConfig) (line : String) : Except Exception Inbound := do
  let sentence ← (Sentence.parse line).mapError .sentence
  if sentence.isFragmented then return .fragment
  else if sentence.isOwnShip && !config.acceptVdo then return .ownShip
  else
    let m ← (decode sentence.payload (some sentence.bitLength)).mapError .ofDecode
    if config.validateInbound then
      let reports ← m.validate.mapError .ofUnwritable
      return if reports.isEmpty then .decoded m else .invalid m
    else return .decoded m

/-- The outcome of a line, unless an exception escapes. -/
def attempt (config : GatewayConfig) (line : String) : Except Exception Inbound :=
  Exception.handle Inbound.ofException? (config.takeIn line)

/-- The channel to send on: an empty or absent one is that of the configuration. -/
def effectiveChannel (config : GatewayConfig) : Option String → String
  | some channel => if channel.isEmpty then config.channel else channel
  | none => config.channel

/-- The steps from a record to its outcome. -/
def giveOut (config : GatewayConfig) (m : Message) (channel : Option String) :
    Except Exception Outbound := do
  let reports ← if config.validateOutbound then m.validate.mapError .ofUnwritable else pure []
  if !reports.isEmpty then return .invalid
  else
    let payload ← (encode m).mapError .ofEncode
    return .encoded (Sentence.build payload (config.effectiveChannel channel) config.talker .vdm)

/-- The outcome of a record to be sent on a channel, unless an exception escapes. -/
def send (config : GatewayConfig) (m : Message) (channel : Option String) :
    Except Exception Outbound :=
  Exception.handle Outbound.ofException? (config.giveOut m channel)

end GatewayConfig

/-- A gateway: its configuration and its counters. -/
structure Gateway where
  config : GatewayConfig := {}
  stats : CodecStats := {}
deriving DecidableEq, Repr

namespace Gateway

/-- Processes a line. -/
def processLine (g : Gateway) (line : String) : Option Message × Gateway :=
  let outcome := g.config.receive line
  (outcome.message?, { g with stats := outcome.count g.stats })

/-- Processes the lines that are not blank and collects the records. -/
def processLines (g : Gateway) : List String → List Message × Gateway
  | [] => ([], g)
  | line :: lines =>
    if Text.isBlankLine line then g.processLines lines
    else
      let (m?, g) := g.processLine line
      let (ms, g) := g.processLines lines
      (m?.toList ++ ms, g)

/-- Processes a line. It is counted as received before anything else. -/
def tryLine (g : Gateway) (line : String) : Except Exception (Option Message) × Gateway :=
  match g.config.attempt line with
  | .ok outcome => (.ok outcome.message?, { g with stats := outcome.count g.stats })
  | .error e => (.error e,
    { g with stats := { g.stats with sentencesReceived := g.stats.sentencesReceived + 1 } })

/-- Processes the lines that are not blank and collects the records, as long as nothing escapes. -/
def tryLines (g : Gateway) : List String → Except Exception (List Message) × Gateway
  | [] => (.ok [], g)
  | line :: lines =>
    if Text.isBlankLine line then g.tryLines lines
    else match g.tryLine line with
      | (.error e, g) => (.error e, g)
      | (.ok m?, g) =>
        let (answer, g) := g.tryLines lines
        (answer.map (m?.toList ++ ·), g)

/-- Encodes a record into a sentence. What escapes is not counted. -/
def encodeLine (g : Gateway) (m : Message) (channel : Option String) :
    Except Exception (Option String) × Gateway :=
  match g.config.send m channel with
  | .ok outcome => (.ok outcome.line?, { g with stats := outcome.count g.stats })
  | .error e => (.error e, g)

/-- The gateway with all counters at zero. -/
def resetStats (g : Gateway) : Gateway :=
  { g with stats := {} }

/-- Processes the lines that are not blank; writes a JSON text for every record and counts these. -/
def summarize (g : Gateway) : List String → List String × Nat × Gateway
  | [] => ([], 0, g)
  | line :: lines =>
    if Text.isBlankLine line then g.summarize lines
    else match g.processLine line with
      | (none, g) => g.summarize lines
      | (some m, g) =>
        let (texts, count, g) := g.summarize lines
        (m.toJson.render :: texts, count + 1, g)

end Gateway

end AisStation
