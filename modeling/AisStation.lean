import AisStation.CommandLine.Run
import AisStation.Main
import AisStation.Message.View
import AisStation.Relay.Stream
import AisStation.Proofs.Armor
import AisStation.Proofs.Alphabet
import AisStation.Proofs.Cursor
import AisStation.Proofs.Layout
import AisStation.Proofs.Canonical
import AisStation.Proofs.Lawful
import AisStation.Proofs.Lawful.Fixed
import AisStation.Proofs.Lawful.Binary
import AisStation.Proofs.Lawful.Groups
import AisStation.Proofs.Lawful.Sections
import AisStation.Proofs.Lawful.Texts
import AisStation.Proofs.Record
import AisStation.Proofs.Decoding
import AisStation.Proofs.RoundTrip
import AisStation.Proofs.Acceptance
import AisStation.Proofs.Delivery
import AisStation.Proofs.Kept
import AisStation.Proofs.Sent
import AisStation.Proofs.Encoding
import AisStation.Proofs.Reception
import AisStation.Proofs.Validated
import AisStation.Proofs.Normal
import AisStation.Proofs.Isolation
import AisStation.Proofs.FieldPlaces
import AisStation.Proofs.Accounting
import AisStation.Proofs.Wording
import AisStation.Proofs.Gateway.Sending
import AisStation.Proofs.Gateway.Processing
import AisStation.Proofs.Gateway.Accounts
import AisStation.Proofs.Gateway.EncodingErrors
import AisStation.Proofs.Config.Numerals
import AisStation.Proofs.Config.Agreement
import AisStation.Proofs.Relay.Transition
import AisStation.Proofs.Relay.Connections
import AisStation.Proofs.Relay.Ceiling
import AisStation.Proofs.Relay.Counters
import AisStation.Proofs.Relay.Forwarding
import AisStation.Proofs.Relay.Streams
import AisStation.Proofs.Sentence.Grammar
import AisStation.Proofs.Sentence.Corruption
import AisStation.Proofs.Sentence.Emission
import AisStation.Proofs.Relay.LineLimit
import AisStation.Proofs.Received
import AisStation.Proofs.Validated.Encoding
import AisStation.Proofs.Validated.Stations
import AisStation.Proofs.Validated.Decoded
import AisStation.Proofs.Relay.Lines
import AisStation.Proofs.Relay.Handler
import AisStation.Proofs.Relay.Buffers
import AisStation.Proofs.Relay.Verbatim
import AisStation.Proofs.Rendering
import AisStation.Proofs.Gateway.Streams
import AisStation.Proofs.Gateway.Switches
import AisStation.Proofs.View.MotherShip
import AisStation.Proofs.Number.Rounding
import AisStation.Proofs.View.Course
import AisStation.Proofs.Config.Layers
import AisStation.Proofs.Config.Library
import AisStation.Proofs.Config.Listing
import AisStation.Proofs.Config.Loading
import AisStation.Proofs.Bits.Blobs
import AisStation.Proofs.Bits.Appending
import AisStation.Proofs.Bits.Signed
import AisStation.Proofs.Bits.Calls
import AisStation.Proofs.Bits.Peek
import AisStation.Proofs.Bits.Transcript
import AisStation.Proofs.Relay.Sections
