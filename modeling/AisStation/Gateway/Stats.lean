/-!
Counters of a stream of sentences.
-/

namespace AisStation

/-- How many sentences had which outcome. -/
structure CodecStats where
  sentencesReceived : Nat := 0
  messagesDecoded : Nat := 0
  messagesEncoded : Nat := 0
  sentenceErrors : Nat := 0
  fragmentsSkipped : Nat := 0
  vdoSkipped : Nat := 0
  wrongLength : Nat := 0
  unknownType : Nat := 0
  malformed : Nat := 0
  invalid : Nat := 0
  encodeErrors : Nat := 0
deriving DecidableEq, Repr

namespace CodecStats

/-- The sentences whose payload could not be decoded. -/
def decodeErrors (s : CodecStats) : Nat :=
  s.wrongLength + s.unknownType + s.malformed

/-- The counters under their names. -/
def toList (s : CodecStats) : List (String × Nat) := [
  ("sentences_received", s.sentencesReceived), ("messages_decoded", s.messagesDecoded),
  ("messages_encoded", s.messagesEncoded), ("sentence_errors", s.sentenceErrors),
  ("fragments_skipped", s.fragmentsSkipped), ("vdo_skipped", s.vdoSkipped),
  ("wrong_length", s.wrongLength), ("unknown_type", s.unknownType), ("malformed", s.malformed),
  ("invalid", s.invalid), ("encode_errors", s.encodeErrors), ("decode_errors", s.decodeErrors)]

end CodecStats

end AisStation
