import AisStation.Message.Length

/-!
Failures of decoding and encoding a message.

Decoding fails because of the length, the type or malformed bits. Encoding fails in the same ways,
or because a record carries a type that is not its own.

The wording of a failure repeats the numbers that the caller gave. One that is too long to be
written leaves no wording, and another error is raised in place of the failure.
-/

namespace AisStation

/-- Why a message cannot be decoded. -/
inductive CodecError
  /-- A message has a length that its type does not allow: a number of bits at hand. -/
  | wrongLength (messageType length : Int) (allowed : Lengths)
  | unknownType (messageType : Int)
  | malformed (why : Malformed)
deriving DecidableEq, Repr

namespace CodecError

/-- The wording of the failure. -/
def message : CodecError → Except Text.Unwritable String
  | wrongLength messageType length allowed =>
    return s!"Message {messageType} wrong length {length} (expected {allowed.describe})"
  | unknownType messageType => do
    let messageType ← Text.decimal messageType
    return s!"Unknown AIS message type: {messageType}"
  | malformed why => why.message

/-- The message type that the failure is about, where it is about one. -/
def messageType? : CodecError → Option Int
  | wrongLength messageType _ _ | unknownType messageType => some messageType
  | malformed why => why.messageType?

end CodecError

/-- What is raised when a text cannot be decoded. -/
inductive DecodeError
  | codec (error : CodecError)
  /-- Decoding fails, and the number to be told is too long. -/
  | unwritable
deriving DecidableEq, Repr

/-- The error that is raised for a failure. -/
def DecodeError.raised (error : CodecError) : DecodeError :=
  match error.message with
  | .ok _ => codec error
  | .error _ => unwritable

/-- What is raised when a record cannot be encoded. -/
inductive EncodeError
  | codec (error : CodecError)
  /-- Records of this kind do not carry messages of this type. -/
  | wrongCarrier (kind : RecordKind) (messageType : Int)
  /-- Encoding fails, and the number to be told is too long. -/
  | unwritable
deriving DecidableEq, Repr

/-- The error that is raised for a failure. -/
def EncodeError.raised (error : CodecError) : EncodeError :=
  match error.message with
  | .ok _ => codec error
  | .error _ => unwritable

/-- The wording of a record that carries a type not its own. -/
def RecordKind.cannotCarry (kind : RecordKind) (messageType : Int) :
    Except Text.Unwritable String := do
  let messageType ← Text.decimal messageType
  return s!"{kind.name} cannot carry message type {messageType}"

/-- The wording of the error. -/
def DecodeError.message : DecodeError → Except Text.Unwritable String
  | codec error => error.message
  | unwritable => throw .tooManyDigits

/-- The wording of the error. -/
def EncodeError.message : EncodeError → Except Text.Unwritable String
  | codec error => error.message
  | wrongCarrier kind messageType => kind.cannotCarry messageType
  | unwritable => throw .tooManyDigits

/-- Checks the length of a message against the allowed lengths. -/
def Lengths.check (lengths : Lengths) (messageType length : Int) : Except CodecError Unit :=
  if lengths.accepts length then .ok () else .error (.wrongLength messageType length lengths)

end AisStation
