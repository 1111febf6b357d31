import AisStation.Message.Error

/-!
Validation of records against the ranges of the standard.

Ranges go by the name of the field, so one table serves all kinds of records. A finding names a
field and says what is wrong with it; findings come in a fixed order: type and carrier, the fields
in wire order, heading, positioning device, repeated groups. They are reported in words, which
repeat the numbers found, so a number too long to be written cannot be reported.
-/

namespace AisStation

/-- What can be wrong with a field of a record. -/
inductive Problem
  | outOfRange (value low high : Int)
  /-- Some character has no code. -/
  | foreignText
  | undefinedHeading (value : Int)
  | undefinedFix (value : Int)
  /-- Records of this kind do not carry messages of this type. -/
  | wrongCarrier (kind : RecordKind) (messageType : Int)
  /-- A repeated group occurs this many times. -/
  | groupCount (groups : String) (count : Nat)
  /-- A field is missing beside another one. -/
  | missingBeside (other : String)
  /-- There is no record, but a value of a type of this name. -/
  | notARecord (typeName : String)
deriving DecidableEq, Repr

/-- Something wrong with a field of a record. -/
structure Finding where
  field : String
  problem : Problem
deriving DecidableEq, Repr

/-- A finding in words. -/
structure Report where
  field : String
  message : String
deriving DecidableEq, Repr

namespace Finding

/-- The wording of a finding. -/
def message (f : Finding) : Except Text.Unwritable String :=
  match f.problem with
  | .outOfRange value low high => do
    let value ← Text.decimal value
    return s!"{f.field}={value} out of range [{low}, {high}]"
  | .foreignText => return s!"{f.field} has characters outside the six-bit alphabet"
  | .undefinedHeading value => do
    let value ← Text.decimal value
    return s!"{f.field}={value} out of range [0, 359] and not 511"
  | .undefinedFix value => do
    let value ← Text.decimal value
    return s!"{f.field}={value} is not a defined fix type"
  | .wrongCarrier kind messageType => kind.cannotCarry messageType
  | .groupCount groups count => return s!"{count} {groups} (1-4 allowed)"
  | .missingBeside other => return s!"{f.field} must be set when {other} is set"
  | .notARecord typeName => return s!"Unknown message type: <class '{typeName}'>"

/-- Reports a finding. -/
def report (f : Finding) : Except Text.Unwritable Report :=
  f.message.map (Report.mk f.field)

end Finding

namespace Validation

/-- The greatest identity of a station. -/
def maxMmsi : Int := 999999999

/-- The range of a field, by its name. -/
def range? : String → Option (Int × Int)
  | "repeat" => some (0, 3)
  | "mmsi" | "dest_mmsi" | "dest_mmsi_a" | "mmsi1" => some (0, maxMmsi)
  | "sog" => some (0, 1023)
  | "cog" => some (0, 3600)
  | "second" => some (0, 63)
  | "nav_status" => some (0, 15)
  | "month" | "eta_month" => some (0, 12)
  | "day" | "eta_day" => some (0, 31)
  | "hour" | "eta_hour" => some (0, 24)
  | "minute" | "eta_minute" => some (0, 60)
  | "maneuver" => some (0, 2)
  | "seqno" => some (0, 3)
  | "ship_type" => some (0, 255)
  | "aid_type" => some (0, 31)
  | _ => none

/-- A finding if `value` lies outside a range. -/
def checkRange (field : String) (value low high : Int) : List Finding :=
  if value < low ∨ high < value then [⟨field, .outOfRange value low high⟩] else []

/-- A finding if a text cannot be written in the six-bit alphabet. -/
def checkText (field text : String) : List Finding :=
  if SixBit.isText text then [] else [⟨field, .foreignText⟩]

/-- The findings on a field by itself. -/
def checkField (name : String) (value : FieldValue) : List Finding :=
  match range? name, value with
  | some (low, high), .number n => checkRange name n low high
  | none, .text s => checkText name s
  | _, _ => []

/-- A heading is below 360 degrees or not available. -/
def checkHeading (value : Int) : List Finding :=
  if value ≠ 511 ∧ ¬(0 ≤ value ∧ value ≤ 359) then
    [⟨"heading", .undefinedHeading value⟩]
  else []

/-- A positioning device has one of the defined codes. -/
def checkFix (value : Int) : List Finding :=
  if (0 ≤ value ∧ value ≤ 8) ∨ value = 15 then []
  else [⟨"epfd", .undefinedFix value⟩]

/-- Applies a check to the number of the given name, if there is one. -/
def checkNumber (fields : Fields) (name : String) (check : Int → List Finding) : List Finding :=
  match fields.lookup name with
  | some (.number n) => check n
  | _ => []

/-- The findings on the acknowledgements, of which the first has the given index. -/
def checkAcknowledgements (index : Nat) : List Acknowledgement → List Finding
  | [] => []
  | ack :: acks =>
    checkRange s!"acks[{index}].mmsi" ack.mmsi 0 maxMmsi ++
      checkRange s!"acks[{index}].seqno" ack.sequence 0 3 ++
      checkAcknowledgements (index + 1) acks

/-- Is the number of groups from one to four? -/
def isGroupCount (n : Nat) : Bool :=
  1 ≤ n && n ≤ maxGroups

/-- The findings on repeated groups and optional sections. -/
def checkGroups : Message → List Finding
  | .binaryAcknowledge r =>
    (if isGroupCount r.acks.length then []
      else [⟨"acks", .groupCount "acknowledgements" r.acks.length⟩]) ++
      checkAcknowledgements 0 r.acks
  | .dataLinkManagement r =>
    if isGroupCount r.reservations.length then []
    else [⟨"reservations", .groupCount "reservations" r.reservations.length⟩]
  | .interrogation r => match r.mmsi2 with
    | none => []
    | some mmsi2 =>
      checkRange "mmsi2" mmsi2 0 maxMmsi ++
        if r.type12.isSome then [] else [⟨"type1_2", .missingBeside "mmsi2"⟩]
  | _ => []

/-- The finding that a record carries a type not its own. A bare message has no types of its own. -/
def checkCarrier (m : Message) : List Finding :=
  if m.kind.types = [] ∨ m.messageType ∈ m.kind.types then []
  else [⟨"message_type", .wrongCarrier m.kind m.messageType⟩]

end Validation

open Validation in
/-- Everything that is wrong with a record. -/
def Message.findings (m : Message) : List Finding :=
  checkRange "message_type" m.messageType 1 27 ++
  checkCarrier m ++
  (m.toFields.flatMap fun (name, value) => checkField name value) ++
  checkNumber m.toFields "heading" checkHeading ++
  checkNumber m.toFields "epfd" checkFix ++
  checkGroups m

/-- Is nothing wrong with the record? -/
def Message.isValid (m : Message) : Bool :=
  m.findings.isEmpty

/-- Reports everything that is wrong with a record. -/
def Message.validate (m : Message) : Except Text.Unwritable (List Report) :=
  m.findings.mapM Finding.report

/-- What is wrong with a value that is no record, by the name of its type. -/
def Finding.ofForeign (typeName : String) : Finding where
  field := "type"
  problem := .notARecord typeName

end AisStation
