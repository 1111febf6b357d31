import AisStation.Text.Blank

/-!
Lines of a stream of bytes.

Only the newline byte ends a line. What a client has sent and the relay has not yet taken is kept in
a buffer; a line that has more bytes than the limit before its newline, or that many in the buffer
without one, is too long, and nothing after it counts.
-/

namespace AisStation.Relay

/-- The byte that ends a line. -/
def newline : UInt8 := 10

/-- What stands at the front of a buffer. -/
inductive Front
  /-- A whole line, without its newline, and what follows. -/
  | line (bytes rest : List UInt8)
  /-- A line that is too long. -/
  | overlong
  /-- The beginning of a line. -/
  | unfinished
deriving DecidableEq, Repr

/-- The front of a buffer. -/
def front (limit : Int) (buffer : List UInt8) : Front :=
  let bytes := buffer.takeWhile (· ≠ newline)
  if limit < bytes.length then .overlong
  else match buffer.dropWhile (· ≠ newline) with
    | [] => .unfinished
    | _ :: rest => .line bytes rest

/-- What follows a line is shorter than the buffer. -/
theorem length_lt_of_front_eq_line {limit : Int} {buffer bytes rest : List UInt8}
    (h : front limit buffer = .line bytes rest) : rest.length < buffer.length := by
  unfold front at h
  dsimp only at h
  split at h
  · simp at h
  · split at h
    · simp at h
    · next hd =>
      injection h with _ hr
      subst hr
      have := (List.dropWhile_suffix (· ≠ newline) (l := buffer)).length_le
      rw [hd, List.length_cons] at this
      omega

/-- The whole lines of a buffer, and the beginning of a line after them, unless a line is too
long. -/
def split (limit : Int) (buffer : List UInt8) : List (List UInt8) × Option (List UInt8) :=
  match _h : front limit buffer with
  | .overlong => ([], none)
  | .unfinished => ([], some buffer)
  | .line bytes rest =>
    let (lines, remainder) := split limit rest
    (bytes :: lines, remainder)
termination_by buffer.length
decreasing_by exact length_lt_of_front_eq_line _h

/-- The character of a byte; bytes beyond ASCII have none of their own. -/
def byteChar (byte : UInt8) : Char :=
  if byte < 128 then Char.ofNat byte.toNat else '\uFFFD'

/-- The text of a line without blanks around it, if there is any. -/
def lineText? (bytes : List UInt8) : Option String :=
  match Text.trim (bytes.map byteChar) with
  | [] => none
  | cs => some (String.ofList cs)

end AisStation.Relay
