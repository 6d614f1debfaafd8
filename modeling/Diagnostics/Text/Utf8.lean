/-!
# UTF-8

Octets are read as characters, or refused with the first place where they are not UTF-8. A refusal
says which octets are at fault: a first octet that can begin no character, the octets of a character
before one that cannot continue it, or all octets of a character that the text ends in.
-/

namespace Diagnostics.Text

/-- Why octets are not UTF-8. -/
inductive Utf8Reason
  | invalidStart
  | invalidContinuation
  | unexpectedEnd
  deriving DecidableEq, Repr

/-- Where octets are not UTF-8: `count` octets from `position` on, the first of which is `octet`. -/
structure Utf8Fault where
  octet : UInt8
  position : Nat
  count : Nat
  reason : Utf8Reason
  deriving DecidableEq, Repr

/-- The wording of a reason. -/
def Utf8Reason.message : Utf8Reason → String
  | invalidStart => "invalid start byte"
  | invalidContinuation => "invalid continuation byte"
  | unexpectedEnd => "unexpected end of data"

/-- The wording of a fault. -/
def Utf8Fault.message (fault : Utf8Fault) : String :=
  let digits := String.ofList
    [Nat.digitChar (fault.octet.toNat / 16), Nat.digitChar (fault.octet.toNat % 16)]
  let place :=
    if fault.count = 1 then s!"byte 0x{digits} in position {fault.position}"
    else s!"bytes in position {fault.position}-{fault.position + fault.count - 1}"
  s!"'utf-8' codec can't decode {place}: {fault.reason.message}"

/-- What follows a first octet: how many octets, and the bounds of the first of them. -/
structure Utf8Lead where
  /-- The bits of the character that the first octet holds. -/
  bits : Nat
  following : Nat
  low : Nat := 0x80
  high : Nat := 0xbf

/-- What a first octet announces; none if no character begins with it. -/
def utf8Lead? (octet : Nat) : Option Utf8Lead :=
  if octet < 0x80 then some { bits := octet, following := 0 }
  else if octet < 0xc2 then none
  else if octet < 0xe0 then some { bits := octet - 0xc0, following := 1 }
  else if octet = 0xe0 then some { bits := 0, following := 2, low := 0xa0 }
  else if octet = 0xed then some { bits := 0xd, following := 2, high := 0x9f }
  else if octet < 0xf0 then some { bits := octet - 0xe0, following := 2 }
  else if octet = 0xf0 then some { bits := 0, following := 3, low := 0x90 }
  else if octet < 0xf4 then some { bits := octet - 0xf0, following := 3 }
  else if octet = 0xf4 then some { bits := 4, following := 3, high := 0x8f }
  else none

/-- Read the octets that continue a character, with `bits` read so far and `count` octets behind.
The first of them must lie from `low` to `high`. -/
def continueUtf8 (bits low high count : Nat) : Nat → List UInt8 → Except (Utf8Reason × Nat) Nat
  | 0, _ => .ok bits
  | _ + 1, [] => .error (.unexpectedEnd, count)
  | following + 1, octet :: rest =>
    if low ≤ octet.toNat ∧ octet.toNat ≤ high then
      continueUtf8 (bits * 64 + (octet.toNat - 0x80)) 0x80 0xbf (count + 1) following rest
    else .error (.invalidContinuation, count)

/-- The code point that octets begin with and how many octets follow its first. -/
def firstCodePoint (octet : UInt8) (rest : List UInt8) :
    Except (Utf8Reason × Nat) (Nat × Nat) :=
  match utf8Lead? octet.toNat with
  | none => .error (.invalidStart, 1)
  | some lead =>
    (continueUtf8 lead.bits lead.low lead.high 1 lead.following rest).map (·, lead.following)

/-- Read octets from a position on, where the first `skip` octets belong to a character that has
been read. -/
def decodeFrom : Nat → Nat → List UInt8 → Except Utf8Fault (List Char)
  | _, _, [] => .ok []
  | position, skip + 1, _ :: rest => decodeFrom (position + 1) skip rest
  | position, 0, octet :: rest =>
    match firstCodePoint octet rest with
    | .error (reason, count) => .error { octet, position, count, reason }
    | .ok (code, following) =>
      (decodeFrom (position + 1) following rest).map (Char.ofNat code :: ·)

/-- The text that octets stand for. -/
def decodeUtf8 (octets : List UInt8) : Except Utf8Fault String :=
  (decodeFrom 0 0 octets).map String.ofList

/-- Characters in which each line break of a file is a line feed: a carriage return counts as a
break, alone or with the line feed after it. -/
def unifyBreaks : List Char → List Char
  | [] => []
  | '\r' :: '\n' :: cs => '\n' :: unifyBreaks cs
  | '\r' :: cs => '\n' :: unifyBreaks cs
  | c :: cs => c :: unifyBreaks cs

end Diagnostics.Text
