/-!
# Text from bytes

* `Utf8Fault`: where and why bytes are not UTF-8, with its `message`;
* `decode`: the text of a byte sequence, or the first fault in it.
-/

namespace UsageGraph.Text

/-- Why bytes at some place are not UTF-8. -/
inductive Utf8Cause where
  | invalidStart
  | invalidContinuation
  | unexpectedEnd
  deriving DecidableEq, Repr

/-- **A fault in UTF-8**: `length` bytes from `position` on, the first of them being `byte`. -/
structure Utf8Fault where
  cause : Utf8Cause
  position : Nat
  length : Nat
  byte : UInt8
  deriving DecidableEq, Repr

/-- What the cause is called. -/
def Utf8Cause.message : Utf8Cause → String
  | .invalidStart => "invalid start byte"
  | .invalidContinuation => "invalid continuation byte"
  | .unexpectedEnd => "unexpected end of data"

/-- Two lower-case hexadecimal digits. -/
def hexByte (b : UInt8) : String :=
  String.ofList [Nat.digitChar (b.toNat / 16), Nat.digitChar (b.toNat % 16)]

/-- The fault in words: one byte is shown, several are given by their positions. -/
def Utf8Fault.message (f : Utf8Fault) : String :=
  let place :=
    if f.length = 1 then "byte 0x" ++ hexByte f.byte ++ " in position " ++ toString f.position
    else "bytes in position " ++ toString f.position ++ "-" ++
      toString (f.position + f.length - 1)
  Char.toString (Char.ofNat 39) ++ "utf-8" ++ Char.toString (Char.ofNat 39) ++
    " codec can" ++ Char.toString (Char.ofNat 39) ++ "t decode " ++ place ++ ": " ++
    f.cause.message

/-! ## The first fault -/

/-- The bytes allowed after the first byte of a sequence: how many follow, and the range of the
first of them. `none` for a byte that starts no sequence. -/
def followers (b : UInt8) : Option (Nat × UInt8 × UInt8) :=
  if b < 0x80 then some (0, 0x80, 0xBF)
  else if b < 0xC2 then none
  else if b < 0xE0 then some (1, 0x80, 0xBF)
  else if b = 0xE0 then some (2, 0xA0, 0xBF)
  else if b = 0xED then some (2, 0x80, 0x9F)
  else if b < 0xF0 then some (2, 0x80, 0xBF)
  else if b = 0xF0 then some (3, 0x90, 0xBF)
  else if b < 0xF4 then some (3, 0x80, 0xBF)
  else if b = 0xF4 then some (3, 0x80, 0x8F)
  else none

/-- What the `n` bytes that should follow do: they do, they stop after some, or one is wrong. -/
inductive Continuation where
  | complete
  | cut
  | wrong (taken : Nat)
  deriving DecidableEq, Repr

/-- The continuation of a sequence that needs `n` more bytes, the next of them in `low..high`. -/
def continuation (taken : Nat) : Nat → UInt8 → UInt8 → List UInt8 → Continuation
  | 0, _, _, _ => .complete
  | _ + 1, _, _, [] => .cut
  | n + 1, low, high, b :: bs =>
    if low ≤ b ∧ b ≤ high then continuation (taken + 1) n 0x80 0xBF bs else .wrong taken

/-- The first fault of the bytes, which start at `position`; a number of them may be left to skip
as part of a sequence already found good. -/
def firstFault (position skip : Nat) : List UInt8 → Option Utf8Fault
  | [] => none
  | b :: bs =>
    match skip with
    | n + 1 => firstFault (position + 1) n bs
    | 0 =>
      match followers b with
      | none => some ⟨.invalidStart, position, 1, b⟩
      | some (n, low, high) =>
        match continuation 0 n low high bs with
        | .complete => firstFault (position + 1) n bs
        | .cut => some ⟨.unexpectedEnd, position, bs.length + 1, b⟩
        | .wrong taken => some ⟨.invalidContinuation, position, taken + 1, b⟩

/-- **The text of the bytes**, or the first fault in them. -/
def decode (bytes : ByteArray) : Except Utf8Fault String :=
  match String.fromUTF8? bytes with
  | some s => .ok s
  | none => .error ((firstFault 0 0 bytes.toList).getD ⟨.invalidStart, 0, 1, 0⟩)

end UsageGraph.Text
