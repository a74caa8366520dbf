/-!
# What is wrong with a JSON text

A `Json.Fault` is a cause together with the place of the character where reading stopped; `message`
puts it in words. A `Json.Limit` is passed by texts that have nothing wrong with them.
-/

namespace UsageGraph

/-- Why a text is not JSON. -/
inductive Json.Cause where
  | expectedValue
  | expectedName
  | expectedColon
  | expectedComma
  | extraData
  | unterminatedString
  | controlCharacter
  | badEscape
  | badUnicodeEscape
  | byteOrderMark
  deriving DecidableEq, Repr

/-- The cause in words. -/
def Json.Cause.message : Json.Cause → String
  | .expectedValue => "Expecting value"
  | .expectedName => "Expecting property name enclosed in double quotes"
  | .expectedColon => "Expecting ':' delimiter"
  | .expectedComma => "Expecting ',' delimiter"
  | .extraData => "Extra data"
  | .unterminatedString => "Unterminated string starting at"
  | .controlCharacter => "Invalid control character at"
  | .badEscape => "Invalid \\escape"
  | .badUnicodeEscape => "Invalid \\uXXXX escape"
  | .byteOrderMark => "Unexpected UTF-8 BOM (decode using utf-8-sig)"

/-- **A fault of a JSON text**: its cause and the number of characters before it, with the line and
the column that they come to. -/
structure Json.Fault where
  cause : Json.Cause
  offset : Nat
  line : Nat
  column : Nat
  deriving DecidableEq, Repr

/-- What a text may not go over: the digits of a whole number, and the arrays and objects that are open
at once. -/
inductive Json.Limit where
  | digits
  | depth
  deriving DecidableEq, Repr

/-- The limit in words. -/
def Json.Limit.message : Json.Limit → String
  | .digits => "a whole number has too many digits"
  | .depth => "too many arrays and objects are open at once"

/-- **Why a text is not read.** -/
inductive Json.Refusal where
  | fault (fault : Json.Fault)
  | limit (limit : Json.Limit)
  deriving DecidableEq, Repr

/-- The line and the column, both from one on, that follow the given characters. -/
def Json.place (before : List Char) : Nat × Nat :=
  (before.count '\n' + 1, (before.reverse.takeWhile (· ≠ '\n')).length + 1)

/-- The fault with this cause at this offset of the text. -/
def Json.faultAt (text : List Char) (cause : Json.Cause) (offset : Nat) : Json.Fault :=
  let (line, column) := Json.place (text.take offset)
  ⟨cause, offset, line, column⟩

/-- The fault in words. -/
def Json.Fault.message (f : Json.Fault) : String :=
  f.cause.message ++ ": line " ++ toString f.line ++ " column " ++ toString f.column ++
    " (char " ++ toString f.offset ++ ")"

end UsageGraph
