/-!
# What is wrong with a TOML text

A text that is no document has a cause, which can be told. Of some texts reading breaks down instead,
because it needs something that is not there.

* `Cause`, `Cause.message`: why a text is no document;
* `Breakdown`, `Breakdown.message`: what reading breaks down at;
* `Fault`, `Reading`: either of them, and the computations that stop with one.
-/

namespace UsageGraph.Toml

/-- Why a text is no document. -/
inductive Cause where
  | keyWithoutValue
  | badKeyCharacter
  | emptyKey
  | unbalancedQuotes
  | unterminatedString
  | loneBracket
  | headWithMore
  | badHeadName (name : String)
  | emptyHeadName
  | headTwice (name : String)
  | impliedArray
  | badInlineTable
  | openInlineTable
  | emptyValue
  | badBoolean
  | textAfterString
  | reservedEscape
  | badEscape (digits : String)
  | mixedArray
  | badNumber
  | badTime
  | keyTwice
  deriving DecidableEq, Repr

/-- The cause in words. -/
def Cause.message : Cause → String
  | .keyWithoutValue => "a key has no value"
  | .badKeyCharacter => "a key has a character that it cannot have"
  | .emptyKey => "a key is empty"
  | .unbalancedQuotes => "a quote is not closed on its line"
  | .unterminatedString => "a string does not end"
  | .loneBracket => "a bracket stands alone on a line"
  | .headWithMore => "the head of a table is not alone on its line"
  | .badHeadName name => name ++ " cannot name a table"
  | .emptyHeadName => "a table has an empty name"
  | .headTwice name => "the table " ++ name ++ " is there already"
  | .impliedArray => "a table that is there by its parts is no array"
  | .badInlineTable => "an inline table is ill-formed"
  | .openInlineTable => "an inline table does not end on its line"
  | .emptyValue => "a value is empty"
  | .badBoolean => "true and false have small letters"
  | .textAfterString => "something stands after a string"
  | .reservedEscape => "an escape has no meaning"
  | .badEscape digits => "an escape names no character: " ++ digits
  | .mixedArray => "an array has items of several types"
  | .badNumber => "a number or a date is ill-formed"
  | .badTime => "a time of day is out of range"
  | .keyTwice => "a key is there already"

/-- **What reading breaks down at**: a place that a text or a list does not have, a value that is used
like a table but is none, a value over several lines for an empty key, a number that is too large, or
too many arrays and inline tables in one another. -/
inductive Breakdown where
  | noPlace
  | noTable
  | noValue
  | tooLarge
  | tooDeep
  deriving DecidableEq, Repr

/-- The breakdown in words. -/
def Breakdown.message : Breakdown → String
  | .noPlace => "there is no such place"
  | .noTable => "there is no such table"
  | .noValue => "there is no such value"
  | .tooLarge => "a number is too large"
  | .tooDeep => "arrays and tables are nested too deep"

/-- **Why there is no document.** -/
inductive Fault where
  | invalid (cause : Cause)
  | broken (breakdown : Breakdown)
  deriving DecidableEq, Repr

/-- **A computation that may stop with a fault.** -/
abbrev Reading := Except Fault

/-- Stops with a cause. -/
def invalid {α : Type} (cause : Cause) : Reading α := .error (.invalid cause)

/-- Breaks down. -/
def broken {α : Type} (breakdown : Breakdown) : Reading α := .error (.broken breakdown)

/-- What there should be. -/
def present {α : Type} : Option α → Reading α
  | some a => .ok a
  | none => broken .noPlace

end UsageGraph.Toml
