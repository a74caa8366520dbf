import UsageGraph.Text.Quoted

/-!
# What is wrong with a regular expression

A `Regex.Fault` is a cause with the place that it is found at; `message` puts it in words. In an
expression of several lines the line and the column are given too. An expression can also go over a
`Regex.Limit`, which is told without a place.
-/

namespace UsageGraph.Regex

/-- Why a text is not a regular expression. -/
inductive Cause where
  | escapeAtEnd
  | badEscape (text : String)
  | incompleteEscape (text : String)
  | octalTooLarge (text : String)
  | undefinedCharacter (name : String)
  | unterminatedSet
  | badRange (low high : String)
  | minAboveMax
  | nothingToRepeat
  | multipleRepeat
  | unexpectedEnd
  | unknownExtension (text : String)
  | missing (what : String)
  | unterminatedName (stop : Char)
  | unterminatedGroup
  | unterminatedComment
  | unbalanced
  | badGroupName (name : String)
  | unknownGroupName (name : String)
  | redefinedGroup (name : String) (number earlier : Nat)
  | invalidReference (number : Nat)
  | openGroup
  | groupOfSameLookbehind
  | flagsNotFirst
  | unknownFlag
  | localeFlag
  | incompatibleFlags
  | typeFlagOff
  | globalFlagOn
  | globalFlagOff
  | flagOnAndOff
  | badGroupNumber
  | thirdBranch
  | looseLookbehind
  | farLookbehind
  deriving DecidableEq, Repr

/-- The cause in words. -/
def Cause.message : Cause → String
  | .escapeAtEnd => "bad escape (end of pattern)"
  | .badEscape text => "bad escape " ++ text
  | .incompleteEscape text => "incomplete escape " ++ text
  | .octalTooLarge text => "octal escape value " ++ text ++ " outside of range 0-0o377"
  | .undefinedCharacter name => "undefined character name " ++ Text.quoted name
  | .unterminatedSet => "unterminated character set"
  | .badRange low high => "bad character range " ++ low ++ "-" ++ high
  | .minAboveMax => "min repeat greater than max repeat"
  | .nothingToRepeat => "nothing to repeat"
  | .multipleRepeat => "multiple repeat"
  | .unexpectedEnd => "unexpected end of pattern"
  | .unknownExtension text => "unknown extension ?" ++ text
  | .missing what => "missing " ++ what
  | .unterminatedName stop => "missing " ++ stop.toString ++ ", unterminated name"
  | .unterminatedGroup => "missing ), unterminated subpattern"
  | .unterminatedComment => "missing ), unterminated comment"
  | .unbalanced => "unbalanced parenthesis"
  | .badGroupName name => "bad character in group name " ++ Text.quoted name
  | .unknownGroupName name => "unknown group name " ++ Text.quoted name
  | .redefinedGroup name number earlier =>
    "redefinition of group name " ++ Text.quoted name ++ " as group " ++ toString number ++
      "; was group " ++ toString earlier
  | .invalidReference number => "invalid group reference " ++ toString number
  | .openGroup => "cannot refer to an open group"
  | .groupOfSameLookbehind => "cannot refer to group defined in the same lookbehind subpattern"
  | .flagsNotFirst => "global flags not at the start of the expression"
  | .unknownFlag => "unknown flag"
  | .localeFlag => "bad inline flags: cannot use 'L' flag with a str pattern"
  | .incompatibleFlags => "bad inline flags: flags 'a', 'u' and 'L' are incompatible"
  | .typeFlagOff => "bad inline flags: cannot turn off flags 'a', 'u' and 'L'"
  | .globalFlagOn => "bad inline flags: cannot turn on global flag"
  | .globalFlagOff => "bad inline flags: cannot turn off global flag"
  | .flagOnAndOff => "bad inline flags: flag turned on and off"
  | .badGroupNumber => "bad group number"
  | .thirdBranch => "conditional backref with more than two branches"
  | .looseLookbehind => "look-behind requires fixed-width pattern"
  | .farLookbehind => "looks too much behind"

/-- **What an expression cannot go over**: the greatest count of repetitions, the digits that a number
may have, and one meaning of letters for the whole expression. -/
inductive Limit where
  | count
  | digits
  | kinds
  deriving DecidableEq, Repr

/-- The limit in words. -/
def Limit.message : Limit → String
  | .count => "the repetition number is too large"
  | .digits => "a number has too many digits"
  | .kinds => "ASCII and UNICODE flags are incompatible"

/-- **A fault of a regular expression**: its cause, the number of characters before it, and the line
and the column that they come to in an expression of several lines. -/
structure Fault where
  cause : Cause
  offset : Option Nat
  place : Option (Nat × Nat)
  deriving DecidableEq, Repr

/-- The fault with this cause at this offset of the text. -/
def faultAt (text : List Char) (cause : Cause) (offset : Option Nat) : Fault :=
  let place : Option (Nat × Nat) :=
    match offset with
    | some n =>
      let before := text.take n
      if text.contains '\n' then
        some (before.count '\n' + 1, (before.reverse.takeWhile (· ≠ '\n')).length + 1)
      else none
    | none => none
  ⟨cause, offset, place⟩

/-- The fault in words. -/
def Fault.message (f : Fault) : String :=
  let position := match f.offset with
    | some n => " at position " ++ toString n
    | none => ""
  let place := match f.place with
    | some (line, column) =>
      " (line " ++ toString line ++ ", column " ++ toString column ++ ")"
    | none => ""
  f.cause.message ++ position ++ place

/-- **Why there is no expression**: the text has a fault, or goes over a limit. -/
inductive Refusal where
  | fault (fault : Fault)
  | limit (limit : Limit)
  deriving DecidableEq, Repr

end UsageGraph.Regex
