import UsageGraph.Decimal.Numeral
import UsageGraph.Toml.Basic
import UsageGraph.Toml.Pieces

/-!
# Numbers, dates and times

Each part of a date stands at a fixed place, whatever separates the parts.

* `isDate`: a text is a date, with or without a time of day;
* `time?`: the numbers of the time of day that a text starts with;
* `number`: the number that a text is.
-/

namespace UsageGraph.Toml

/-! ## Dates -/

/-- The number of days of a month. -/
def daysOf (year month : Int) : Int :=
  if month = 2 then
    if year % 4 = 0 ∧ (year % 100 ≠ 0 ∨ year % 400 = 0) then 29 else 28
  else if month = 4 ∨ month = 6 ∨ month = 9 ∨ month = 11 then 30
  else 31

/-- There is such a day. -/
def isDay (year month day : Int) : Bool :=
  1 ≤ year && year ≤ 9999 && 1 ≤ month && month ≤ 12 && 1 ≤ day && day ≤ daysOf year month

/-- There is such a time of day. -/
def isClock (hour minute second : Int) : Bool :=
  0 ≤ hour && hour ≤ 23 && 0 ≤ minute && minute ≤ 59 && 0 ≤ second && second ≤ 59

/-- The whole number at some places of a text. -/
def numberAt? (first count : Nat) (text : List Char) : Option Int :=
  Numeral.whole? ((text.drop first).take count)

/-- The product of a natural number and a power of ten with a negative exponent, both as doubles. -/
def shifted (n places : Nat) : Binary64 :=
  match Binary64.ofDecimal false n 0, Binary64.ofDecimal false 1 (-places) with
  | .finite _ m e, .finite _ m' e' =>
    let (a, b) := Binary64.scaled (m * m') 1 (-(e + e'))
    .ofQuotient false a b
  | x, _ => x

/-- The double is below a natural number. -/
def isBelow (n : Nat) : Binary64 → Bool
  | .finite _ m e =>
    let (a, b) := Binary64.scaled m 1 (-e)
    a < n * b
  | _ => false

/-- The digits after the point of a second give less than a second. More than six of them are rounded
as doubles are. -/
def isPartOfSecond (digits : List Char) : Reading Bool :=
  match Numeral.whole? digits with
  | none => return true
  | some n =>
    if digits.length ≤ 6 then return 0 ≤ n && n * Nat.pow 10 (6 - digits.length) < 1000000
    else
      match Binary64.ofDecimal false n.natAbs 0 with
      | .infinite _ => broken .tooLarge
      | _ => return isBelow (if n < 0 then 1 else 1000000) (shifted n.natAbs (digits.length - 6))

/-- The text is a distance from the universal time. -/
def isZone (text : List Char) : Bool :=
  text = ['Z'] || ((numberAt? 1 2 text).isSome && (numberAt? 4 2 text).isSome)

/-- What stands after the point of a second: the digits, and the distance from the universal time if
there is one. -/
def splitZone (text : List Char) : List Char × Option (List Char) :=
  match text.getLast? with
  | none => ([], none)
  | some z =>
    if z = 'Z' ∨ z = 'z' then (text.dropLast, some ['Z'])
    else
      let sign := if text.contains '+' then '+' else '-'
      let digits := text.takeWhile (· != sign)
      (digits, if text.contains sign then some (text.drop digits.length) else none)

/-- What stands after the seconds leaves the time of day within its second. -/
def isRest (rest : List Char) : Reading Bool :=
  match rest with
  | '.' :: more =>
    let (digits, zone) := if more.isEmpty then ([], none) else splitZone more
    if zone.all isZone then isPartOfSecond digits else return true
  | _ => return true

/-- **The text is a date**, with or without a time of day. -/
def isDate (text : List Char) : Reading Bool := do
  let fits ← isRest (text.drop 19)
  if !(text.drop 1).contains '-' then return false
  else
    let day := do return isDay (← numberAt? 0 4 text) (← numberAt? 5 2 text) (← numberAt? 8 2 text)
    let clock := do
      return isClock (← numberAt? 11 2 text) (← numberAt? 14 2 text) (← numberAt? 17 2 text)
    if text.length = 10 then return day.getD false
    else return day.getD false && clock.getD false && fits

/-! ## Times of day -/

/-- The number that two digits stand for. -/
def twoDigits? (c d : Char) : Option Nat :=
  if c.isDigit && d.isDigit then some (10 * (c.toNat - 48) + (d.toNat - 48)) else none

/-- **The hour, the minute and the second that the text starts with.** -/
def time? : List Char → Option (Nat × Nat × Nat)
  | a :: b :: ':' :: c :: d :: ':' :: e :: f :: _ => do
    return (← twoDigits? a b, ← twoDigits? c d, ← twoDigits? e f)
  | _ => none

/-- The time of day that the text starts with, if it starts with one. -/
def timeOf (text : List Char) : Reading (Option Value) :=
  match time? text with
  | none => return none
  | some (h, m, s) =>
    if isClock h m s then return some (.time (String.ofList text)) else invalid .badTime

/-! ## Numbers -/

/-- The value taken from zero, so that zero has no sign. -/
def opposite : Value → Value
  | .int n => .int (-n)
  | .real (.finite negative m e) => .real (.finite (!negative && m != 0) m e)
  | .real (.infinite negative) => .real (.infinite (!negative))
  | v => v

/-- A number with a fraction or an exponent. Digits stand at its start and after its point. -/
def realOf (text : List Char) : Reading Value :=
  if text.contains '.' && text.getLast? = some '.' && text.count '.' = 1 then invalid .badNumber
  else if !text.head?.any Char.isDigit then invalid .badNumber
  else
    match Numeral.real? text with
    | some x => return .real x
    | none => invalid .badNumber

/-- A number without the sign in front. -/
def unsignedNumber (text : List Char) : Reading Value :=
  let word := text.map Char.toLower
  if text.contains '.' || (!text.contains 'x' && (text.contains 'e' || text.contains 'E')) then
    realOf text
  else if word = "inf".toList then return .real (.infinite false)
  else if word = "nan".toList then return .real .nan
  else
    match Numeral.based? text with
    | some n => return .int n
    | none => invalid .badNumber

/-- **The number that a text is.** Low lines count for nothing. -/
def number (text : List Char) : Reading Value :=
  let bare (digits : List Char) : List Char := digits.filter (· != '_')
  match text with
  | '-' :: digits => do return opposite (← unsignedNumber (bare digits))
  | '+' :: digits => unsignedNumber (bare digits)
  | digits => unsignedNumber (bare digits)

end UsageGraph.Toml
