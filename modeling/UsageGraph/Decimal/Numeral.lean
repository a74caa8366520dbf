import UsageGraph.Decimal.Binary64
import UsageGraph.Text.Affix

/-!
# Numerals

Numerals may have white space around them, a sign, digits of any script, and single low lines between
digits.

* `Numeral.whole?`: a whole number in decimal digits;
* `Numeral.based?`: a whole number whose base is told by its first characters;
* `Numeral.real?`: a number with a fraction, an exponent, both or neither.
-/

namespace UsageGraph.Numeral

/-- White space that may stand around a numeral. -/
def isMargin (c : Char) : Bool := Text.isBlank c && !(28 ≤ c.toNat && c.toNat ≤ 31)

/-- The digits of all scripts as those of ASCII. -/
def plain (c : Char) : Char :=
  match Text.digitValue? c with
  | some d => Char.ofNat (48 + d)
  | none => c

/-- The characters without white space around them, their digits those of ASCII. -/
def trimmed (cs : List Char) : List Char :=
  Text.dropEndWhile isMargin ((cs.map plain).dropWhile isMargin)

/-- The characters after a sign, and whether it is a minus. -/
def unsigned : List Char → Bool × List Char
  | '-' :: cs => (true, cs)
  | '+' :: cs => (false, cs)
  | cs => (false, cs)

/-- The characters without low lines, if each of these stands between two digits. -/
def withoutLines? (afterDigit : Bool) : List Char → Option (List Char)
  | [] => some []
  | c :: cs =>
    if c = '_' then
      if afterDigit && cs.head?.any Char.isDigit then withoutLines? false cs else none
    else (withoutLines? c.isDigit cs).map (c :: ·)

/-! ## Whole numbers -/

/-- The value of a digit of any base up to 36. -/
def digitValue? (c : Char) : Option Nat :=
  if c.isDigit then some (c.toNat - 48)
  else if 'a' ≤ c ∧ c ≤ 'z' then some (c.toNat - 87)
  else if 'A' ≤ c ∧ c ≤ 'Z' then some (c.toNat - 55)
  else none

/-- The number that digits of a base stand for. There is at least one. -/
def natural? (base : Nat) (cs : List Char) : Option Nat :=
  if cs.isEmpty then none
  else cs.foldlM (fun n c => do
    let d ← digitValue? c
    if d < base then some (base * n + d) else none) 0

/-- The most digits that a decimal numeral may have. -/
def digitLimit : Nat := 4300

/-- The number that decimal digits stand for. -/
def decimal? (cs : List Char) : Option Nat :=
  if digitLimit < cs.length then none else natural? 10 cs

/-- The number with a sign. -/
def withSign (negative : Bool) (n : Nat) : Int := if negative then -n else n

/-- **A whole number in decimal digits.** -/
def whole? (cs : List Char) : Option Int := do
  let (negative, cs) := unsigned (trimmed cs)
  return withSign negative (← decimal? (← withoutLines? false cs))

/-- A natural number without low lines whose base is told by its first characters. A decimal one has no
zero in front, unless it is zero. -/
def natural0? : List Char → Option Nat
  | '0' :: c :: cs =>
    if c = 'x' ∨ c = 'X' then natural? 16 cs
    else if c = 'o' ∨ c = 'O' then natural? 8 cs
    else if c = 'b' ∨ c = 'B' then natural? 2 cs
    else if (c :: cs).all (· == '0') then decimal? ('0' :: c :: cs)
    else none
  | cs => decimal? cs

/-- **A whole number without low lines whose base is told by its first characters.** -/
def based? (cs : List Char) : Option Int :=
  let (negative, cs) := unsigned (trimmed cs)
  (natural0? cs).map (withSign negative)

/-! ## Numbers with a fraction -/

/-- An exponent: an optional sign and digits. -/
def exponent? (cs : List Char) : Option Int :=
  let (negative, cs) := unsigned cs
  (natural? 10 cs).map (withSign negative)

/-- A number without a sign: digits with a point among them or around them, and perhaps an
exponent. -/
def decimalReal? (negative : Bool) (cs : List Char) : Option Binary64 := do
  let before := cs.takeWhile Char.isDigit
  let rest := cs.drop before.length
  let fraction := match rest with
    | '.' :: more => more.takeWhile Char.isDigit
    | _ => []
  let rest := match rest with
    | '.' :: more => more.drop fraction.length
    | _ => rest
  let digits ← natural? 10 (before ++ fraction)
  let power ← match rest with
    | [] => some 0
    | c :: more => if c = 'e' ∨ c = 'E' then exponent? more else none
  return .ofDecimal negative digits (power - fraction.length)

/-- **A number with a fraction, an exponent, both or neither**, or a word for infinity or for no
number. -/
def real? (cs : List Char) : Option Binary64 := do
  let cs ← withoutLines? false (trimmed cs)
  let (negative, cs) := unsigned cs
  let word := String.ofList (cs.map Char.toLower)
  if word = "inf" ∨ word = "infinity" then return .infinite negative
  else if word = "nan" then return .nan
  else decimalReal? negative cs

end UsageGraph.Numeral
