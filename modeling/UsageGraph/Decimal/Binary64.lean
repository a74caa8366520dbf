/-!
# Double-precision numbers

A double is an integer times a power of two, an infinity or not a number. All arithmetic on it is
on natural numbers, so its laws do not rest on the machine.

* `Binary64`: the numbers, each finite one in lowest form;
* `Binary64.ofDecimal`: the double nearest to a decimal number, the even one of two equally near.
-/

namespace UsageGraph

/-- **A double-precision number.** A finite one is `mantissa * 2 ^ exponent`, with a mantissa below
`2 ^ 53` that is at least `2 ^ 52` unless the exponent is the least one, `-1074`. -/
inductive Binary64 where
  | finite (negative : Bool) (mantissa : Nat) (exponent : Int)
  | infinite (negative : Bool)
  | nan
  deriving DecidableEq, Repr

namespace Binary64

/-- Zero, of either sign. -/
def zero (negative : Bool) : Binary64 := .finite negative 0 (-1074)

/-- Positive and negative zero. -/
def isZero : Binary64 → Bool
  | .finite _ m _ => m == 0
  | _ => false

/-! ## Rounding a quotient -/

/-- `num / den * 2 ^ (-e)` as a quotient of natural numbers. -/
def scaled (num den : Nat) (e : Int) : Nat × Nat :=
  if 0 ≤ e then (num, den * Nat.pow 2 e.toNat) else (num * Nat.pow 2 (-e).toNat, den)

/-- The natural number nearest to `num / den`, the even one of two equally near. -/
def roundEven (num den : Nat) : Nat :=
  let q := num / den
  let r := num % den
  if 2 * r < den then q
  else if den < 2 * r then q + 1
  else if q % 2 = 0 then q else q + 1

/-- The exponent that gives `num / den` a mantissa of 53 bits, but not below `-1074`. -/
def exponentOf (num den : Nat) : Int :=
  let e : Int := (Nat.log2 num : Int) - Nat.log2 den - 52
  let (n, d) := scaled num den e
  max (if n < Nat.pow 2 52 * d then e - 1 else e) (-1074)

/-- **The double nearest to `num / den`.** -/
def ofQuotient (negative : Bool) (num den : Nat) : Binary64 :=
  if num = 0 then zero negative
  else
    let e := exponentOf num den
    let (n, d) := scaled num den e
    let m := roundEven n d
    let (m, e) := if m = Nat.pow 2 53 then (Nat.pow 2 52, e + 1) else (m, e)
    if 971 < e then .infinite negative else .finite negative m e

/-- **The double nearest to `digits * 10 ^ exponent`.** Far above the largest double and far below
the least one the answer needs no powers of ten. -/
def ofDecimal (negative : Bool) (digits : Nat) (exponent : Int) : Binary64 :=
  let magnitude := exponent + ((Nat.toDigits 10 digits).length : Int)
  if digits = 0 then zero negative
  else if 400 < magnitude then .infinite negative
  else if magnitude < -400 then zero negative
  else if 0 ≤ exponent then ofQuotient negative (digits * Nat.pow 10 exponent.toNat) 1
  else ofQuotient negative digits (Nat.pow 10 (-exponent).toNat)

end Binary64

end UsageGraph
