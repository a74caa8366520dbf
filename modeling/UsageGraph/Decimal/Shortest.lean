import UsageGraph.Decimal.Binary64

/-!
# The shortest decimal that reads back

Every double is the nearest one to a whole interval of decimals. `Binary64.shortest` takes the
fewest digits that reach into the interval, and of those the decimal nearest to the double; of two
equally near it takes the one whose last digit is even.
-/

namespace UsageGraph

namespace Binary64

/-- The decimals that read back as one double: all between two quotients with the denominator
`den`, the ends counting when `closed`, and the double itself at `mid`. -/
structure Interval where
  low : Nat
  mid : Nat
  high : Nat
  den : Nat
  closed : Bool

/-- The decimals that read back as `m * 2 ^ e`. Below a power of two the doubles lie half as far
apart as above it. -/
def interval (m : Nat) (e : Int) : Interval :=
  let below := if m = Nat.pow 2 52 ∧ -1074 < e then 1 else 2
  if 0 ≤ e then
    let u := Nat.pow 2 e.toNat
    ⟨(4 * m - below) * u, 4 * m * u, (4 * m + 2) * u, 4, m % 2 == 0⟩
  else
    ⟨4 * m - below, 4 * m, 4 * m + 2, 4 * Nat.pow 2 (-e).toNat, m % 2 == 0⟩

/-- The number of decimal digits, none for zero. -/
def digitCount (n : Nat) : Nat := if n = 0 then 0 else (Nat.toDigits 10 n).length

/-- The `p` for which `10 ^ p ≤ num / den < 10 ^ (p + 1)`. -/
def magnitude (num den : Nat) : Int :=
  if den ≤ num then (digitCount (num / den) : Int) - 1
  else -(digitCount ((den + num - 1) / num - 1) : Int)

/-- `d * 10 ^ k` as a quotient over `den`, both sides multiplied by the returned factor. -/
def onGrid (d : Nat) (k : Int) (den : Nat) : Nat × Nat :=
  if 0 ≤ k then (d * Nat.pow 10 k.toNat * den, 1) else (d * den, Nat.pow 10 (-k).toNat)

/-- `d * 10 ^ k` lies in the interval. -/
def Interval.holds (i : Interval) (k : Int) (d : Nat) : Bool :=
  let (n, s) := onGrid d k i.den
  if i.closed then i.low * s ≤ n && n ≤ i.high * s else i.low * s < n && n < i.high * s

/-- How far `d * 10 ^ k` lies from the double, in a unit that depends on `k` alone. -/
def Interval.distance (i : Interval) (k : Int) (d : Nat) : Nat :=
  let (n, s) := onGrid d k i.den
  (n - i.mid * s) + (i.mid * s - n)

/-- The neighbour of the double on the grid of `10 ^ k` that lies in the interval, the nearer one
when both do, and the even one of two equally near. -/
def Interval.pick (i : Interval) (k : Int) : Option Nat :=
  let (n, s) := onGrid 1 k i.den
  let d := i.mid * s / n
  match i.holds k d, i.holds k (d + 1) with
  | true, true =>
    let up := i.distance k (d + 1)
    let down := i.distance k d
    some (if up < down ∨ (up = down ∧ d % 2 = 1) then d + 1 else d)
  | true, false => some d
  | false, true => some (d + 1)
  | false, false => none

/-- The first hit on grids of more and more digits. -/
def Interval.search (i : Interval) (top : Int) : Nat → Nat → Nat × Int
  | 0, _ => (i.mid / i.den, 0)
  | fuel + 1, count =>
    let k := top - count + 1
    match i.pick k with
    | some d => (d, k)
    | none => i.search top fuel (count + 1)

/-- The number without the zeros it ends with, which go to the exponent. -/
def stripZeros : Nat → Nat → Int → Nat × Int
  | 0, d, k => (d, k)
  | fuel + 1, d, k => if d ≠ 0 ∧ d % 10 = 0 then stripZeros fuel (d / 10) (k + 1) else (d, k)

/-- **The digits and the exponent of the shortest decimal that reads back as `m * 2 ^ e`.** Seventeen
digits tell any two doubles apart. -/
def shortest (m : Nat) (e : Int) : Nat × Int :=
  let i := interval m e
  let (d, k) := i.search (magnitude i.mid i.den) 17 1
  stripZeros 20 d k

end Binary64

end UsageGraph
