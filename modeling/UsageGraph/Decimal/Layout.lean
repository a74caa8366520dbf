import UsageGraph.Decimal.Shortest

/-!
# The text of a double

The shortest decimal that reads back, written out with a point when its first digit stands for a
power of ten from `-4` to `15`, and with an exponent of at least two digits otherwise.
-/

namespace UsageGraph

namespace Binary64

/-- `n` zeros. -/
def zeros (n : Nat) : List Char := List.replicate n '0'

/-- The digits with the point behind the first `point` of them, filled up with zeros. -/
def positional (digits : List Char) (point : Int) : List Char :=
  if point ≤ 0 then '0' :: '.' :: (zeros (-point).toNat ++ digits)
  else if digits.length ≤ point.toNat then
    digits ++ zeros (point.toNat - digits.length) ++ ['.', '0']
  else digits.take point.toNat ++ '.' :: digits.drop point.toNat

/-- The exponent with its sign and at least two digits. -/
def exponentText (n : Int) : List Char :=
  let digits := Nat.toDigits 10 n.natAbs
  (if n < 0 then '-' else '+') :: (zeros (2 - digits.length) ++ digits)

/-- The digits with the point behind the first and the power of ten that the first stands for. -/
def scientific (digits : List Char) (power : Int) : List Char :=
  (match digits with
    | d :: e :: rest => d :: '.' :: e :: rest
    | short => short) ++ 'e' :: exponentText power

/-- **The text of a double.** -/
def text : Binary64 → String
  | .nan => "NaN"
  | .infinite negative => if negative then "-Infinity" else "Infinity"
  | .finite negative m e =>
    let sign := if negative then ['-'] else []
    if m = 0 then String.ofList (sign ++ ['0', '.', '0'])
    else
      let (d, k) := shortest m e
      let digits := Nat.toDigits 10 d
      let power := k + digits.length - 1
      String.ofList (sign ++
        if -4 ≤ power ∧ power < 16 then positional digits (power + 1)
        else scientific digits power)

end Binary64

end UsageGraph
