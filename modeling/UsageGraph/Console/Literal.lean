import UsageGraph.Decimal.Numeral
import UsageGraph.Text.Affix
import UsageGraph.Text.Newline

/-!
# Literal values

A tag can carry a value: numbers, quoted texts, the words `None`, `True` and `False`, three points, and
tuples, sets and dictionaries of values. Sums of a number and an imaginary number are values, too. This
module tells whether characters are such a value; what it is does not matter.

* `Literal.Token`, `Literal.tokens?`: the parts of a text;
* `Literal.Shape`: what matters of a value to what is around it;
* `Literal.isValue`: characters are a value.
-/

namespace UsageGraph.Literal

/-! ## Tokens -/

/-- A part of a text. The end of a line counts where no bracket is open. -/
inductive Token where
  | number (imaginary : Bool)
  | text (bytes : Bool)
  | constant
  | set
  | sign
  | comma
  | colon
  | opening (curly : Bool)
  | closing (curly : Bool)
  | lineEnd
  deriving DecidableEq, Repr

/-- A word may go on with the character. -/
def inWord (c : Char) : Bool := c.isAlphanum || c = '_' || 127 < c.toNat

/-- A hexadecimal digit. -/
def isHex (c : Char) : Bool := c.isDigit || ('a' ≤ c && c ≤ 'f') || ('A' ≤ c && c ≤ 'F')

/-- What follows digits of a kind, each perhaps after a single low line. -/
def afterDigits (isDigit : Char → Bool) : List Char → List Char
  | [] => []
  | c :: cs =>
    if isDigit c then afterDigits isDigit cs
    else if c = '_' then
      match cs with
      | d :: rest => if isDigit d then afterDigits isDigit rest else c :: cs
      | [] => [c]
    else c :: cs

/-- What follows digits of a kind, of which the first stands at the head. -/
def digits? (isDigit : Char → Bool) (cs : List Char) : Option (List Char) :=
  if cs.head?.any isDigit then some (afterDigits isDigit cs) else none

/-- What follows a whole number of another base than ten. -/
def based? : List Char → Option (List Char)
  | '0' :: c :: cs =>
    let isDigit? : Option (Char → Bool) :=
      if c = 'x' ∨ c = 'X' then some isHex
      else if c = 'o' ∨ c = 'O' then some fun d => '0' ≤ d && d ≤ '7'
      else if c = 'b' ∨ c = 'B' then some fun d => d = '0' || d = '1'
      else none
    isDigit?.bind fun isDigit =>
      let rest := afterDigits isDigit cs
      if rest.length < cs.length then some rest else none
  | _ => none

/-- What follows an exponent, if one stands at the head. -/
def afterExponent (cs : List Char) : List Char :=
  match cs with
  | c :: rest =>
    if c = 'e' ∨ c = 'E' then
      let unsigned := match rest with
        | '+' :: more => more
        | '-' :: more => more
        | _ => rest
      (digits? Char.isDigit unsigned).getD cs
    else cs
  | [] => []

/-- The most digits that a whole number in decimal digits may have. -/
def digitLimit : Nat := 4300

/-- The digits may stand for a whole number: they are not too many and do not start with a zero that
says nothing. -/
def isWhole (digits : List Char) : Bool :=
  let digits := digits.filter (· != '_')
  digits.length ≤ digitLimit && (digits.head? != some '0' || digits.all (· == '0'))

/-- A number in decimal digits, and what follows it. -/
def decimal? (cs : List Char) : Option (Token × List Char) :=
  let afterWhole := (digits? Char.isDigit cs).getD cs
  let afterPoint := match afterWhole with
    | '.' :: rest => (digits? Char.isDigit rest).getD rest
    | _ => afterWhole
  let rest := afterExponent afterPoint
  match rest with
  | 'j' :: more | 'J' :: more => some (.number true, more)
  | _ =>
    if rest.length < afterWhole.length || isWhole (cs.take (cs.length - rest.length)) then
      some (.number false, rest)
    else none

/-- A number, and what follows it. No word follows a number at once. -/
def number? (cs : List Char) : Option (Token × List Char) := do
  let (token, rest) ← match based? cs with
    | some rest => some (.number false, rest)
    | none => decimal? cs
  if rest.head?.any inWord then none else some (token, rest)

/-- The number of hexadecimal digits after the letter of an escape. -/
def escapeDigits (bytes : Bool) (c : Char) : Nat :=
  if c = 'x' then 2 else if bytes then 0 else if c = 'u' then 4 else if c = 'U' then 8 else 0

/-- An escape that starts with a letter and goes on with the characters is a right one. -/
def isEscape (bytes : Bool) (c : Char) (cs : List Char) : Bool :=
  let digits := cs.take (escapeDigits bytes c)
  if c = 'N' && !bytes then
    match cs with
    | '\x7b' :: rest =>
      let name := rest.takeWhile fun d => d.isAlphanum || d = ' ' || d = '-'
      !name.isEmpty && (rest.drop name.length).head? == some '\x7d'
    | _ => false
  else
    digits.length = escapeDigits bytes c && digits.all isHex &&
      (c != 'U' || bytes || (Numeral.natural? 16 digits).any (· ≤ 0x10FFFF))

/-- What follows a quoted text, which ends with `quotes`. -/
def afterText? (quotes : List Char) (raw bytes : Bool) : List Char → Option (List Char)
  | [] => none
  | c :: cs =>
    if quotes.isPrefixOf (c :: cs) then some (cs.drop (quotes.length - 1))
    else if bytes && 127 < c.toNat then none
    else if c = '\n' && quotes.length = 1 then none
    else if c = '\\' then
      match cs with
      | [] => none
      | d :: rest =>
        if bytes && 127 < d.toNat then none
        else if raw || isEscape bytes d rest then afterText? quotes raw bytes rest
        else none
    else afterText? quotes raw bytes cs

/-- A quoted text after the letters before its quote, and what follows it. -/
def text? (letters : String) (cs : List Char) : Option (Token × List Char) := do
  let quote ← cs.head?
  let quotes := if (List.replicate 3 quote).isPrefixOf cs then List.replicate 3 quote else [quote]
  let letters := letters.toLower
  let raw := letters.contains 'r'
  let bytes := letters.contains 'b'
  if ["", "r", "u", "b", "br", "rb"].contains letters then
    let rest ← afterText? quotes raw bytes (cs.drop quotes.length)
    some (.text bytes, rest)
  else none

/-- A word, or a quoted text with letters before it, and what follows. -/
def word? (cs : List Char) : Option (Token × List Char) :=
  let word := String.ofList (cs.takeWhile inWord)
  let rest := cs.dropWhile inWord
  if rest.head? = some '\'' ∨ rest.head? = some '"' then text? word rest
  else if ["None", "True", "False"].contains word then some (.constant, rest)
  else if word = "set" then some (.set, rest)
  else none

/-- The token of a single character. -/
def single? (c : Char) : Option Token :=
  match c with
  | '+' | '-' => some .sign
  | ',' => some .comma
  | ':' => some .colon
  | '(' => some (.opening false)
  | '\x7b' => some (.opening true)
  | ')' => some (.closing false)
  | '\x7d' => some (.closing true)
  | _ => none

/-- A token at the head of the characters, and what follows it. -/
def token? : List Char → Option (Token × List Char)
  | [] => none
  | c :: cs =>
    match single? c with
    | some t => some (t, cs)
    | none =>
      if c.isDigit || (c = '.' && cs.head?.any Char.isDigit) then number? (c :: cs)
      else if c = '.' then
        match cs with
        | '.' :: '.' :: rest => some (.constant, rest)
        | _ => none
      else word? (c :: cs)

/-- The most brackets that may be open at once. -/
def depthLimit : Nat := 200

/-- The brackets that are open after a token. -/
def depthAfter (depth : Nat) : Token → Nat
  | .opening _ => depth + 1
  | .closing _ => depth - 1
  | _ => depth

/-- The tokens of the characters, of which `depth` brackets are open. -/
def tokensFrom (depth : Nat) : Nat → List Char → Option (List Token)
  | _, [] => some []
  | 0, _ => none
  | fuel + 1, c :: cs =>
    if c = ' ' ∨ c = '\t' ∨ c = '\x0c' then tokensFrom depth fuel cs
    else if c = '#' then tokensFrom depth fuel (cs.dropWhile (· != '\n'))
    else if c = '\n' then
      if depth = 0 then (tokensFrom depth fuel cs).map (.lineEnd :: ·) else tokensFrom depth fuel cs
    else if c = '\\' ∧ cs.head? = some '\n' then tokensFrom depth fuel cs.tail
    else
      match token? (c :: cs) with
      | none => none
      | some (t, rest) =>
        if depthLimit < depthAfter depth t then none
        else (tokensFrom (depthAfter depth t) fuel rest).map (t :: ·)

/-- **The parts of a text.** -/
def tokens? (cs : List Char) : Option (List Token) :=
  let cs := Text.unixLinesList cs
  tokensFrom 0 cs.length cs

/-! ## Values -/

/-- **What matters of a value to what is around it**: a number may get a sign or be added to, and a
set or a dictionary cannot be an element or a key. -/
inductive Shape where
  | number (imaginary : Bool)
  | signed (imaginary : Bool)
  | other (frozen : Bool)
  deriving DecidableEq, Repr

/-- The value can be an element of a set or a key of a dictionary. -/
def Shape.isFrozen : Shape → Bool
  | .other frozen => frozen
  | _ => true

/-- A value with a sign before it. -/
def Shape.withSign? : Shape → Option Shape
  | .number imaginary => some (.signed imaginary)
  | _ => none

/-- The sum or the difference of two values. -/
def Shape.sum? : Shape → Shape → Option Shape
  | .number false, .number true => some (.other true)
  | .signed false, .number true => some (.other true)
  | _, _ => none

/-- No more values come after a comma. -/
def ends : List Token → Bool
  | [] => true
  | .closing _ :: _ => true
  | .lineEnd :: _ => true
  | _ => false

/-- What follows quoted texts of a kind. -/
def afterTexts (bytes : Bool) : List Token → Option (List Token)
  | .text b :: ts => if b = bytes then afterTexts bytes ts else none
  | ts => some ts

/-- The value that values with commas between them make, and whether there is a comma. -/
def tuple : List Shape → Bool → Shape
  | [s], false => s
  | shapes, _ => .other (shapes.all Shape.isFrozen)

mutual

/-- A value at the head of the tokens without a sign, and what follows it. -/
def operand : Nat → List Token → Option (Shape × List Token)
  | 0, _ => none
  | fuel + 1, ts =>
    match ts with
    | .number imaginary :: rest => some (.number imaginary, rest)
    | .text bytes :: rest => (afterTexts bytes rest).map fun rest => (.other true, rest)
    | .constant :: rest => some (.other true, rest)
    | .set :: .opening false :: .closing false :: rest => some (.other false, rest)
    | .opening false :: .closing false :: rest => some (.other true, rest)
    | .opening true :: .closing true :: rest => some (.other false, rest)
    | .opening false :: rest =>
      match values fuel rest with
      | some (shapes, comma, .closing false :: rest) => some (tuple shapes comma, rest)
      | _ => none
    | .opening true :: rest =>
      match values fuel rest with
      | some (shapes, _, .closing true :: rest) =>
        if shapes.all Shape.isFrozen then some (.other false, rest) else none
      | some ([key], false, .colon :: _) =>
        if key.isFrozen then (entries fuel rest).map fun rest => (.other false, rest) else none
      | _ => none
    | _ => none

/-- A value at the head of the tokens, and what follows it. -/
def sum : Nat → List Token → Option (Shape × List Token)
  | 0, _ => none
  | fuel + 1, ts => do
    let (left, ts) ← match ts with
      | .sign :: rest => do
        let (s, rest) ← operand fuel rest
        pure (← s.withSign?, rest)
      | _ => operand fuel ts
    match ts with
    | .sign :: rest => do
      let (right, rest) ← operand fuel rest
      pure (← left.sum? right, rest)
    | _ => some (left, ts)

/-- Values with commas between them, whether there is a comma, and what follows them. -/
def values : Nat → List Token → Option (List Shape × Bool × List Token)
  | 0, _ => none
  | fuel + 1, ts =>
    match sum fuel ts with
    | some (s, .comma :: rest) =>
      if ends rest then some ([s], true, rest)
      else (values fuel rest).map fun (shapes, _, rest) => (s :: shapes, true, rest)
    | some (s, rest) => some ([s], false, rest)
    | none => none

/-- What follows the entries of a dictionary and its closing bracket. -/
def entries : Nat → List Token → Option (List Token)
  | 0, _ => none
  | fuel + 1, ts =>
    match sum fuel ts with
    | some (key, .colon :: rest) =>
      match sum fuel rest with
      | some (_, .closing true :: rest) => if key.isFrozen then some rest else none
      | some (_, .comma :: .closing true :: rest) => if key.isFrozen then some rest else none
      | some (_, .comma :: rest) => if key.isFrozen then entries fuel rest else none
      | _ => none
    | _ => none

end

/-- **The characters are a value**, perhaps values with commas between them. -/
def isValue (cs : List Char) : Bool :=
  match tokens? (cs.dropWhile fun c => c = ' ' || c = '\t') with
  | none => false
  | some ts =>
    match values (4 * ts.length + 4) (ts.dropWhile (· = .lineEnd)) with
    | some (_, _, rest) => rest.all (· = .lineEnd)
    | none => false

end UsageGraph.Literal
