import UsageGraph.Json.Basic
import UsageGraph.Json.Fault

/-!
# The tokens of a JSON text

`Json.tokens` cuts a text into its tokens, each with the number of characters before it. White space
between tokens is dropped. A string that cannot be read is a token that carries its fault, and a whole
number with too many digits is a token of its own; whether that matters is for the reader to say. The
list ends with the first string that cannot be read.
-/

namespace UsageGraph.Json

/-- **A token.** -/
inductive Token where
  | openBrace
  | closeBrace
  | openBracket
  | closeBracket
  | colon
  | comma
  | scalar (value : Json)
  | tooLong
  | text (value : String)
  | badText (cause : Cause) (offset : Nat)
  | stray
  deriving DecidableEq, Repr

/-- A token and the number of characters before it. -/
structure Placed where
  offset : Nat
  token : Token
  deriving DecidableEq, Repr

/-! ## Strings -/

/-- The value of four hexadecimal digits. -/
def hexValue? (digits : List Char) : Option Nat :=
  digits.foldl (fun acc c => do
    let n ← acc
    if c.isDigit then some (16 * n + (c.toNat - 48))
    else if 'a' ≤ c ∧ c ≤ 'f' then some (16 * n + (c.toNat - 87))
    else if 'A' ≤ c ∧ c ≤ 'F' then some (16 * n + (c.toNat - 55))
    else none) (some 0)

/-- The second half of a surrogate pair, when the text goes on with an escape and is long enough to
be looked at. The number counts the characters before the escape. -/
def lowHalf? (offset : Nat) (cs : List Char) : Except (Cause × Nat) (Option Nat) :=
  match cs with
  | '\\' :: 'u' :: a :: b :: c :: d :: _ :: _ =>
    match hexValue? [a, b, c, d] with
    | none => .error (.badUnicodeEscape, offset + 1)
    | some n => .ok (if 0xDC00 ≤ n ∧ n ≤ 0xDFFF then some n else none)
  | _ => .ok none

/-- The character that an escape stands for and the number of characters after the backslash that
belong to the escape. `offset` counts the characters before the backslash. Half of a surrogate pair
alone is no character and reads as the replacement character. -/
def unescape (start offset : Nat) (cs : List Char) : Except (Cause × Nat) (Char × Nat) :=
  match cs with
  | [] => .error (.unterminatedString, start)
  | '"' :: _ => .ok ('"', 1)
  | '\\' :: _ => .ok ('\\', 1)
  | '/' :: _ => .ok ('/', 1)
  | 'b' :: _ => .ok ('\x08', 1)
  | 'f' :: _ => .ok ('\x0c', 1)
  | 'n' :: _ => .ok ('\n', 1)
  | 'r' :: _ => .ok ('\r', 1)
  | 't' :: _ => .ok ('\t', 1)
  | 'u' :: a :: b :: c :: d :: rest =>
    match rest, hexValue? [a, b, c, d] with
    | _ :: _, some n =>
      if 0xD800 ≤ n ∧ n ≤ 0xDBFF then
        match lowHalf? (offset + 6) rest with
        | .error e => .error e
        | .ok (some low) => .ok (Char.ofNat (0x10000 + (n - 0xD800) * 1024 + (low - 0xDC00)), 11)
        | .ok none => .ok (Char.ofNat 0xFFFD, 5)
      else if 0xDC00 ≤ n ∧ n ≤ 0xDFFF then .ok (Char.ofNat 0xFFFD, 5)
      else .ok (Char.ofNat n, 5)
    | _, _ => .error (.badUnicodeEscape, offset + 1)
  | 'u' :: _ => .error (.badUnicodeEscape, offset + 1)
  | _ => .error (.badEscape, offset)

/-- The characters of a string up to its closing quote, with the number of characters read, the
quote among them. The first `skip` characters belong to an escape already taken. -/
def scanText (start offset : Nat) (skip : Nat) :
    List Char → Except (Cause × Nat) (List Char × Nat)
  | [] => .error (.unterminatedString, start)
  | c :: cs =>
    match skip with
    | n + 1 => (scanText start (offset + 1) n cs).map fun r => (r.1, r.2 + 1)
    | 0 =>
      if c = '"' then .ok ([], 1)
      else if c = '\\' then
        match unescape start offset cs with
        | .error e => .error e
        | .ok (d, n) => (scanText start (offset + 1) n cs).map fun r => (d :: r.1, r.2 + 1)
      else if c.toNat < 32 then .error (.controlCharacter, offset)
      else (scanText start (offset + 1) 0 cs).map fun r => (c :: r.1, r.2 + 1)

/-! ## Numbers -/

/-- The value of decimal digits. -/
def digitsValue (digits : List Char) : Nat :=
  digits.foldl (fun n c => 10 * n + (c.toNat - 48)) 0

/-- The digits at the head of the characters after a point; none when no digit follows it. -/
def fraction : List Char → List Char
  | '.' :: cs => cs.takeWhile Char.isDigit
  | _ => []

/-- The exponent at the head of the characters: its value and its length. -/
def exponent : List Char → Option (Int × Nat)
  | e :: cs =>
    if e = 'e' ∨ e = 'E' then
      let (sign, rest) : Int × List Char :=
        match cs with
        | '-' :: ds => (-1, ds)
        | '+' :: ds => (1, ds)
        | ds => (1, ds)
      let digits := rest.takeWhile Char.isDigit
      if digits.isEmpty then none
      else some (sign * digitsValue digits, 1 + (cs.length - rest.length) + digits.length)
    else none
  | [] => none

/-- The most digits that a whole number may have. -/
def digitLimit : Nat := 4300

/-- An unsigned number at the head of the characters, and its length. A number with a fraction or an
exponent is a double. -/
def unsigned (negative : Bool) (cs : List Char) : Option (Token × Nat) :=
  let whole := match cs with
    | '0' :: _ => ['0']
    | ds => ds.takeWhile Char.isDigit
  if whole.isEmpty then none
  else
    let rest := cs.drop whole.length
    let frac := fraction rest
    let fracLength := if frac.isEmpty then 0 else frac.length + 1
    match frac, exponent (rest.drop fracLength) with
    | [], none =>
      let n : Int := digitsValue whole
      let token : Token :=
        if digitLimit < whole.length then .tooLong
        else .scalar (.int (if negative then -n else n))
      some (token, whole.length)
    | _, exp =>
      let (power, expLength) := exp.getD (0, 0)
      some (.scalar (.real (Binary64.ofDecimal negative (digitsValue (whole ++ frac))
        (power - frac.length))), whole.length + fracLength + expLength)

/-! ## All tokens -/

/-- The scalars that are written as words. -/
def words : List (List Char × Json) :=
  [("null".toList, .null), ("true".toList, .bool true), ("false".toList, .bool false),
   ("NaN".toList, .real .nan), ("Infinity".toList, .real (.infinite false)),
   ("-Infinity".toList, .real (.infinite true))]

/-- The scalar at the head of the characters, strings apart, and its length. -/
def scalar? (cs : List Char) : Option (Token × Nat) :=
  match words.find? (·.1.isPrefixOf cs) with
  | some (word, value) => some (.scalar value, word.length)
  | none =>
    match cs with
    | '-' :: ds => (unsigned true ds).map fun r => (r.1, r.2 + 1)
    | ds => unsigned false ds

/-- The token of a character that is one by itself. -/
def punctuation? : Char → Option Token
  | '\x7b' => some .openBrace
  | '\x7d' => some .closeBrace
  | '[' => some .openBracket
  | ']' => some .closeBracket
  | ':' => some .colon
  | ',' => some .comma
  | _ => none

/-- White space between tokens. -/
def isSpace (c : Char) : Bool := c = ' ' || c = '\t' || c = '\n' || c = '\r'

/-- The tokens of the characters, of which the first `skip` belong to a token already taken. -/
def tokensFrom (offset skip : Nat) : List Char → List Placed
  | [] => []
  | c :: cs =>
    match skip with
    | n + 1 => tokensFrom (offset + 1) n cs
    | 0 =>
      if isSpace c then tokensFrom (offset + 1) 0 cs
      else
        match punctuation? c with
        | some t => ⟨offset, t⟩ :: tokensFrom (offset + 1) 0 cs
        | none =>
          if c = '"' then
            match scanText offset (offset + 1) 0 cs with
            | .error (cause, place) => [⟨offset, .badText cause place⟩]
            | .ok (s, n) => ⟨offset, .text (String.ofList s)⟩ :: tokensFrom (offset + 1) n cs
          else
            match scalar? (c :: cs) with
            | some (t, n) => ⟨offset, t⟩ :: tokensFrom (offset + 1) (n - 1) cs
            | none => [⟨offset, .stray⟩]

/-- **The tokens of a text.** -/
def tokens (text : List Char) : List Placed := tokensFrom 0 0 text

end UsageGraph.Json
