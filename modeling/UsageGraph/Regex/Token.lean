import UsageGraph.Regex.Fault

/-!
# The tokens of a regular expression

A token is one character, or a backslash with the character after it. A backslash at the end of the
text is no token; it is noticed when the token before it is taken.

* `Token`, `Cursor.ofText`: the tokens of a text;
* `Reading`: a computation that takes tokens from the front, or stops with a fault.
-/

namespace UsageGraph.Regex

/-- **A token** and the number of characters before it. -/
structure Token where
  offset : Nat
  escaped : Bool
  char : Char
  deriving DecidableEq, Repr

/-- The characters of a token. -/
def Token.chars (t : Token) : List Char := if t.escaped then ['\\', t.char] else [t.char]

/-- The token as it is written. -/
def Token.text (t : Token) : String := String.ofList t.chars

/-- The token is this character, unescaped. -/
def Token.is (t : Token) (c : Char) : Bool := !t.escaped && t.char == c

/-- **The tokens left**, the length of the whole text, and whether it ends in a lone backslash. -/
structure Cursor where
  tokens : List Token
  stop : Nat
  dangling : Bool
  deriving DecidableEq, Repr

namespace Cursor

/-- The tokens of the characters, and whether a lone backslash is left. -/
def split (offset : Nat) : List Char → List Token × Bool
  | [] => ([], false)
  | '\\' :: c :: cs =>
    let (ts, dangling) := split (offset + 2) cs
    (⟨offset, true, c⟩ :: ts, dangling)
  | c :: cs =>
    if c = '\\' then ([], true)
    else
      let (ts, dangling) := split (offset + 1) cs
      (⟨offset, false, c⟩ :: ts, dangling)

/-- The tokens of a text. -/
def ofText (text : List Char) : Cursor :=
  let (tokens, dangling) := split 0 text
  ⟨tokens, text.length, dangling⟩

/-- The number of characters before the next token. -/
def offset (c : Cursor) : Nat :=
  match c.tokens with
  | t :: _ => t.offset
  | [] => c.stop

end Cursor

/-- Why reading stopped: with a cause and its offset, or at a limit. -/
inductive Halt where
  | fault (cause : Cause) (offset : Option Nat)
  | limit (limit : Limit)
  deriving DecidableEq, Repr

/-- **A computation on the tokens left**, which may stop. -/
abbrev Reading := StateT Cursor (Except Halt)

namespace Reading

/-- Stops with a cause. -/
def fail {α : Type} (cause : Cause) (offset : Nat) : Reading α :=
  throw (.fault cause (some offset))

/-- Stops at a limit. -/
def overLimit {α : Type} (limit : Limit) : Reading α := throw (.limit limit)

/-- The number of characters before the next token. -/
def here : Reading Nat := return (← get).offset

/-- The next token. -/
def peek : Reading (Option Token) := return (← get).tokens.head?

/-- **Takes the next token.** -/
def next : Reading (Option Token) := fun c =>
  match c.tokens with
  | [] => .ok (none, c)
  | t :: ts =>
    if ts.isEmpty && c.dangling then .error (.fault .escapeAtEnd (some (c.stop - 1)))
    else .ok (some t, { c with tokens := ts })

/-- Takes the next token if it is the character. -/
def accept (char : Char) : Reading Bool := do
  match ← peek with
  | some t => if t.is char then do let _ ← next; return true else return false
  | none => return false

/-- Takes up to `n` unescaped characters of a class. -/
def takeUpTo (p : Char → Bool) : Nat → Reading (List Char)
  | 0 => return []
  | n + 1 => do
    match ← peek with
    | some t =>
      if !t.escaped && p t.char then do
        let _ ← next
        return t.char :: (← takeUpTo p n)
      else return []
    | none => return []

/-- Takes the unescaped characters of a class. -/
def takeAll (p : Char → Bool) : Reading (List Char) := do
  takeUpTo p (← get).tokens.length

/-- The characters up to a terminator, which is taken too; `soFar` holds those already read, last
first. -/
def nameUntil (stop : Char) (what : String) : Nat → List Char → Reading String
  | 0, soFar => return String.ofList soFar.reverse
  | n + 1, soFar => do
    match ← next with
    | none =>
      if soFar.isEmpty then fail (.missing what) (← here)
      else fail (.unterminatedName stop) ((← here) - soFar.length)
    | some t =>
      if t.is stop then
        if soFar.isEmpty then fail (.missing what) ((← here) - 1)
        else return String.ofList soFar.reverse
      else nameUntil stop what n (t.chars.reverse ++ soFar)

/-- **The name up to a terminator.** -/
def name (stop : Char) (what : String) : Reading String := do
  nameUntil stop what ((← get).tokens.length + 1) []

end Reading

end UsageGraph.Regex
