import UsageGraph.Text.Class

/-!
# Quoted text

A text between quotes, with what would not show written as an escape. The quote is the apostrophe,
or the double quote when the text holds an apostrophe and no double quote.
-/

namespace UsageGraph.Text

/-- The apostrophe. -/
def apostrophe : Char := Char.ofNat 39

/-- The last `width` hexadecimal digits of `n`, in lower case. -/
def hexDigits : Nat → Nat → List Char
  | 0, _ => []
  | width + 1, n => hexDigits width (n / 16) ++ [Nat.digitChar (n % 16)]

/-- How one character is written between quotes of the kind `quote`. -/
def quotedChar (quote c : Char) : List Char :=
  if c = quote ∨ c = '\\' then ['\\', c]
  else if c = '\n' then ['\\', 'n']
  else if c = '\r' then ['\\', 'r']
  else if c = '\t' then ['\\', 't']
  else if prints c then [c]
  else if c.toNat < 256 then '\\' :: 'x' :: hexDigits 2 c.toNat
  else if c.toNat < 65536 then '\\' :: 'u' :: hexDigits 4 c.toNat
  else '\\' :: 'U' :: hexDigits 8 c.toNat

/-- The quote that a text is put between. -/
def quoteFor (s : List Char) : Char :=
  if s.contains apostrophe && !s.contains '"' then '"' else apostrophe

/-- **The quoted form of a text.** -/
def quoted (s : String) : String :=
  let q := quoteFor s.toList
  String.ofList (q :: (s.toList.flatMap (quotedChar q) ++ [q]))

end UsageGraph.Text
