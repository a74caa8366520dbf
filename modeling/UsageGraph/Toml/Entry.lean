import UsageGraph.Toml.Arrays
import UsageGraph.Toml.Number
import UsageGraph.Toml.Quoted

/-!
# Keys with values

* `splitEntry`, `keyLevels`: a line as a key and a value, and a key as a way into a table;
* `readEntry`: a table with the key and the value of a line;
* `readValue`, `addInline`: a value, and a table with the members of an inline table.
-/

namespace UsageGraph.Toml

/-! ## Keys -/

/-- What stands after an equals sign can be a value. A number, a date or a time of day without white space
before it is checked here. -/
def isSettled (text : List Char) : Reading Bool :=
  match text with
  | [] => return true
  | c :: _ =>
    let word := String.ofList (trim text)
    if c = ' ' || c = '\t' || isQuote c || c = '[' || c = '\x7b' then return true
    else if word = "true" || word = "false" || (Numeral.real? text).isSome then return true
    else return (← isDate text) || (time? text).isSome

/-- The key and the value around the first equals sign from number `rank` on after which a value can
stand. `last` is what was found after the one before. -/
def splitFrom (line : List Char) : Nat → Nat → List Char → Reading (List Char × List Char)
  | 0, _, _ => invalid .badNumber
  | fuel + 1, rank, last => do
    if ← isSettled last then
      return (trim (['='].intercalate (cut ['='] rank line).dropLast), trim last)
    else
      let next := ((cut ['='] (rank + 1) line).getLast?).getD []
      if next = last then invalid .badNumber else splitFrom line fuel (rank + 1) next

/-- **The key and the value of a line.** Low lines in a number count for nothing. -/
def splitEntry (line : List Char) : Reading (List Char × List Char) :=
  let rank := rank ['='] line
  let last := ((cut ['='] rank line).getLast?).getD []
  let last := if last.head?.any Char.isDigit then last.filter (· != '_') else last
  splitFrom line (line.length + 2) rank last

/-- The parts of a key with points that holds quotes. -/
def quotedLevels : Bool → List (List Char) → List (List Char)
  | _, [] => []
  | quoted, p :: ps => (if quoted then [p] else (p.splitOn '.').map trim) ++ quotedLevels (!quoted) ps

/-- **The tables that a key leads through, and the key in the last of them.** -/
def keyLevels (key : List Char) : Reading (List String × String) := do
  if key.contains '.' then
    let levels := if key.any isQuote then quotedLevels false (quoteParts key) else key.splitOn '.'
    let levels := Text.dropEndWhile List.isEmpty levels
    let last ← present levels.getLast?
    return ((levels.dropLast.filter (!·.isEmpty)).map String.ofList, String.ofList (trim last))
  else
    let first ← present key.head?
    if isQuote first && key.getLast? = some first then
      return ([], String.ofList (← unescape (inner key)))
    else return ([], String.ofList key)

/-- The value changed in the table that keys lead to. Tables on the way are made. -/
def changeBelow {α : Type} (change : Value → Reading (Value × α)) :
    List String → Value → Reading (Value × α)
  | [], v => change v
  | k :: ks, .table members => do
    let (v, a) ← changeBelow change ks ((members.lookup k).getD (.table []))
    return (.table (Members.set k v members), a)
  | _ :: _, _ => broken .noTable

/-! ## Strings over several lines -/

/-- **A value that goes on after its line**: its key, the text so far, and whether the next line goes on
without a line end. -/
structure Pending where
  key : String
  text : List Char
  joined : Bool
  deriving DecidableEq, Repr

/-- The value that goes on after a text. -/
def Pending.ofText (key : String) (text : List Char) : Pending :=
  if endsEscaped text then ⟨key, text.dropLast, true⟩ else ⟨key, text ++ ['\n'], false⟩

/-- The last item of an array of strings. The pieces between its commas are given last first. -/
def lastItem : List (List Char) → Reading (List Char)
  | [] => broken .noPlace
  | [p] => return p
  | p :: q :: rest => do
    if isQuote (← present p.head?) then return p else lastItem ((q ++ ',' :: p) :: rest)
termination_by pieces => pieces.length

/-- The text has these three characters at its end. -/
def endsThrice (c : Char) (text : List Char) : Bool := (text.reverse.take 3) == [c, c, c]

/-- The part of a value that may be a long string: the last item of an array of strings that is open, else
the whole of it. -/
def longPart (value : List Char) : Reading (List Char) :=
  if value.head? = some '[' && value.getLast? != some ']' && hasStrings value then
    lastItem ((trim (value.drop 1)).splitOn ',').reverse
  else return value

/-- **The value starts a long string** that does not end on its line. -/
def opensLong (value : List Char) : Reading Bool := do
  if value.length < 3 then return false
  else
    match ← longPart value with
    | [] => broken .noPlace
    | a :: rest =>
      if !isQuote a then return false
      else if (← present rest.head?) ≠ a then return false
      else if (← present rest[1]?) ≠ a then return false
      else return !(4 < rest.length && endsThrice a (a :: rest))

/-! ## Entries -/

/-- The table with a member that it does not have yet. -/
def addMember (key : String) (value : Value) : Value → Reading Value
  | .table members =>
    if Members.has members key then invalid .keyTwice else return .table (Members.set key value members)
  | _ => invalid .keyTwice

/-- **The table with the key and the value of a line**, or the value that goes on after the line. `read`
reads values. -/
def readEntry (read : List Char → Reading Value) (line : List Char) (table : Value) :
    Reading (Value × Option Pending) := do
  let (key, value) ← splitEntry line
  let (levels, key) ← keyLevels key
  changeBelow (fun t => do
    if ← opensLong value then
      let _ ← addMember key (.bool true) t
      if key = "" then broken .noValue else return (t, some (.ofText key value))
    else return (← addMember key (← read value) t, none)) levels table

/-! ## Inline tables -/

/-- The text can be a value of an inline table, as its first and its last character tell. -/
def looksWhole (first : Char) (text : List Char) : Bool :=
  let last := text.getLast?
  (isQuote first && last = some first) || first = '-' || first.isDigit ||
    text = "true".toList || text = "false".toList ||
    (first = '[' && last = some ']') || (first = '\x7b' && last = some '\x7d')

/-- The pieces between commas put together to keys with values. -/
def joinEntries : List (List Char) → Reading (List (List Char))
  | [] => return []
  | p :: rest => do
    if !p.contains '=' then invalid .badInlineTable
    else
      let value := trim ((p.dropWhile (· != '=')).drop 1)
      if looksWhole (← present value.head?) value then return p :: (← joinEntries rest)
      else
        match rest with
        | [] => invalid .badInlineTable
        | q :: rest => joinEntries ((p ++ ',' :: q) :: rest)
termination_by pieces => pieces.length

/-- The table with keys and values, up to the first value that would go on after its line. -/
def addEntries (read : List Char → Reading Value) : List (List Char) → Value → Reading Value
  | [], table => return table
  | line :: rest, table => do
    match ← readEntry read line table with
    | (table, some _) => return table
    | (table, none) => addEntries read rest table

/-- **The table with the members of an inline table.** -/
def addInline (read : List Char → Reading Value) (text : List Char) (table : Value) :
    Reading Value := do
  let pieces := (inner text).splitOn ','
  let blank := pieces.length = 1 && pieces.all fun p => (trim p).isEmpty
  addEntries read (← joinEntries (if blank then [] else pieces)) table

/-! ## Values -/

/-- The items that texts are, all of one type. Empty texts are no items. -/
def readItems (read : List Char → Reading Value) : Option Kind → List (List Char) →
    Reading (List Value)
  | _, [] => return []
  | kind, t :: rest => do
    let text := trim t
    if text.isEmpty then readItems read kind rest
    else
      let v ← read text
      if kind.any (· != v.kind) then invalid .mixedArray
      else return v :: (← readItems read (some v.kind) rest)

/-- A value that is no string, array or table. -/
def readScalar (text : List Char) : Reading Value := do
  match ← timeOf text with
  | some v => return v
  | none => if ← isDate text then return .date (String.ofList text) else number text

/-- The value of a text when `room` is left for what lies in it. An array takes two of it and an inline
table three. -/
def valueIn : Nat → List Char → Reading Value
  | _, [] => invalid .emptyValue
  | room + 3, c :: cs =>
    let text := c :: cs
    let word := String.ofList (text.map Char.toLower)
    if word = "true" || word = "false" then
      if text = word.toList then return .bool (word = "true") else invalid .badBoolean
    else if isQuote c then do return .str (← quoted c text)
    else if c = '[' then do return .arr (← readItems (valueIn (room + 1)) none (← itemTexts text))
    else if c = '\x7b' then addInline (valueIn room) text (.table [])
    else readScalar text
  | _, _ => broken .tooDeep

/-- The room that there is for arrays and inline tables in one another. -/
def nestingRoom : Nat := 980

/-- **The value of a text.** -/
def readValue (text : List Char) : Reading Value := valueIn nestingRoom text

end UsageGraph.Toml
