import UsageGraph.Toml.Entry
import UsageGraph.Toml.Lines

/-!
# Reading TOML

The lines of a text are read one after the other: a line gives a key with a value, or the head of the
table that the keys after it belong to. Other lines count for nothing.

* `headNames`: the names in the head of a table;
* `Document`: what is known after a line, with `Document.enterHead` and `Document.line`;
* `parse`: the members of the table that a text stands for, or the fault of the text.
-/

namespace UsageGraph.Toml

/-! ## Heads of tables -/

/-- A character of a name without quotes. -/
def isNameChar (c : Char) : Bool := c.isAlphanum || c = '_' || c = '-'

/-- The pieces of a name in quotes, starting with `text`, are put together up to the one that closes it;
`most` is how many may be taken. -/
def closeName (text : List Char) : Nat → List (List Char) → Reading (List Char × List (List Char))
  | most, pieces =>
    let whole := trim text
    if 1 < whole.length && whole.head? == whole.getLast? then return (inner whole, pieces)
    else
      match most, pieces with
      | 0, _ | _, [] => invalid (.badHeadName (String.ofList text))
      | most + 1, p :: pieces => closeName (text ++ '.' :: p) most pieces

/-- The names that pieces between points make. -/
def namesOf : Nat → List (List Char) → Reading (List String)
  | 0, _ | _, [] => return []
  | fuel + 1, p :: pieces => do
    let name := trim p
    if name.head?.any isQuote then
      let (name, pieces) ← closeName name pieces.length pieces
      return String.ofList name :: (← namesOf fuel pieces)
    else if name.isEmpty || !name.all isNameChar then invalid (.badHeadName (String.ofList name))
    else return String.ofList name :: (← namesOf fuel pieces)

/-- **The names in the head of a table**, of which the opening brackets have been taken. -/
def headNames (closing line : List Char) : Reading (List String) := do
  let rank := rank closing line
  let pieces := cut closing rank line
  let (front, rest) := splitLast pieces
  if pieces.length < rank + 1 || !(trim rest).isEmpty then invalid .headWithMore
  else
    let pieces := (closing.intercalate front).splitOn '.'
    namesOf pieces.length pieces

/-! ## Documents -/

/-- **What is known after a line**: the table of the whole text, the way to the table that keys belong to,
the names of tables that are there by their parts only, and the value that goes on, if one does. -/
structure Document where
  root : Value := .table []
  here : List Step := []
  implied : List String := []
  pending : Option Pending := none
  deriving Repr

namespace Document

/-- The value that the steps of a document lead to. -/
def current (d : Document) : Reading Value := present (d.root.walk? d.here)

/-- The document with the current value changed. -/
def change {α : Type} (d : Document) (f : Value → Reading (Value × α)) :
    Reading (Document × α) := do
  let (root, a) ← d.root.changeAt f d.here
  return ({ d with root := root }, a)

/-- The document one step further in. -/
def stepIn (d : Document) (s : Step) : Document := { d with here := d.here ++ [s] }

/-- The value of a table that a head makes. -/
def freshTable (isArray : Bool) : Value := if isArray then .arr [.table []] else .table []

/-- The document with the last name of a head entered, which is there already. -/
def reenter (d : Document) (isArray : Bool) (name : String) : Reading Document := do
  if d.implied.contains name then
    if isArray then invalid .impliedArray else return { d with implied := d.implied.erase name }
  else if isArray then
    let (d, _) ← d.change fun v => match v.enter? (.member name) with
      | some (.arr items) => return (v.putAt (.member name) (.arr (items ++ [.table []])), ())
      | _ => broken .noTable
    return d
  else invalid (.headTwice name)

/-- The document with a member made, if it is not there yet. -/
def make (d : Document) (name : String) (value : Value) : Reading Document := do
  let (d, _) ← d.change fun v => match v with
    | .table members =>
      if Members.has members name then return (v, ())
      else return (.table (Members.set name value members), ())
    | _ => broken .noTable
  return d

/-- The step to the last item of what is not a table, if there is one. -/
def enterLast (v : Value) : Reading (Option Step) :=
  match v with
  | .table _ => return none
  | .arr [] => broken .noPlace
  | .arr _ => return some .last
  | .str s => if s = "" then broken .noPlace else return none
  | _ => broken .noTable

/-- The document with one name of a head entered. A name in an array belongs to the last table of
it. -/
def enterName (d : Document) (isArray isLast : Bool) (name : String) : Reading Document := do
  let d ← match ← d.current with
    | .table members =>
      if Members.has members name then
        if isLast then d.reenter isArray name else pure d
      else
        let d := if isLast then d else { d with implied := d.implied ++ [name] }
        d.make name (freshTable (isArray && isLast))
    | v => do
      match ← enterLast v with
      | none => broken .noTable
      | some s => (d.stepIn s).make name (freshTable (isArray && isLast))
  let d := d.stepIn (.member name)
  if isArray then
    match ← enterLast (← d.current) with
    | none => return d
    | some s => return d.stepIn s
  else return d

/-- The document with the names of a head entered. -/
def enterNames (isArray : Bool) : List String → Document → Reading Document
  | [], d => return d
  | name :: rest, d => do
    if name = "" then invalid .emptyHeadName
    else enterNames isArray rest (← d.enterName isArray rest.isEmpty name)

/-- **The document after the head of a table.** -/
def enterHead (d : Document) (line : List Char) : Reading Document := do
  match line with
  | '[' :: '[' :: rest => enterNames true (← headNames [']', ']'] rest) { d with here := [] }
  | '[' :: c :: rest => enterNames false (← headNames [']'] (c :: rest)) { d with here := [] }
  | _ => invalid .loneBracket

/-- The document after one more line of a value. -/
def extend (d : Document) (p : Pending) (line : List Char) : Reading Document := do
  let text := p.text ++ line
  let first ← present text.head?
  let closed ←
    if first = '[' then do pure ((← present line.getLast?) == ']')
    else pure (2 < line.length && endsThrice first line)
  if closed then
    let value ← readValue text
    let (d, _) ← d.change fun v => match v with
      | .table members => return (.table (Members.set p.key value members), ())
      | _ => broken .noTable
    return { d with pending := none }
  else return { d with pending := some (.ofText p.key text) }

/-- The document after a line that starts no head and goes on with no value. -/
def addLine (d : Document) (line : List Char) : Reading Document := do
  if line.head? = some '\x7b' then
    if line.getLast? != some '\x7d' then invalid .openInlineTable
    else
      let (d, _) ← d.change fun v => do return (← addInline readValue line v, ())
      return d
  else if line.contains '=' then
    let (d, pending) ← d.change (readEntry readValue line)
    return { d with pending := pending }
  else return d

/-- **The document after one more line.** -/
def line (d : Document) (raw : List Char) : Reading Document :=
  match d.pending with
  | none =>
    match trim raw with
    | [] => return d
    | '[' :: rest => d.enterHead ('[' :: rest)
    | line => d.addLine line
  | some p =>
    let line := if p.joined || !p.text.contains '\n' then trim raw else raw
    if line.isEmpty && p.joined then return d else d.extend p line

end Document

/-- **The members of the table that a text stands for**, or the fault of the text. -/
def parse (text : String) : Reading Members := do
  let d ← (← lines text).foldlM Document.line {}
  match d.root with
  | .table members => return members
  | _ => return []

end UsageGraph.Toml
