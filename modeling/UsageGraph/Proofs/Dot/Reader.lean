import Mathlib.Data.List.Basic

/-!
# Reading DOT

A reader for directed graphs in the DOT language, made from the rules of the language and not from a
writer of it. Names stand as words or between double quotes, where a backslash takes away the meaning of
a double quote and of a backslash; every other character between quotes stands for itself, line feeds
among them.

* `Dot.Token`, `Dot.Place`, `Dot.step?`, `Dot.scan?`: the tokens of a text, character by character;
* `Dot.Statement`, `Dot.statement?`, `Dot.read?`: the statements of a graph;
* `Dot.scan?_append`: texts are scanned piece by piece;
* **`Dot.document?_tokens`**: statements are read from their tokens.
-/

namespace UsageGraph.Dot

/-! ## Tokens -/

/-- **A token.** -/
inductive Token where
  | openBrace
  | closeBrace
  | openBracket
  | closeBracket
  | semicolon
  | comma
  | equals
  | arrow
  | name (text : String)
  deriving DecidableEq, Repr

/-- **Where in a token a character stands**: between tokens, in a word, behind a dash, between double
quotes, or there behind a backslash. Characters of a name are held last first. -/
inductive Place where
  | between
  | word (taken : List Char)
  | dash
  | quoted (taken : List Char)
  | escaped (taken : List Char)
  deriving DecidableEq, Repr

/-- The token of a character that is one by itself. -/
def mark? : Char → Option Token
  | '\x7b' => some .openBrace
  | '\x7d' => some .closeBrace
  | '[' => some .openBracket
  | ']' => some .closeBracket
  | ';' => some .semicolon
  | ',' => some .comma
  | '=' => some .equals
  | _ => none

/-- The character can be part of a word. -/
def isWordChar (c : Char) : Bool := c.isAlphanum || c == '_'

/-- The name whose characters were taken. -/
def nameOf (taken : List Char) : Token := .name (String.ofList taken.reverse)

/-- What a character between tokens begins or is. -/
def start? (c : Char) : Option (Place × List Token) :=
  if c.isWhitespace then some (.between, [])
  else if c = '"' then some (.quoted [], [])
  else if c = '-' then some (.dash, [])
  else if isWordChar c then some (.word [c], [])
  else (mark? c).map fun t => (.between, [t])

/-- **The place after a character**, and the tokens that it completes. -/
def step? : Place → Char → Option (Place × List Token)
  | .between, c => start? c
  | .word taken, c =>
    if isWordChar c then some (.word (c :: taken), [])
    else (start? c).map fun r => (r.1, nameOf taken :: r.2)
  | .dash, c => if c = '>' then some (.between, [.arrow]) else none
  | .quoted taken, c =>
    if c = '"' then some (.between, [nameOf taken])
    else if c = '\\' then some (.escaped taken, [])
    else some (.quoted (c :: taken), [])
  | .escaped taken, c =>
    if c = '"' ∨ c = '\\' then some (.quoted (c :: taken), [])
    else some (.quoted (c :: '\\' :: taken), [])

/-- The place after some characters, and the tokens that they complete. -/
def scan? : Place → List Char → Option (Place × List Token)
  | place, [] => some (place, [])
  | place, c :: cs => (step? place c).bind fun r => (scan? r.1 cs).map fun s => (s.1, r.2 ++ s.2)

/-- The tokens of a text, when it does not end in the middle of one. -/
def tokens? (text : String) : Option (List Token) :=
  match scan? .between text.toList with
  | some (.between, ts) => some ts
  | some (.word taken, ts) => some (ts ++ [nameOf taken])
  | _ => none

/-! ## Statements -/

/-- **A statement**: a setting of the graph, a node or an edge, with their attributes. -/
inductive Statement where
  | setting (key value : String)
  | node (name : String) (attributes : List (String × String))
  | edge (tail head : String) (attributes : List (String × String))
  deriving DecidableEq, Repr

/-- The attributes up to the bracket that closes them. -/
def attributes? : List Token → Option (List (String × String))
  | [.closeBracket] => some []
  | [.name key, .equals, .name value, .closeBracket] => some [(key, value)]
  | .name key :: .equals :: .name value :: .comma :: rest =>
    (attributes? rest).map ((key, value) :: ·)
  | _ => none

/-- The statement that the tokens are. -/
def statement? : List Token → Option Statement
  | [.name key, .equals, .name value] => some (.setting key value)
  | .name name :: .openBracket :: rest => (attributes? rest).map (.node name)
  | .name tail :: .arrow :: .name head :: .openBracket :: rest =>
    (attributes? rest).map (.edge tail head)
  | _ => none

/-- The statements of a graph: the pieces that semicolons end, up to the closing brace. -/
def document? : List Token → Option (List Statement)
  | .name kind :: .name _ :: .openBrace :: body =>
    let pieces := body.splitOn .semicolon
    if kind = "digraph" ∧ pieces.getLast? = some [.closeBrace] then
      pieces.dropLast.mapM statement?
    else none
  | _ => none

/-- **The statements of a graph in DOT**, if the text is one. -/
def read? (text : String) : Option (List Statement) := (tokens? text).bind document?

/-! ## Scanning piece by piece -/

/-- **Texts are scanned piece by piece.** -/
theorem scan?_append (place : Place) (cs ds : List Char) : scan? place (cs ++ ds) =
    (scan? place cs).bind fun r => (scan? r.1 ds).map fun s => (s.1, r.2 ++ s.2) := by
  induction cs generalizing place with
  | nil => simp [scan?]
  | cons c cs ih =>
    rw [List.cons_append, scan?, scan?]
    cases step? place c with
    | none => rfl
    | some r =>
      rw [Option.bind_some, Option.bind_some, ih]
      cases scan? r.1 cs with
      | none => rfl
      | some s => simp [Function.comp_def]

/-- The characters, which start and end between tokens, are those of the tokens. -/
def Spells (cs : List Char) (ts : List Token) : Prop := scan? .between cs = some (.between, ts)

theorem Spells.append {cs ds : List Char} {ts us : List Token} (hcs : Spells cs ts)
    (hds : Spells ds us) : Spells (cs ++ ds) (ts ++ us) := by
  rw [Spells] at *
  rw [scan?_append, hcs, Option.bind_some, hds]
  rfl

/-! ## Statements from their tokens -/

/-- The tokens of attributes, with the bracket that closes them. -/
def attributeTokens : List (String × String) → List Token
  | [] => [.closeBracket]
  | [(key, value)] => [.name key, .equals, .name value, .closeBracket]
  | (key, value) :: rest => .name key :: .equals :: .name value :: .comma :: attributeTokens rest

/-- The tokens of a statement. -/
def Statement.tokens : Statement → List Token
  | .setting key value => [.name key, .equals, .name value]
  | .node name attributes => .name name :: .openBracket :: attributeTokens attributes
  | .edge tail head attributes =>
    .name tail :: .arrow :: .name head :: .openBracket :: attributeTokens attributes

theorem attributes?_tokens (attributes : List (String × String)) :
    attributes? (attributeTokens attributes) = some attributes := by
  induction attributes using attributeTokens.induct with
  | case1 => rfl
  | case2 => rfl
  | case3 key value rest hrest ih =>
    obtain ⟨e, rest, rfl⟩ := List.exists_cons_of_ne_nil (l := rest) (fun h => hrest h)
    rw [attributeTokens, attributes?, ih, Option.map_some]
    all_goals simp

theorem statement?_tokens (s : Statement) : statement? s.tokens = some s := by
  cases s with
  | setting key value => rfl
  | node name attributes => simp [Statement.tokens, statement?, attributes?_tokens]
  | edge tail head attributes => simp [Statement.tokens, statement?, attributes?_tokens]

theorem semicolon_not_mem_attributeTokens (attributes : List (String × String)) :
    Token.semicolon ∉ attributeTokens attributes := by
  induction attributes using attributeTokens.induct with
  | case1 => simp [attributeTokens]
  | case2 => simp [attributeTokens]
  | case3 key value rest hrest ih => simp [attributeTokens, ih]

theorem semicolon_not_mem_tokens (s : Statement) : Token.semicolon ∉ s.tokens := by
  cases s <;> simp [Statement.tokens, semicolon_not_mem_attributeTokens]

theorem splitOn_tokens (ss : List Statement) :
    (ss.flatMap (fun s : Statement => s.tokens ++ [Token.semicolon]) ++ [Token.closeBrace]).splitOn
      Token.semicolon = ss.map Statement.tokens ++ [[Token.closeBrace]] := by
  induction ss with
  | nil => rfl
  | cons s ss ih =>
    rw [List.flatMap_cons, List.append_assoc, List.append_assoc, List.singleton_append,
      List.splitOn_append_cons_self_of_not_mem (semicolon_not_mem_tokens s), ih]
    rfl

/-- **Statements are read from their tokens.** -/
theorem document?_tokens (name : String) (ss : List Statement) :
    document? (.name "digraph" :: .name name :: .openBrace ::
      (ss.flatMap (fun s : Statement => s.tokens ++ [Token.semicolon]) ++ [Token.closeBrace])) =
        some ss := by
  have hall : (ss.map Statement.tokens).mapM statement? = some ss := by
    induction ss with
    | nil => rfl
    | cons s ss ih => rw [List.map_cons, List.mapM_cons, statement?_tokens, ih]; rfl
  rw [document?, splitOn_tokens, List.getLast?_concat, List.dropLast_concat]
  exact (if_pos ⟨rfl, rfl⟩).trans hall

end UsageGraph.Dot
