import UsageGraph.Console.Literal
import UsageGraph.Console.Pictograph
import UsageGraph.Console.Style

/-!
# Console markup

Console text holds tags between brackets that set a style, such as `[bold]` and `[/bold]`. A backslash
before a tag makes it plain text. On a console without styles the tags leave nothing behind. Plain text
may hold codes of pictographs.

* `Markup.escape`: a text in which nothing is a tag;
* `Markup.segments`: the plain texts and the tags of a markup;
* `Markup.Tag`: what is known of an open tag;
* `Markup.plain`: what a console without styles shows.
-/

namespace UsageGraph.Markup

/-! ## Tags -/

/-- The content of a tag and what follows its closing bracket, when the characters after an opening
bracket make a tag. A tag starts with a small letter or one of three signs and holds no opening
bracket. -/
def tagRest? : List Char → Option (List Char × List Char)
  | [] => none
  | c :: cs =>
    if ('a' ≤ c ∧ c ≤ 'z') ∨ c = '#' ∨ c = '/' ∨ c = '@' then
      let content := cs.takeWhile fun d => d != '[' && d != ']'
      match cs.drop content.length with
      | ']' :: rest => some (c :: content, rest)
      | _ => none
    else none

/-- A tag at the head of the characters: its content and what follows it. -/
def tag? : List Char → Option (List Char × List Char)
  | '[' :: cs => tagRest? cs
  | _ => none

/-- The number of backslashes at the head. -/
def slashes (cs : List Char) : Nat := (cs.takeWhile (· == '\\')).length

/-- The backslashes before a tag at the head of the characters, with the content of the tag. -/
def escapedTag? (cs : List Char) : Option (Nat × List Char) :=
  (tag? (cs.drop (slashes cs))).map fun t => (slashes cs, t.1)

/-! ## Escaping -/

/-- The characters with every tag escaped, of which the first `skip` belong to a tag already
escaped. -/
def escapeTags (skip : Nat) : List Char → List Char
  | [] => []
  | c :: cs =>
    match skip with
    | n + 1 => c :: escapeTags n cs
    | 0 =>
      match escapedTag? (c :: cs) with
      | some (n, content) =>
        List.replicate (n + 1) '\\' ++ c :: escapeTags (n + content.length + 1) cs
      | none => c :: escapeTags 0 cs

/-- **A text in which nothing is a tag.** A single backslash at the end is doubled. -/
def escape (s : String) : String :=
  let cs := escapeTags 0 s.toList
  String.ofList (if ['\\'].isSuffixOf cs && !(['\\', '\\'].isSuffixOf cs) then cs ++ ['\\'] else cs)

/-! ## Reading markup -/

/-- A part of a markup. -/
inductive Segment where
  | text (s : List Char)
  | tag (content : List Char)
  deriving DecidableEq, Repr

/-- The text read so far, last character first, as a segment. -/
def flush (soFar : List Char) : List Segment :=
  if soFar.isEmpty then [] else [.text soFar.reverse]

/-- The segments of the characters, of which the first `skip` belong to a tag already read. -/
def segmentsFrom (skip : Nat) (soFar : List Char) : List Char → List Segment
  | [] => flush soFar
  | c :: cs =>
    match skip with
    | n + 1 => segmentsFrom n soFar cs
    | 0 =>
      match escapedTag? (c :: cs) with
      | some (n, content) =>
        let literal := List.replicate (n / 2) '\\'
        let last : Segment :=
          if n % 2 = 1 then .text ('[' :: content ++ [']']) else .tag content
        flush soFar ++ flush literal ++ last :: segmentsFrom (n + content.length + 1) [] cs
      | none => segmentsFrom 0 (c :: soFar) cs

/-- **The parts of a markup.** -/
def segments (s : String) : List Segment := segmentsFrom 0 [] s.toList

/-- A text without the backslashes before its brackets. -/
def bracketsOf : List Char → List Char
  | '\\' :: '[' :: cs => '[' :: bracketsOf cs
  | c :: cs => c :: bracketsOf cs
  | [] => []

/-- A text as it shows: a backslash before a bracket is left out, and pictographs take the place of
their codes. -/
def shown (cs : List Char) : List Char := Pictograph.replace (bracketsOf cs)

/-! ## Open tags -/

/-- Why a markup cannot be shown: a closing tag without its opening tag, a value that cannot be read, or
a colour with a part that is no number. -/
inductive Fault where
  | unopened (name : String)
  | value (text : String)
  | color (word : String)
  deriving DecidableEq, Repr

/-- A fault in words. -/
def Fault.message : Fault → String
  | .unopened name => "closing tag " ++ name ++ " without its opening tag"
  | .value text => "the value " ++ text ++ " of a tag cannot be read"
  | .color word => "a part of the colour " ++ word ++ " is no number"

/-- A tag that opens a style, or carries a value for a handler. -/
structure Tag where
  name : String
  value? : Option String := none
  deriving DecidableEq, Repr

namespace Tag

/-- The name and the value in the content of a tag. -/
def ofContent (content : List Char) : Tag :=
  match content.dropWhile (· != '=') with
  | [] => ⟨String.ofList content, none⟩
  | _ :: value => ⟨String.ofList (content.takeWhile (· != '=')), some (String.ofList value)⟩

/-- The name that tags of the same style have in common. -/
def canonicalName (name : String) : Except Fault String :=
  match Style.canonical name with
  | .ok name => .ok name
  | .error (.number color) => .error (.color color)
  | .error (.word word) => .ok word

/-- The tag under its common name. -/
def canonical (t : Tag) : Except Fault Tag :=
  (canonicalName t.name).map fun name => { t with name := name }

/-- The name of a closing tag. -/
def closed? (t : Tag) : Option String := (Text.after? "/" t.name).map Text.trimBlank

/-- The part of a value that is read: what stands in brackets after a name, or the whole. -/
def valuePart (value : List Char) : List Char :=
  match value.dropWhile fun c => Text.isWord c || c = '.' with
  | [] => "()".toList
  | '(' :: rest =>
    if rest.getLast? = some ')' && !rest.contains '\n' then '(' :: rest else value
  | _ => value

/-- The value of a handler can be read. -/
def checkValue (t : Tag) : Except Fault Unit :=
  match t.value? with
  | none => .ok ()
  | some value =>
    if !Text.startsWith "@" t.name || value.isEmpty ||
        Literal.isValue (valuePart (Text.trimBlank value).toList)
    then .ok ()
    else .error (.value value)

/-- The style that the tag gives to its text has no broken colour. -/
def checkStyle (t : Tag) : Except Fault Unit :=
  match Style.read (Text.joined " " (t.name :: t.value?.toList)) with
  | .error (.number color) => .error (.color color)
  | _ => .ok ()

end Tag

/-- The open tags, innermost first, without the one that a closing tag of a name closes. -/
def close (tags : List Tag) (name : String) : Except Fault (List Tag) := do
  let name ← if name.isEmpty then pure "" else Tag.canonicalName name
  match tags.find? fun t => name.isEmpty || t.name = name with
  | none => throw (.unopened name)
  | some t =>
    t.checkValue
    return tags.erase t

/-- What the segments show when tags are open, innermost first. -/
def plainFrom (tags : List Tag) : List Segment → Except Fault (List Char)
  | [] => .ok []
  | .text s :: rest => do return shown s ++ (← plainFrom tags rest)
  | .tag content :: rest =>
    let tag := Tag.ofContent content
    match tag.closed? with
    | some name => do plainFrom (← close tags name) rest
    | none => do
      let tag ← tag.canonical
      let text ← plainFrom (tag :: tags) rest
      tag.checkStyle
      return text

/-- **What a console without styles shows.** -/
def plain (s : String) : Except Fault String := (plainFrom [] (segments s)).map String.ofList

end UsageGraph.Markup
