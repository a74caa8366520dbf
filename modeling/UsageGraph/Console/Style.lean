import UsageGraph.Console.ColorTable
import UsageGraph.Decimal.Numeral

/-!
# Styles

A style is described in words: attributes such as `bold`, a colour, `on` and a colour behind the text,
`link` and an address. Descriptions of the same style have one name in common.

* `Attribute`, `Style`: what a description can say;
* `Color.name`: the colour that a word means;
* `Style.read`: the style that a text describes;
* `Style.name`: the name of a style.
-/

namespace UsageGraph

/-! ## Attributes -/

/-- An attribute of a style. -/
inductive Attribute where
  | bold | dim | italic | underline | blink | fastBlink | reverse | conceal | strike
  | doubleUnderline | frame | encircle | overline
  deriving DecidableEq, Repr

namespace Attribute

/-- The attributes in the order in which a name lists them. -/
def all : List Attribute :=
  [bold, dim, italic, underline, blink, fastBlink, reverse, conceal, strike, doubleUnderline,
   frame, encircle, overline]

theorem mem_all (a : Attribute) : a ∈ all := by cases a <;> decide

/-- The name of an attribute. -/
def name : Attribute → String
  | bold => "bold"
  | dim => "dim"
  | italic => "italic"
  | underline => "underline"
  | blink => "blink"
  | fastBlink => "blink2"
  | reverse => "reverse"
  | conceal => "conceal"
  | strike => "strike"
  | doubleUnderline => "underline2"
  | frame => "frame"
  | encircle => "encircle"
  | overline => "overline"

/-- The short name of an attribute. -/
def short? : Attribute → Option String
  | bold => some "b"
  | dim => some "d"
  | italic => some "i"
  | underline => some "u"
  | reverse => some "r"
  | conceal => some "c"
  | strike => some "s"
  | doubleUnderline => some "uu"
  | overline => some "o"
  | _ => none

/-- The attribute that a word means. -/
def ofWord? (word : String) : Option Attribute :=
  all.find? fun a => a.name = word || a.short? = some word

end Attribute

/-- Why a text describes no style: a word means nothing, or a part of a colour that must be a number is
none. -/
inductive StyleFault where
  | word (word : String)
  | number (color : String)
  deriving DecidableEq, Repr

/-! ## Colours -/

namespace Color

/-- The names of colours. -/
def names : List String := "default" :: Text.words Console.namedColors

/-- What stands between a start and a closing bracket at the end. -/
def inside? (start word : String) : Option String := do
  Text.before? ")" (← Text.after? start word)

/-- A colour in hexadecimal digits. -/
def isHex (word : String) : Bool :=
  (Text.after? "#" word).any fun digits =>
    digits.length = 6 && digits.toList.all fun c => c.isDigit || ('a' ≤ c && c ≤ 'f')

/-- A colour by its number. -/
def isNumbered (word : String) : Bool :=
  (inside? "color(" word).any fun digits =>
    digits.length ≤ 3 && digits.toList.all Char.isDigit && digits.toNat?.any (· ≤ 255)

/-- Three parts of a colour, each at most 255, when nothing but digits and commas stands between the
brackets. -/
def isMixed (word : String) : Except StyleFault Bool :=
  match inside? "rgb(" word with
  | none => .ok false
  | some parts =>
    if parts.isEmpty || parts.toList.any fun c => !Text.isDigit c && c != ',' then .ok false
    else
      match Text.pieces ',' parts with
      | [red, green, blue] =>
        match [red, green, blue].mapM fun p => Numeral.whole? p.toList with
        | some numbers => .ok (numbers.all (· ≤ 255))
        | none => .error (.number word)
      | _ => .ok false

/-- **The name of the colour that a word means.** -/
def name (word : String) : Except StyleFault String := do
  let word := Text.lower word
  if names.contains word || isHex word || isNumbered word || (← isMixed word) then return word
  else throw (.word word)

end Color

/-! ## Styles -/

/-- **A style**: attributes that are set or unset, the colours of the text and of what is behind it, and
an address. -/
structure Style where
  attributes : List (Attribute × Bool) := []
  color? : Option String := none
  background? : Option String := none
  link? : Option String := none
  deriving DecidableEq, Repr

namespace Style

/-- A style with what words say of it. What is said last counts. -/
def withWords (s : Style) : List String → Except StyleFault Style
  | [] => .ok s
  | word :: rest =>
    let key := Text.lower word
    if key = "on" then
      match rest with
      | [] => .error (.word word)
      | color :: rest => do withWords { s with background? := some (← Color.name color) } rest
    else if key = "not" then
      match rest with
      | [] => .error (.word word)
      | negated :: rest =>
        match Attribute.ofWord? negated with
        | some a => withWords { s with attributes := (a, false) :: s.attributes } rest
        | none => .error (.word negated)
    else if key = "link" then
      match rest with
      | [] => .error (.word word)
      | address :: rest => withWords { s with link? := some address } rest
    else
      match Attribute.ofWord? key with
      | some a => withWords { s with attributes := (a, true) :: s.attributes } rest
      | none => do withWords { s with color? := some (← Color.name word) } rest

/-- **The style that a text describes.** -/
def read (text : String) : Except StyleFault Style :=
  if Text.trimBlank text = "none" then .ok {} else withWords {} (Text.words text)

/-- **The name of a style**, itself a description of it. -/
def name (s : Style) : String :=
  let attributes := Attribute.all.filterMap fun a =>
    (s.attributes.lookup a).map fun set => if set then a.name else "not " ++ a.name
  let parts := attributes ++ s.color?.toList ++ (s.background?.map ("on " ++ ·)).toList ++
    (s.link?.map ("link " ++ ·)).toList
  if parts.isEmpty then "none" else Text.joined " " parts

/-- **The one name for all descriptions of a style.** A text that describes none is known by its lower
case. -/
def canonical (text : String) : Except StyleFault String :=
  match read text with
  | .ok s => .ok s.name
  | .error (.word _) => .ok (Text.lower (Text.trimBlank text))
  | .error (.number color) => .error (.number color)

end Style

end UsageGraph
