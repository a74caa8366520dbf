import UsageGraph.Text.Affix

/-!
# The words of a command line

A word that starts with a minus gives options: one with two minuses gives the option of that name, one
with a single minus an option for each of its letters. An option may take a value: what stands after
its name in the word, else the next word, whatever that is.

* `OptionSpec`: an option and its names;
* `scanWords`: the options and the other words of a command line.
-/

namespace UsageGraph.CommandLine

/-- **Why a command line cannot be used.** -/
inductive UsageFault where
  | unknownOption (name : String)
  | missingValue (name : String)
  | unexpectedValue (name : String)
  | extraWord (word : String)
  | unknownCommand (name : String)
  | missingCommand
  | unknownFormat (name : String)
  | severalModes
  | noDirectory (path : String)
  | noPath (word : String)
  deriving DecidableEq, Repr

/-- An option: the names that it goes by, the first of which stands for it, and whether it takes a
value. -/
structure OptionSpec where
  names : List String
  takesValue : Bool
  deriving DecidableEq, Repr

/-- The first name of an option. -/
def OptionSpec.name (o : OptionSpec) : String := o.names.headD ""

/-- An option as given, with its value if it takes one. -/
structure Given where
  name : String
  value : Option String
  deriving DecidableEq, Repr

/-- The options and the other words of a command line. -/
structure Scanned where
  options : List Given
  words : List String
  deriving DecidableEq, Repr

/-- The option of a name. -/
def option? (specs : List OptionSpec) (name : String) : Option OptionSpec :=
  specs.find? fun o => o.names.contains name

/-- What a word gives: options, and the name of one that waits for its value in the next word. -/
abbrev WordResult := Except UsageFault (List Given × Option String)

/-- What a word with two minuses gives. A value may follow an equals sign. -/
def longWord (specs : List OptionSpec) (word : String) : WordResult :=
  let name := String.ofList (word.toList.takeWhile (· != '='))
  let value := (word.toList.drop (name.length + 1))
  let hasValue := word.toList.contains '='
  match option? specs name with
  | none => .error (.unknownOption name)
  | some o =>
    if o.takesValue then
      if hasValue then .ok ([⟨o.name, some (String.ofList value)⟩], none)
      else .ok ([], some o.name)
    else if hasValue then .error (.unexpectedValue name)
    else .ok ([⟨o.name, none⟩], none)

/-- What the letters of a word with one minus give. -/
def letters (specs : List OptionSpec) : List Char → WordResult
  | [] => .ok ([], none)
  | c :: cs =>
    let name := String.ofList ['-', c]
    match option? specs name with
    | none => .error (.unknownOption name)
    | some o =>
      if o.takesValue then
        if cs.isEmpty then .ok ([], some o.name)
        else .ok ([⟨o.name, some (String.ofList cs)⟩], none)
      else
        match letters specs cs with
        | .ok (given, waiting) => .ok (⟨o.name, none⟩ :: given, waiting)
        | .error e => .error e

/-- What a word that starts with a minus gives. -/
def optionWord (specs : List OptionSpec) (word : String) : WordResult :=
  if Text.startsWith "--" word then longWord specs word else letters specs (word.toList.drop 1)

/-- The word gives options: it starts with a minus and goes on. -/
def isOptionWord (word : String) : Bool := Text.startsWith "-" word && word != "-"

/-- The scanned words with options put before them. -/
def Scanned.after (given : List Given) (s : Scanned) : Scanned :=
  { s with options := given ++ s.options }

/-- **The options and the other words.** Two minuses alone end the options. Unless options may stand
anywhere, the first other word ends them too. -/
def scanWords (specs : List OptionSpec) (anywhere : Bool) :
    List String → Except UsageFault Scanned
  | [] => .ok ⟨[], []⟩
  | w :: ws =>
    if w = "--" then .ok ⟨[], ws⟩
    else if isOptionWord w then
      match optionWord specs w with
      | .error e => .error e
      | .ok (given, none) => (scanWords specs anywhere ws).map (Scanned.after given)
      | .ok (given, some name) =>
        match ws with
        | [] => .error (.missingValue name)
        | v :: rest =>
          (scanWords specs anywhere rest).map (Scanned.after (given ++ [⟨name, some v⟩]))
    else if anywhere then
      (scanWords specs anywhere ws).map fun s => { s with words := w :: s.words }
    else .ok ⟨[], w :: ws⟩

/-- The option was given. -/
def Scanned.has (s : Scanned) (name : String) : Bool := s.options.any (·.name == name)

/-- The value that an option was given last. -/
def Scanned.value? (s : Scanned) (name : String) : Option String :=
  ((s.options.filter (·.name == name)).getLast?).bind Given.value

end UsageGraph.CommandLine
