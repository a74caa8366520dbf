import UsageGraph.Decimal.Numeral
import UsageGraph.Regex.Class

/-!
# Reading regular expressions

The reader goes through the tokens once. Its state holds the groups that are open, each with the
alternatives that are finished and the items of the one being read.

* `Item`, `Level`, `ReaderState`: the state;
* `Reading.step`: the step for one token and what belongs to it;
* `Regex.parse`: the expression that a text stands for, or its fault.
-/

namespace UsageGraph.Regex

/-- Whether an item can be repeated. -/
inductive Standing where
  | plain
  | anchor
  | repeated
  deriving DecidableEq, Repr

/-- One item of an alternative. -/
structure Item where
  regex : Regex
  standing : Standing := .plain
  deriving DecidableEq, Repr

/-- What an open parenthesis opened. -/
inductive Bracket where
  | capture (number : Nat)
  | plain
  | atomic
  | ahead (negated : Bool)
  | behind (negated : Bool) (enclosing : Option Nat)
  | ifGroup (number : Nat)
  deriving DecidableEq, Repr

/-- **A part of the expression that is being read**: the whole of it or an open group. Finished
alternatives and items are held last first. -/
structure Level where
  bracket : Bracket
  start : Nat
  flags : Flags
  branches : List Regex
  items : List Item
  deriving DecidableEq, Repr

/-- **The state of the reader**: the level being read, those around it, and what is known of the
groups. `behindFrom` is the number of groups opened before the outermost open lookbehind, `asked`
holds the numbers of groups that conditions ask for, last first, with the offsets of the first
questions, and `kinds` the letters among the flags for the whole expression that say what a letter
is. -/
structure ReaderState where
  level : Level
  outer : List Level
  opened : Nat
  widths : List (Nat × Nat × Nat)
  names : List (String × Nat)
  behindFrom : Option Nat
  asked : List (Nat × Nat)
  kinds : List Char
  deriving DecidableEq, Repr

namespace ReaderState

/-- The state before the first token. -/
def initial : ReaderState := ⟨⟨.plain, 0, {}, [], []⟩, [], 0, [], [], none, [], []⟩

/-- The state with one more item. -/
def push (s : ReaderState) (regex : Regex) (standing : Standing := .plain) : ReaderState :=
  { s with level := { s.level with items := ⟨regex, standing⟩ :: s.level.items } }

/-- The state with a group opened. -/
def enter (s : ReaderState) (bracket : Bracket) (start : Nat) (flags : Flags) : ReaderState :=
  { s with level := ⟨bracket, start, flags, [], []⟩, outer := s.level :: s.outer }

end ReaderState

/-- The expression that the items of an alternative make. -/
def Level.branch (l : Level) : Regex := sequence (l.items.reverse.map Item.regex)

/-- The expression that a level makes. -/
def Level.body (l : Level) : Regex := choice (l.branch :: l.branches).reverse

/-- The level with the current alternative finished. -/
def Level.alternative (l : Level) : Level := { l with branches := l.branch :: l.branches, items := [] }

/-- The level is the second part of a condition. -/
def Level.isSecondPart (l : Level) : Bool :=
  match l.bracket with
  | .ifGroup _ => !l.branches.isEmpty
  | _ => false

namespace Reading

/-! ## Groups that are referred to -/

/-- The group is closed. -/
def isClosed (s : ReaderState) (number : Nat) : Bool := (s.widths.lookup number).isSome

/-- Within a lookbehind only groups closed before it can be referred to. -/
def checkBehind (s : ReaderState) (number : Nat) : Reading Unit := do
  match s.behindFrom with
  | some n =>
    if !isClosed s number then fail .openGroup (← here)
    else if n < number then fail .groupOfSameLookbehind (← here)
    else return ()
  | none => return ()

/-- The reference to a group by its number, `length` characters of it having been read. -/
def reference (s : ReaderState) (number length : Nat) : Reading ReaderState := do
  if !isClosed s number then fail .openGroup ((← here) - length)
  else
    checkBehind s number
    return s.push (.recall number s.level.flags.case)

/-- What a backslash with a digit other than zero stands for: an octal number of three digits, or a
group by its number of at most two. -/
def digitEscape (s : ReaderState) (c : Char) : Reading ReaderState := do
  let second ← takeUpTo Char.isDigit 1
  let third ←
    if (c :: second).all isOctal && second.length = 1 then takeUpTo isOctal 1 else pure []
  let digits := c :: (second ++ third)
  if third.length = 1 then
    match ← octalEscape digits with
    | .code n => return s.push (s.level.flags.one n)
    | .kind _ _ => return s
  else
    let number := digitsIn 10 digits
    if number ≤ s.opened then reference s number (digits.length + 1)
    else failBefore (.invalidReference number) digits

/-- The state with what an escape stands for. -/
def escape (s : ReaderState) (c : Char) : Reading ReaderState := do
  let flags := s.level.flags
  let done (e : Escape) : ReaderState :=
    match e with
    | .code n => s.push (flags.one n)
    | .kind k negated => s.push (.set ⟨false, [.kind k flags.ascii negated], flags.case⟩)
  match c, classOf? c, controlOf? c, codeEscape? c with
  | 'A', _, _, _ => return s.push (.anchor .textStart) .anchor
  | 'Z', _, _, _ => return s.push (.anchor .textEnd) .anchor
  | 'b', _, _, _ => return s.push (.anchor (.boundary flags.ascii false)) .anchor
  | 'B', _, _, _ => return s.push (.anchor (.boundary flags.ascii true)) .anchor
  | _, some k, _, _ => return done k
  | _, _, some n, _ => return done (.code n)
  | _, _, _, some read => return done (← read)
  | '0', _, _, _ => do return done (← octalEscape ('0' :: (← takeUpTo isOctal 2)))
  | _, _, _, _ =>
    if c.isDigit then digitEscape s c else return done (← plainEscape c)

/-! ## Repetitions -/

/-- The count from which on repetitions are not counted. -/
def countLimit : Nat := Nat.pow 2 32 - 1

/-- The count that digits stand for, unless there are none. -/
def count? (digits : List Char) : Reading (Option Nat) :=
  if digits.isEmpty then return none
  else if Numeral.digitLimit < digits.length then overLimit .digits
  else
    let n := digitsIn 10 digits
    if countLimit ≤ n then overLimit .count else return some n

/-- The bounds between braces, when what follows the opening brace has that form. The brace has just
been taken; of other text nothing is taken. -/
def braces : Reading (Option (Nat × Option Nat)) := do
  let start ← get
  match ← peek with
  | some t =>
    if t.is '\x7d' then return none
    else
      let low ← takeAll Char.isDigit
      let high ← if ← accept ',' then takeAll Char.isDigit else pure low
      if !(← accept '\x7d') then do StateT.set start; return none
      else
        let least := (← count? low).getD 0
        let most ← count? high
        if most.any fun m => m < least then fail .minAboveMax start.offset
        else return some (least, most)
  | none => return none

/-- How a repetition chooses, by the sign after it. -/
def greed : Reading Greed := do
  match ← peek with
  | some t =>
    if t.is '?' then do let _ ← next; return .lazy
    else if t.is '+' then do let _ ← next; return .possessive
    else return .greedy
  | none => return .greedy

/-- The state with the last item repeated. `sign` is the offset of the sign for it. -/
def repetition (s : ReaderState) (sign : Nat) (low : Nat) (high : Option Nat) :
    Reading ReaderState := do
  match s.level.items with
  | [] => fail .nothingToRepeat sign
  | item :: items =>
    match item.standing with
    | .anchor => fail .nothingToRepeat sign
    | .repeated => fail .multipleRepeat sign
    | .plain =>
      let regex : Regex := .repeated item.regex low high (← greed)
      return { s with level := { s.level with items := ⟨regex, .repeated⟩ :: items } }

/-! ## Flags -/

/-- The letters of flags. -/
def isFlag (c : Char) : Bool := "iLmsxatu".toList.contains c

/-- The flags with one of them switched. -/
def switch (on : Bool) (c : Char) (f : Flags) : Flags :=
  match c with
  | 'i' => { f with ignoreCase := on }
  | 'm' => { f with multiline := on }
  | 's' => { f with dotAll := on }
  | 'x' => { f with verbose := on }
  | 'a' => { f with ascii := on }
  | 'u' => { f with ascii := !on }
  | _ => f

/-- The flags with letters switched. -/
def switchAll (on : Bool) (letters : List Char) (f : Flags) : Flags :=
  letters.foldl (fun f c => switch on c f) f

/-- The letters are of two kinds of text. -/
def mixesKinds (letters : List Char) : Bool := letters.contains 'a' && letters.contains 'u'

/-- Stops at a token that is no flag. -/
def notFlag {α : Type} (what : String) (t : Token) : Reading α :=
  failBefore (if !t.escaped && Text.isLetter t.char then .unknownFlag else .missing what) t.chars

/-- The letters of flags up to one of the characters that may follow them, which is taken too.
`letter` is the one already taken, `soFar` the letters before it. -/
def flagsOn : Nat → Char → List Char → Reading (List Char × Char)
  | 0, letter, soFar => return (soFar, letter)
  | fuel + 1, letter, soFar => do
    if letter = 'L' then fail .localeFlag (← here)
    else
      let letters := soFar ++ [letter]
      if mixesKinds letters then fail .incompatibleFlags (← here)
      else
        match ← next with
        | none => fail (.missing "-, : or )") (← here)
        | some t =>
          if t.is ')' || t.is '-' || t.is ':' then return (letters, t.char)
          else if !t.escaped && isFlag t.char then flagsOn fuel t.char letters
          else notFlag "-, : or )" t

/-- The letters of flags to switch off, up to the colon. -/
def flagsOff : Nat → Char → List Char → Reading (List Char)
  | 0, _, soFar => return soFar
  | fuel + 1, letter, soFar => do
    if letter = 'L' || letter = 'a' || letter = 'u' then fail .typeFlagOff (← here)
    else
      match ← next with
      | none => fail (.missing ":") (← here)
      | some t =>
        if t.is ':' then return soFar ++ [letter]
        else if !t.escaped && isFlag t.char then flagsOff fuel t.char (soFar ++ [letter])
        else notFlag ":" t

/-- The letters of flags to switch off after a minus. -/
def minusFlags (fuel : Nat) : Reading (List Char) := do
  match ← next with
  | none => fail (.missing "flag") (← here)
  | some t =>
    if !t.escaped && isFlag t.char then flagsOff fuel t.char []
    else notFlag "flag" t

/-- A group that starts with flags: for the whole expression when it ends at once, for its own
content otherwise. -/
def flagGroup (s : ReaderState) (start : Nat) (first : Char) : Reading ReaderState := do
  let fuel := (← get).tokens.length + 1
  let (on, stop) ← if first = '-' then pure ([], '-') else flagsOn fuel first []
  if stop = ')' then
    if s.outer.isEmpty && s.level.branches.isEmpty && s.level.items.isEmpty then
      return { s with
        level := { s.level with flags := switchAll true on s.level.flags }
        kinds := s.kinds ++ on.filter fun c => c = 'a' || c = 'u' }
    else fail .flagsNotFirst start
  else if on.contains 't' then fail .globalFlagOn ((← here) - 1)
  else
    let off ← if stop = '-' then minusFlags fuel else pure []
    if off.contains 't' then fail .globalFlagOff ((← here) - 1)
    else if on.any off.contains then fail .flagOnAndOff ((← here) - 1)
    else return s.enter .plain start (switchAll false off (switchAll true on s.level.flags))

/-! ## Groups -/

/-- Opens a group that captures. -/
def capture (s : ReaderState) (start : Nat) : ReaderState :=
  { s.enter (.capture (s.opened + 1)) start s.level.flags with opened := s.opened + 1 }

/-- Opens a group with a name, or refers to one. The first two characters after the parenthesis have
been taken. -/
def namedGroup (s : ReaderState) (start : Nat) : Reading ReaderState := do
  if ← accept '<' then
    let groupName ← name '>' "group name"
    let place := (← here) - (groupName.length + 1)
    if !Text.isName groupName then fail (.badGroupName groupName) place
    else
      match s.names.lookup groupName with
      | some earlier => fail (.redefinedGroup groupName (s.opened + 1) earlier) place
      | none => return capture { s with names := (groupName, s.opened + 1) :: s.names } start
  else if ← accept '=' then
    let groupName ← name ')' "group name"
    let place := (← here) - (groupName.length + 1)
    if !Text.isName groupName then fail (.badGroupName groupName) place
    else
      match s.names.lookup groupName with
      | none => fail (.unknownGroupName groupName) place
      | some number => reference s number (groupName.length + 1)
  else
    match ← next with
    | none => fail .unexpectedEnd (← here)
    | some t => fail (.unknownExtension ("P" ++ t.text)) ((← here) - (t.chars.length + 2))

/-- The number of groups that an expression cannot have. -/
def groupLimit : Nat := Nat.pow 2 30 - 1

/-- Opens a group that depends on another one. The parenthesis of the condition has been taken. -/
def condition (s : ReaderState) (start : Nat) : Reading ReaderState := do
  let text ← name ')' "group name"
  let place := (← here) - (text.length + 1)
  let (s, number) ←
    if Text.isName text then
      match s.names.lookup text with
      | none => fail (.unknownGroupName text) place
      | some number => pure (s, number)
    else
      match Numeral.whole? text.toList with
      | none | some (.negSucc _) => fail (.badGroupName text) place
      | some (.ofNat number) =>
        if number = 0 then fail .badGroupNumber place
        else if groupLimit ≤ number then fail (.invalidReference number) place
        else if (s.asked.lookup number).isSome then pure (s, number)
        else pure ({ s with asked := (number, place) :: s.asked }, number)
  checkBehind s number
  return s.enter (.ifGroup number) start s.level.flags

/-- Passes over a comment. -/
def comment (s : ReaderState) (start : Nat) : Nat → Reading ReaderState
  | 0 => fail .unterminatedComment start
  | fuel + 1 => do
    match ← next with
    | none => fail .unterminatedComment start
    | some t => if t.is ')' then return s else comment s start fuel

/-- Opens a lookbehind. -/
def lookbehind (s : ReaderState) (start : Nat) : Reading ReaderState := do
  match ← next with
  | none => fail .unexpectedEnd (← here)
  | some t =>
    if t.is '=' || t.is '!' then
      let s := s.enter (.behind (t.char = '!') s.behindFrom) start s.level.flags
      return { s with behindFrom := some (s.behindFrom.getD s.opened) }
    else failBefore (.unknownExtension ("<" ++ t.text)) ('?' :: '<' :: t.chars)

/-- **The state after an opening parenthesis** and what says its kind. -/
def openGroup (s : ReaderState) (start : Nat) : Reading ReaderState := do
  if !(← accept '?') then return capture s start
  else
    match ← next with
    | none => fail .unexpectedEnd (← here)
    | some t =>
      let unknown : Reading ReaderState := failBefore (.unknownExtension t.text) ('?' :: t.chars)
      if t.escaped then unknown
      else
        match t.char with
        | 'P' => namedGroup s start
        | ':' => return s.enter .plain start s.level.flags
        | '#' => comment s start ((← get).tokens.length + 1)
        | '=' => return s.enter (.ahead false) start s.level.flags
        | '!' => return s.enter (.ahead true) start s.level.flags
        | '<' => lookbehind s start
        | '(' => condition s start
        | '>' => return s.enter .atomic start s.level.flags
        | c => if c = '-' || isFlag c then flagGroup s start c else unknown

/-- **The state after a closing parenthesis**: the group becomes an item of the level around it. -/
def closeGroup (s : ReaderState) (around : Level) (outer : List Level) : ReaderState :=
  let body := s.level.body
  let s' := { s with level := around, outer := outer }
  match s.level.bracket with
  | .capture n =>
    { s'.push (.group n body) with widths := (n, body.width s.widths) :: s.widths }
  | .plain => s'.push body
  | .atomic => s'.push (.atomic body)
  | .ahead negated => s'.push (.ahead negated body)
  | .behind negated enclosing =>
    { s'.push (.behind negated (body.width s.widths).1 body) with behindFrom := enclosing }
  | .ifGroup n =>
    match s.level.branches with
    | held :: _ => s'.push (.ifGroup n held s.level.branch)
    | [] => s'.push (.ifGroup n s.level.branch .empty)

/-! ## All tokens -/

/-- White space that a verbose expression passes over. -/
def isVerboseSpace (c : Char) : Bool := c = ' ' || (9 ≤ c.toNat && c.toNat ≤ 13)

/-- Passes over the rest of a line. -/
def restOfLine (s : ReaderState) : Nat → Reading ReaderState
  | 0 => return s
  | fuel + 1 => do
    match ← next with
    | none => return s
    | some t => if t.is '\n' then return s else restOfLine s fuel

/-- The state after a single character that is no parenthesis. -/
def plainChar (s : ReaderState) (t : Token) : Reading ReaderState := do
  let flags := s.level.flags
  match t.char with
  | '|' => return { s with level := s.level.alternative }
  | '[' => return s.push (← charSet flags)
  | '.' => return s.push (.set (if flags.dotAll then ⟨true, [], .exact⟩ else .allBut '\n'))
  | '^' => return s.push (.anchor (if flags.multiline then .lineStart else .textStart)) .anchor
  | '$' => return s.push (.anchor (if flags.multiline then .lineEnd else .lastLineEnd)) .anchor
  | '?' => repetition s t.offset 0 (some 1)
  | '*' => repetition s t.offset 0 none
  | '+' => repetition s t.offset 1 none
  | '\x7b' =>
    match ← braces with
    | some (low, high) => repetition s t.offset low high
    | none => return s.push (flags.one t.char.toNat)
  | c =>
    if flags.verbose && isVerboseSpace c then return s
    else if flags.verbose && c = '#' then restOfLine s ((← get).tokens.length + 1)
    else return s.push (flags.one c.toNat)

/-- The letters of flags say in one way what a letter is. -/
def checkKinds (s : ReaderState) : Reading Unit :=
  if mixesKinds s.kinds then overLimit .kinds else return ()

/-- **The state after one more token and what belongs to it.** A closing parenthesis without an open
group is not taken. -/
def step (s : ReaderState) (t : Token) : Reading ReaderState := do
  if t.is ')' then
    match s.outer with
    | [] => do
      checkKinds s
      fail .unbalanced t.offset
    | around :: outer => do
      let _ ← next
      return closeGroup s around outer
  else if t.is '|' && s.level.isSecondPart then fail .thirdBranch t.offset
  else do
    let _ ← next
    if t.escaped then escape s t.char
    else if t.char = '(' then openGroup s t.offset
    else plainChar s t

/-- Takes all tokens. -/
def all : Nat → ReaderState → Reading ReaderState
  | 0, s => return s
  | fuel + 1, s => do
    match ← peek with
    | none => return s
    | some t => all fuel (← step s t)

/-- The first lookbehind that does not look back by a fixed width, or looks too far. -/
def lookbehindFault? (widths : List (Nat × Nat × Nat)) : Regex → Option Cause
  | .behind _ _ p =>
    let (least, most) := p.width widths
    if countLimit < least then some .farLookbehind
    else if least ≠ most then some .looseLookbehind
    else lookbehindFault? widths p
  | .seq p q | .alt p q | .ifGroup _ p q =>
    (lookbehindFault? widths p).or (lookbehindFault? widths q)
  | .repeated p _ _ _ | .group _ p | .ahead _ p | .atomic p => lookbehindFault? widths p
  | _ => none

/-- **The whole expression.** -/
def whole : Reading Regex := do
  let c ← get
  if c.tokens.isEmpty && c.dangling then fail .escapeAtEnd (c.stop - 1)
  else
    let s ← all (c.tokens.length + 1) .initial
    if !s.outer.isEmpty then fail .unterminatedGroup s.level.start
    else
      checkKinds s
      match s.asked.reverse.find? fun a => s.opened < a.1 with
      | some (number, place) => fail (.invalidReference number) place
      | none =>
        match lookbehindFault? s.widths s.level.body with
        | some cause => throw (.fault cause none)
        | none => return s.level.body

end Reading

/-- **The expression that a text stands for**, or why there is none. -/
def parse (text : String) : Except Refusal Regex :=
  match Reading.whole.run (Cursor.ofText text.toList) with
  | .ok (p, _) => .ok p
  | .error (.fault cause offset) => .error (.fault (faultAt text.toList cause offset))
  | .error (.limit limit) => .error (.limit limit)

end UsageGraph.Regex
