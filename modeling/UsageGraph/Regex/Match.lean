import UsageGraph.Regex.Basic

/-!
# Matching

A match runs from a place of a text to a later one. What follows an expression is handed to it as a
function, so that an expression can fall back on another choice when the rest fails.

* `Spot`: a place of a text, with what the groups hold;
* `Regex.run`: the first way through an expression and what follows it;
* `Regex.search`: the expression matches somewhere in a text.
-/

namespace UsageGraph

/-- **A place of a text**: the characters before it, nearest first, those after it, and what the
groups matched so far. -/
structure Spot where
  before : List Char
  rest : List Char
  groups : List (Nat × List Char)
  deriving DecidableEq, Repr

namespace Spot

/-- The start of a text. -/
def start (text : List Char) : Spot := ⟨[], text, []⟩

/-- The place `n` characters back, unless the text starts before. -/
def back? : Nat → Spot → Option Spot
  | 0, s => some s
  | n + 1, ⟨c :: before, rest, groups⟩ => back? n ⟨before, c :: rest, groups⟩
  | _ + 1, ⟨[], _, _⟩ => none

/-- The place after the characters of `cs`, when the text goes on with them. -/
def past? (case : CaseRule) : List Char → Spot → Option Spot
  | [], s => some s
  | c :: cs, ⟨before, d :: rest, groups⟩ =>
    if CharSet.folded case c = CharSet.folded case d then past? case cs ⟨d :: before, rest, groups⟩
    else none
  | _ :: _, ⟨_, [], _⟩ => none

/-- Word characters stand on exactly one side. -/
def atBoundary (ascii : Bool) (s : Spot) : Bool :=
  let isWord (c : Option Char) : Bool := c.any (CharSet.isKind .word ascii)
  isWord s.before.head? != isWord s.rest.head?

/-- The anchor holds here. -/
def satisfies (s : Spot) : Anchor → Bool
  | .textStart => s.before.isEmpty
  | .textEnd => s.rest.isEmpty
  | .lastLineEnd => s.rest.isEmpty || s.rest == ['\n']
  | .lineStart => s.before.isEmpty || s.before.head? == some '\n'
  | .lineEnd => s.rest.isEmpty || s.rest.head? == some '\n'
  | .boundary ascii negated =>
    !(s.before.isEmpty && s.rest.isEmpty) && s.atBoundary ascii != negated

end Spot

namespace Regex

/-- What follows an expression: the end of the whole match, if there is one. -/
abbrev Rest := Spot → Option Spot

/-- **Up to `room` more repetitions** of a body, of which `need` are owed. A repetition that took
nothing is the last one, unless more are owed; `last` is where the latest one started. -/
def iterate (body : Spot → Rest → Option Spot) (fewest : Bool) (k : Rest) :
    Nat → Nat → Option Nat → Option Nat → Rest
  | 0, _, _, _, _ => none
  | fuel + 1, need + 1, room, last, s =>
    body s (iterate body fewest k fuel need (room.map (· - 1)) last)
  | fuel + 1, 0, room, last, s =>
    let again : Option Spot :=
      if room = some 0 ∨ last = some s.rest.length then none
      else body s (iterate body fewest k fuel 0 (room.map (· - 1)) (some s.rest.length))
    if fewest then (k s).or again else again.or (k s)

/-- **The end of the first way through the expression and what follows it.** -/
def run : Regex → Spot → Rest → Option Spot
  | .empty, s, k => k s
  | .char c, s, k =>
    match s.rest with
    | d :: rest => if d = c then k ⟨d :: s.before, rest, s.groups⟩ else none
    | [] => none
  | .set cs, s, k =>
    match s.rest with
    | d :: rest => if cs.has d then k ⟨d :: s.before, rest, s.groups⟩ else none
    | [] => none
  | .anchor a, s, k => if s.satisfies a then k s else none
  | .seq p q, s, k => run p s fun t => run q t k
  | .alt p q, s, k => (run p s k).or (run q s k)
  | .repeated p low high greed, s, k =>
    let fuel := low + s.rest.length + 2
    match greed with
    | .greedy => iterate (run p) false k fuel low high none s
    | .lazy => iterate (run p) true k fuel low high none s
    | .possessive =>
      match iterate (run p) false some fuel low high none s with
      | some t => k t
      | none => none
  | .group n p, s, k =>
    run p s fun t =>
      k { t with groups := (n, s.rest.take (s.rest.length - t.rest.length)) :: t.groups }
  | .recall n case, s, k =>
    match s.groups.lookup n with
    | some text => (s.past? case text).bind k
    | none => none
  | .ifGroup n p q, s, k => if (s.groups.lookup n).isSome then run p s k else run q s k
  | .ahead negated p, s, k =>
    match run p s some with
    | some t => if negated then none else k { s with groups := t.groups }
    | none => if negated then k s else none
  | .behind negated width p, s, k =>
    match (s.back? width).bind fun b => run p b some with
    | some t => if negated then none else k { s with groups := t.groups }
    | none => if negated then k s else none
  | .atomic p, s, k =>
    match run p s some with
    | some t => k t
    | none => none

/-- The expression matches from some place on. -/
def searchFrom (p : Regex) (before : List Char) : List Char → Bool
  | [] => (run p ⟨before, [], []⟩ some).isSome
  | c :: cs => (run p ⟨before, c :: cs, []⟩ some).isSome || searchFrom p (c :: before) cs

/-- **The expression matches somewhere in the text.** -/
def search (p : Regex) (text : String) : Bool := searchFrom p [] text.toList

end Regex

end UsageGraph
