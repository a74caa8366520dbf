import UsageGraph.Text.Class

/-!
# Regular expressions

* `CharSet`: what a single place of a text may hold;
* `Anchor`: what must surround a place;
* `Regex`: the expressions;
* `Regex.literal`, `Regex.many`: an expression for one text, and one for any run of a set.
-/

namespace UsageGraph

/-- How letter case counts. -/
inductive CaseRule where
  | exact
  | foldAscii
  | foldAll
  deriving DecidableEq, Repr

/-- The named classes of characters. -/
inductive CharKind where
  | digit
  | blank
  | word
  deriving DecidableEq, Repr

/-- A part of a set: a range of code points, or a class or its complement. -/
inductive SetItem where
  | range (low high : Nat)
  | kind (kind : CharKind) (ascii negated : Bool)
  deriving DecidableEq, Repr

/-- **A set of characters.** -/
structure CharSet where
  negated : Bool
  items : List SetItem
  case : CaseRule
  deriving DecidableEq, Repr

namespace CharSet

/-- Lower case within ASCII. -/
def lowerAscii (c : Char) : Char := if 'A' ≤ c ∧ c ≤ 'Z' then Char.ofNat (c.toNat + 32) else c

/-- The character that is looked up in the classes. -/
def folded : CaseRule → Char → Char
  | .exact, c => c
  | .foldAscii, c => lowerAscii c
  | .foldAll, c => Text.lowered c

/-- The characters that are looked up in the ranges: any of them will do. -/
def variants : CaseRule → Char → List Char
  | .exact, c => [c]
  | .foldAscii, c =>
    let l := lowerAscii c
    if 'a' ≤ l ∧ l ≤ 'z' then [l, Char.ofNat (l.toNat - 32)] else [l]
  | .foldAll, c => c :: Text.kin c

/-- The character is of the class. -/
def isKind (kind : CharKind) (ascii : Bool) (c : Char) : Bool :=
  (!ascii || c.toNat < 128) &&
    match kind with
    | .digit => Text.isDigit c
    | .blank => Text.isBlank c && (!ascii || c.toNat < 28 || c = ' ')
    | .word => Text.isWord c

/-- The part holds the character. -/
def itemHas (case : CaseRule) (c : Char) : SetItem → Bool
  | .range low high => (variants case c).any fun v => low ≤ v.toNat && v.toNat ≤ high
  | .kind kind ascii negated => isKind kind ascii (folded case c) != negated

/-- **The set holds the character.** -/
def has (s : CharSet) (c : Char) : Bool := s.items.any (itemHas s.case c) != s.negated

/-- All characters but one. -/
def allBut (c : Char) : CharSet := ⟨true, [.range c.toNat c.toNat], .exact⟩

theorem has_allBut {c d : Char} : (allBut c).has d = true ↔ d ≠ c := by
  simp only [has, allBut, itemHas, variants, List.any_cons, List.any_nil, Bool.or_false]
  rw [ne_eq, ← Char.toNat_inj]
  by_cases h : d.toNat = c.toNat
  · simp [h]
  · simp only [h, not_false_eq_true, iff_true, bne_iff_ne, ne_eq, Bool.not_eq_true,
      Bool.and_eq_false_iff, decide_eq_false_iff_not]
    omega

end CharSet

/-- What must surround a place of a text. -/
inductive Anchor where
  | textStart
  | textEnd
  | lastLineEnd
  | lineStart
  | lineEnd
  | boundary (ascii negated : Bool)
  deriving DecidableEq, Repr

/-- How a repetition chooses: the most first, the fewest first, or the most only. -/
inductive Greed where
  | greedy
  | lazy
  | possessive
  deriving DecidableEq, Repr

/-- **A regular expression.** -/
inductive Regex where
  | empty
  | char (c : Char)
  | set (s : CharSet)
  | anchor (a : Anchor)
  | seq (p q : Regex)
  | alt (p q : Regex)
  | repeated (p : Regex) (low : Nat) (high : Option Nat) (greed : Greed)
  | group (number : Nat) (p : Regex)
  | recall (number : Nat) (case : CaseRule)
  | ifGroup (number : Nat) (held missing : Regex)
  | ahead (negated : Bool) (p : Regex)
  | behind (negated : Bool) (width : Nat) (p : Regex)
  | atomic (p : Regex)
  deriving DecidableEq, Repr

namespace Regex

/-- The expressions one after the other. -/
def sequence : List Regex → Regex
  | [] => .empty
  | [p] => p
  | p :: q :: rest => .seq p (sequence (q :: rest))

/-- The expressions as alternatives, the first one preferred. -/
def choice : List Regex → Regex
  | [] => .empty
  | [p] => p
  | p :: q :: rest => .alt p (choice (q :: rest))

/-- The expression for exactly these characters. -/
def literalList : List Char → Regex
  | [] => .empty
  | c :: cs => .seq (.char c) (literalList cs)

/-- **The expression for exactly this text.** -/
def literal (s : String) : Regex := literalList s.toList

/-- Any run of characters of a set. -/
def many (s : CharSet) : Regex := .repeated (.set s) 0 none .greedy

/-! ## Width -/

/-- The length from which on lengths are not told apart. -/
def widthLimit : Nat := Nat.pow 2 64

/-- The least and the greatest length of what the expression matches, for groups of the given
lengths, neither above `widthLimit`. -/
def width (groups : List (Nat × Nat × Nat)) : Regex → Nat × Nat
  | .empty | .anchor _ | .ahead _ _ | .behind _ _ _ => (0, 0)
  | .char _ | .set _ => (1, 1)
  | .seq p q =>
    let (a, b) := width groups p
    let (c, d) := width groups q
    (min (a + c) widthLimit, min (b + d) widthLimit)
  | .alt p q | .ifGroup _ p q =>
    let (a, b) := width groups p
    let (c, d) := width groups q
    (min a c, max b d)
  | .repeated p low high _ =>
    let (a, b) := width groups p
    let most := match high with
      | some m => b * m
      | none => if b = 0 then 0 else widthLimit
    (min (a * low) widthLimit, min most widthLimit)
  | .group _ p | .atomic p => width groups p
  | .recall n _ => (groups.lookup n).getD (0, 0)

end Regex

end UsageGraph
