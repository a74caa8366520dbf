import UsageGraph.Text.CaseTable
import UsageGraph.Text.CasedTable
import UsageGraph.Text.LetterTable
import UsageGraph.Text.UnprintableTable
import UsageGraph.Text.WordTable

/-!
# Character classes

* `isBlank`, `isDigit`, `isWord`, `prints`: the Unicode classes of white space, decimal digits,
  word characters and printing characters;
* `digitValue?`: the value of a decimal digit;
* `isLetter`, `isName`: letters of any script, and texts that can be names;
* `lowered`, `lower`, `kin`: lower case of a character and of a text, and the characters that a
  search without regard to case takes for one another.
-/

namespace UsageGraph.Text

/-- The code point of `c` lies in one of the ranges. -/
def inRanges (ranges : List (Nat × Nat)) (c : Char) : Bool :=
  ranges.any fun r => r.1 ≤ c.toNat && c.toNat ≤ r.2

/-- First and last code point of each run of white space. -/
def blankRanges : List (Nat × Nat) :=
  [(9, 13), (28, 32), (133, 133), (160, 160), (5760, 5760), (8192, 8202), (8232, 8233),
   (8239, 8239), (8287, 8287), (12288, 12288)]

/-- First and last code point of each run of decimal digits. -/
def digitRanges : List (Nat × Nat) :=
  [(48, 57), (1632, 1641), (1776, 1785), (1984, 1993), (2406, 2415), (2534, 2543), (2662, 2671),
   (2790, 2799), (2918, 2927), (3046, 3055), (3174, 3183), (3302, 3311), (3430, 3439),
   (3558, 3567), (3664, 3673), (3792, 3801), (3872, 3881), (4160, 4169), (4240, 4249),
   (6112, 6121), (6160, 6169), (6470, 6479), (6608, 6617), (6784, 6793), (6800, 6809),
   (6992, 7001), (7088, 7097), (7232, 7241), (7248, 7257), (42528, 42537), (43216, 43225),
   (43264, 43273), (43472, 43481), (43504, 43513), (43600, 43609), (44016, 44025),
   (65296, 65305), (66720, 66729), (68912, 68921), (69734, 69743), (69872, 69881),
   (69942, 69951), (70096, 70105), (70384, 70393), (70736, 70745), (70864, 70873),
   (71248, 71257), (71360, 71369), (71472, 71481), (71904, 71913), (72016, 72025),
   (72784, 72793), (73040, 73049), (73120, 73129), (92768, 92777), (92864, 92873),
   (93008, 93017), (120782, 120831), (123200, 123209), (123632, 123641), (125264, 125273),
   (130032, 130041)]

/-- White space of any kind. -/
def isBlank (c : Char) : Bool := inRanges blankRanges c

/-- A decimal digit of any script. -/
def isDigit (c : Char) : Bool := inRanges digitRanges c

/-- The value of a decimal digit of any script. The digits of a script follow one another from
zero. -/
def digitValue? (c : Char) : Option Nat :=
  (digitRanges.find? fun r => r.1 ≤ c.toNat && c.toNat ≤ r.2).map fun r => (c.toNat - r.1) % 10

/-- A letter, a number of any kind or the low line. -/
def isWord (c : Char) : Bool := inRanges wordRanges c

/-- A letter of any script. -/
def isLetter (c : Char) : Bool := inRanges letterRanges c

/-- A name may start with the character. -/
def startsName (c : Char) : Bool :=
  (isLetter c && !inRanges lettersWithin c && !inRanges lettersOutside c) ||
    inRanges nameStartSigns c

/-- A name may go on with the character. -/
def continuesName (c : Char) : Bool :=
  startsName c || inRanges lettersWithin c || inRanges namePartSigns c

/-- **The text can be a name.** -/
def isName (s : String) : Bool :=
  match s.toList with
  | c :: cs => startsName c && cs.all continuesName
  | [] => false

/-- The character shows when printed. -/
def prints (c : Char) : Bool := !inRanges unprintableRanges c

theorem isBlank_of_isWhitespace {c : Char} (h : c.isWhitespace = true) : isBlank c = true := by
  simp only [Char.isWhitespace, Bool.or_eq_true, decide_eq_true_eq] at h
  rcases h with ((rfl | rfl) | rfl) | rfl <;> rfl

/-! ## Letter case -/

/-- The lower-case partner of a code point that a run of capitals holds. -/
def lowerInRun (n : Nat) (run : Nat × Nat × Nat × Nat) : Option Nat :=
  let (first, last, step, partner) := run
  if first ≤ n && n ≤ last && (n - first) % step == 0 then some (partner + (n - first)) else none

/-- Simple lower case: a capital with a partner becomes it, every other character stays. -/
def lowered (c : Char) : Char :=
  match capitalRuns.findSome? (lowerInRun c.toNat) with
  | some n => Char.ofNat n
  | none => c

/-- The first character that counts where case is concerned is capital or small. -/
def meetsCased (cs : List Char) : Bool :=
  ((cs.dropWhile (inRanges caselessRanges)).head?).any (inRanges casedRanges)

/-- A character in lower case. A capital I with a dot becomes two characters, and a capital sigma at the
end of a word its final form. `before` holds the characters before it, last first. -/
def lowerOf (before : List Char) (c : Char) (after : List Char) : List Char :=
  if c = 'İ' then ['i', '\u0307']
  else if c = 'Σ' && meetsCased before && !meetsCased after then ['ς']
  else [lowered c]

/-- The characters in lower case; `before` holds those before them, last first. -/
def lowerFrom (before : List Char) : List Char → List Char
  | [] => []
  | c :: cs => lowerOf before c cs ++ lowerFrom (c :: before) cs

/-- **A text in lower case.** -/
def lower (s : String) : String := String.ofList (lowerFrom [] s.toList)

/-- The capital of a run whose partner is the code point. -/
def raiseInRun (n : Nat) (run : Nat × Nat × Nat × Nat) : Option Nat :=
  let (first, last, step, partner) := run
  if partner ≤ n && n ≤ partner + (last - first) && (n - partner) % step == 0
  then some (first + (n - partner)) else none

/-- The lower-case forms that stand for `c` when case is ignored. -/
def lowerForms (c : Char) : List Char :=
  let l := lowered c
  l :: ((caseKin.lookup l.toNat).getD []).map Char.ofNat

/-- **The characters taken for `c` when case is ignored.** -/
def kin (c : Char) : List Char :=
  (lowerForms c).flatMap fun l => l :: (capitalRuns.filterMap (raiseInRun l.toNat)).map Char.ofNat

/-- Two characters are one letter up to case. -/
def sameLetter (c d : Char) : Bool := (lowerForms c).contains (lowered d)

end UsageGraph.Text
