import UsageGraph.Console.PictographTable
import UsageGraph.Text.Affix

/-!
# Pictograph codes

A name between two colons, such as `:key:`, stands for a pictograph. The name may end in a way to show
it, as text or as an emoji, which a selector after the pictograph asks for.

* `Pictograph.ofName?`: the pictograph of a name;
* `Pictograph.ofCode?`: what stands for a code;
* `Pictograph.replace`: characters with every code replaced.
-/

namespace UsageGraph.Pictograph

/-- Pairs of texts that follow one another. -/
def pairs : List String → List (String × String)
  | name :: sign :: rest => (name, sign) :: pairs rest
  | _ => []

/-- All names, each with its pictograph. -/
def table : List (String × String) := pairs (Text.words Console.namedPictographs)

/-- **The pictograph of a name**, whatever the case of its letters. -/
def ofName? (name : String) : Option String := table.lookup (Text.lower name)

/-- The endings of a code that tell how to show the pictograph, with their selectors. -/
def manners : List (String × Char) := [("-emoji", '\ufe0f'), ("-text", '\ufe0e')]

/-- **What stands for a code**, which is what stands between the colons. -/
def ofCode? (code : String) : Option String :=
  match manners.findSome? fun m => (Text.before? m.1 code).map fun name => (name, m.2) with
  | some (name, selector) => (ofName? name).map fun sign => sign.push selector
  | none => ofName? code

/-- What stands before the next colon, if no white space does. -/
def code? (cs : List Char) : Option (List Char) :=
  let code := cs.takeWhile fun c => c != ':' && !Text.isBlank c
  if (cs.drop code.length).head? = some ':' then some code else none

/-- What a code between colons becomes. One without a pictograph stays. -/
def shown (code : List Char) : List Char :=
  match ofCode? (String.ofList code) with
  | some sign => sign.toList
  | none => ':' :: code ++ [':']

/-- The characters with every code replaced, of which the first `skip` belong to a code already
replaced. -/
def replaceFrom (skip : Nat) : List Char → List Char
  | [] => []
  | c :: cs =>
    match skip with
    | n + 1 => replaceFrom n cs
    | 0 =>
      match if c = ':' then code? cs else none with
      | some code => shown code ++ replaceFrom (code.length + 1) cs
      | none => c :: replaceFrom 0 cs

/-- **The characters with every code replaced.** -/
def replace (cs : List Char) : List Char := replaceFrom 0 cs

/-- Without colons nothing changes. -/
theorem replace_eq_self {cs : List Char} (h : ':' ∉ cs) : replace cs = cs := by
  have go : ∀ ds : List Char, ':' ∉ ds → replaceFrom 0 ds = ds := by
    intro ds hd
    induction ds with
    | nil => rfl
    | cons d ds ih =>
      simp only [List.mem_cons, not_or] at hd
      simp [replaceFrom, Ne.symm hd.1, ih hd.2]
  exact go cs h

end UsageGraph.Pictograph
