/-!
# Cycles

A search goes from one node along its targets, deeper first. A target that is on the way to the node
being searched closes a cycle. Starting once from every node finds every edge that lies on a cycle.

* `canonicalCycle?`: a cycle from its least member on, and back to it;
* `Search`, `Search.step`: the state of a search and its step;
* `cyclesFrom`: the cycles that a search from one node meets;
* `findCycles`: the distinct cycles of all searches.
-/

namespace UsageGraph

/-! ## Canonical form -/

/-- The list from its first `x` on, followed by what comes before. -/
def rotateTo (x : String) (l : List String) : List String :=
  l.dropWhile (· != x) ++ l.takeWhile (· != x)

/-- The least of a text and a list of texts. -/
def leastOf (first : String) (rest : List String) : String :=
  rest.foldl (fun least s => if s < least then s else least) first

/-- **The canonical form of a cycle** given by its members: from the least one on, and back to it. No
members make no cycle. -/
def canonicalCycle? : List String → Option (List String)
  | [] => none
  | first :: rest =>
    let least := leastOf first rest
    some (rotateTo least (first :: rest) ++ [least])

/-! ## The search from one node -/

/-- **A search**: the nodes on the way, innermost first, each with its targets not yet looked at; the
nodes never met; the cycles met, last first. -/
structure Search where
  way : List (String × List String)
  fresh : List String
  met : List (List String)
  deriving DecidableEq, Repr

namespace Search

/-- The search before its first step. -/
def start (targets : String → List String) (nodes : List String) (node : String) : Search :=
  ⟨[(node, targets node)], nodes.erase node, []⟩

/-- The nodes on the way, outermost first. -/
def path (s : Search) : List String := (s.way.map (·.1)).reverse

/-- **One step**: back from a node without targets left; over a target, which closes a cycle when it
is on the way, and is searched when it was never met. -/
def step (targets : String → List String) (s : Search) : Search :=
  match s.way with
  | [] => s
  | (_, []) :: outer => { s with way := outer }
  | (node, t :: ts) :: outer =>
    if (node :: outer.map (·.1)).contains t then
      { s with
        way := (node, ts) :: outer
        met := (s.path.dropWhile (· != t)) :: s.met }
    else if s.fresh.contains t then
      { s with
        way := (t, targets t) :: (node, ts) :: outer
        fresh := s.fresh.erase t }
    else { s with way := (node, ts) :: outer }

/-- The search after a number of steps. -/
def after (targets : String → List String) : Nat → Search → Search
  | 0, s => s
  | n + 1, s => if s.way.isEmpty then s else after targets n (s.step targets)

end Search

/-- More steps than any search takes: one for each node, one for each target. -/
def stepBound (targets : String → List String) (nodes : List String) : Nat :=
  (nodes.flatMap fun p => p :: targets p).length

/-- **The cycles met by the search from one node**, in order. -/
def cyclesFrom (targets : String → List String) (nodes : List String) (node : String) :
    List (List String) :=
  (Search.after targets (stepBound targets nodes) (.start targets nodes node)).met.reverse

/-- **The distinct cycles**, each in canonical form, in the order in which they are first met. -/
def findCycles (targets : String → List String) (nodes : List String) : List (List String) :=
  (nodes.flatMap fun p => (cyclesFrom targets nodes p).filterMap canonicalCycle?).eraseDups

end UsageGraph
