import UsageGraph.Graph.Basic

/-!
# Graphs as DOT

A graph is written as a directed graph in the DOT language: a line for each file, a line for each
edge, a dashed line for each call between files. Members of cycles are red.

* `Dot.quote`: a text between double quotes;
* `Graph.dot`: the text of a graph.
-/

namespace UsageGraph

namespace Dot

/-- How a character is written between double quotes. -/
def quoteChar (c : Char) : List Char := if c = '\\' ∨ c = '"' then ['\\', c] else [c]

/-- **A text between double quotes.** -/
def quote (s : String) : String := "\"" ++ String.ofList (s.toList.flatMap quoteChar) ++ "\""

/-- Why a graph has no DOT text: the purpose of a file says something and is no text. -/
inductive Fault where
  | purposeNotText (path : String)
  deriving DecidableEq, Repr

/-- The purpose of a file as an attribute; a purpose that says nothing is left out. -/
def tooltip (path : String) (purpose : Json) : Except Fault (List String) :=
  if purpose.isBlank then .ok []
  else
    match purpose with
    | .str s => .ok ["tooltip=" ++ quote s]
    | _ => .error (.purposeNotText path)

/-- The line of a file. -/
def nodeLine (red : List String) (path : String) (n : Node) : Except Fault String := do
  let tip ← tooltip path n.purpose
  let color := if red.contains path then ["color=red"] else []
  return "  " ++ quote path ++ " [" ++
    Text.joined ", " (("label=" ++ quote path) :: (tip ++ color)) ++ "];"

/-- The lines of the edges and calls of a file. Calls from outside the graph are left out. -/
def edgeLines (g : Graph) (path : String) (n : Node) : List String :=
  n.edges.map (fun t => "  " ++ quote path ++ " -> " ++ quote t ++ " [label=\"uses\"];") ++
    (n.calledBy.filter g.has).map fun c =>
      "  " ++ quote c ++ " -> " ++ quote path ++ " [label=\"calls\", style=dashed];"

end Dot

/-- **The DOT text of a graph**, with the members of the cycles in red. -/
def Graph.dot (g : Graph) (cycles : List (List String)) : Except Dot.Fault String := do
  let red := cycles.flatten
  let nodes ← g.nodes.entries.mapM fun e => Dot.nodeLine red e.1 e.2
  let edges := g.nodes.entries.flatMap fun e => Dot.edgeLines g e.1 e.2
  let lines := ["digraph DocMeta \x7b", "  rankdir=LR;"] ++ nodes ++ edges ++ ["\x7d"]
  return Text.joined "\n" lines ++ "\n"

end UsageGraph
