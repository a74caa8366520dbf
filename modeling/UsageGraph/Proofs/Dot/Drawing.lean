import Mathlib.Data.List.Forall2
import UsageGraph.Proofs.Dot.Reader
import UsageGraph.Proofs.Graph.Dot
import UsageGraph.Proofs.Graph.Landing
import UsageGraph.Proofs.Graph.PathMap

/-!
# What the DOT text of a graph shows

The text of a graph is read back statement by statement, whatever the characters of paths and purposes:
between double quotes every text stands for itself.

* `Dot.spells_quote`: a text between double quotes is one name;
* `Dot.LineOf`, `Dot.read?_lines`: the lines of statements are read as these;
* `Graph.statements`, `Graph.read?_dot`: the statements that the text of a graph is read as;
* `Dot.shown`: the files that statements show, with their purposes, uses and callers;
* **`Graph.dot_faithful`**: those of the text of a graph show the files of that graph.
-/

namespace UsageGraph

namespace Dot

/-! ## Names between double quotes -/

theorem scan?_quoteChar (taken : List Char) (c : Char) :
    scan? (.quoted taken) (quoteChar c) = some (.quoted (c :: taken), []) := by
  by_cases h : c = '\\' ∨ c = '"'
  · rcases h with rfl | rfl <;> rfl
  · obtain ⟨hslash, hquote⟩ := not_or.1 h
    simp [quoteChar, scan?, step?, hslash, hquote]

theorem scan?_quoteChars (taken cs : List Char) :
    scan? (.quoted taken) (cs.flatMap quoteChar) = some (.quoted (cs.reverse ++ taken), []) := by
  induction cs generalizing taken with
  | nil => rfl
  | cons c cs ih =>
    rw [List.flatMap_cons, scan?_append, scan?_quoteChar, Option.bind_some, ih]
    simp

/-- **A text between double quotes is one name**, whatever its characters. -/
theorem spells_quote (s : String) : Spells (quote s).toList [.name s] := by
  have hlist : (quote s).toList = '"' :: (s.toList.flatMap quoteChar ++ ['"']) := by
    simp [quote]
  rw [Spells, hlist, scan?, show step? .between '"' = some (.quoted [], []) from rfl,
    Option.bind_some, scan?_append, scan?_quoteChars]
  simp [scan?, step?, nameOf]

theorem Spells.append_text {s t : String} {ts us : List Token} (hs : Spells s.toList ts)
    (ht : Spells t.toList us) : Spells (s ++ t).toList (ts ++ us) := by
  rw [String.toList_append]
  exact hs.append ht

/-! ## The statements of a graph -/

/-- The purpose of a file as an attribute; a purpose that says nothing is left out. -/
def tooltipAttribute : Json → List (String × String)
  | .str s => if s = "" then [] else [("tooltip", s)]
  | _ => []

/-- The attributes of a file in a drawing. -/
def nodeAttributes (red : List String) (path : String) (n : Node) : List (String × String) :=
  ("label", path) ::
    (tooltipAttribute n.purpose ++ if red.contains path then [("color", "red")] else [])

/-- The edges and calls of a file. -/
def edgeStatements (g : Graph) (path : String) (n : Node) : List Statement :=
  n.edges.map (fun t => .edge path t [("label", "uses")]) ++
    (n.calledBy.filter g.has).map fun c => .edge c path [("label", "calls"), ("style", "dashed")]

end Dot

/-- **The statements of a drawing of the graph.** -/
def Graph.statements (g : Graph) (cycles : List (List String)) : List Dot.Statement :=
  .setting "rankdir" "LR" ::
    (g.nodes.entries.map (fun e => .node e.1 (Dot.nodeAttributes cycles.flatten e.1 e.2)) ++
      g.nodes.entries.flatMap fun e => Dot.edgeStatements g e.1 e.2)

namespace Dot

/-! ## The lines of a graph -/

/-- The line is that of the statement. -/
def LineOf (line : String) (s : Statement) : Prop := Spells line.toList (s.tokens ++ [.semicolon])

theorem spells_line {line : String} {s : Statement} (h : LineOf line s) :
    Spells (line.toList ++ ['\n']) (s.tokens ++ [.semicolon]) := by
  simpa using Spells.append h (show Spells ['\n'] [] from rfl)

/-- The tokens of attributes that follow another one. -/
def moreTokens (attributes : List (String × String)) : List Token :=
  attributes.flatMap fun e => [.comma, .name e.1, .equals, .name e.2]

theorem attributeTokens_cons (key value : String) (rest : List (String × String)) :
    attributeTokens ((key, value) :: rest) =
      .name key :: .equals :: .name value :: (moreTokens rest ++ [.closeBracket]) := by
  induction rest generalizing key value with
  | nil => rfl
  | cons e rest ih => rw [attributeTokens, ih] <;> simp [moreTokens]

theorem tooltip_eq_ok {path : String} {purpose : Json} {tip : List String}
    (h : tooltip path purpose = .ok tip) :
    (tip = [] ∧ tooltipAttribute purpose = []) ∨
      ∃ s, tip = ["tooltip=" ++ quote s] ∧ tooltipAttribute purpose = [("tooltip", s)] := by
  unfold tooltip at h
  cases hblank : purpose.isBlank with
  | true =>
    rw [if_pos hblank] at h
    cases h
    refine .inl ⟨rfl, ?_⟩
    cases purpose with
    | str s => exact if_pos (by simpa [Json.isBlank] using hblank)
    | _ => rfl
  | false =>
    rw [if_neg (by simp [hblank])] at h
    cases purpose with
    | str s =>
      cases h
      exact .inr ⟨s, rfl, if_neg (by simpa [Json.isBlank] using hblank)⟩
    | _ => cases h

/-- The line of a file, with the purpose in a place of its own. -/
theorem nodeLine_eq_ok {red : List String} {path line : String} {n : Node}
    (h : nodeLine red path n = .ok line) :
    ∃ purpose : String, Spells purpose.toList (moreTokens (tooltipAttribute n.purpose)) ∧
      line = "  " ++ (quote path ++ (" [" ++ ("label=" ++ (quote path ++ (purpose ++
        (if red.contains path then ", " ++ ("color=red" ++ "];") else "];")))))) := by
  rw [nodeLine] at h
  obtain ⟨tip, htip, h⟩ := bind_eq_ok_iff.1 h
  have hline := (Except.ok.inj h).symm
  obtain ⟨rfl, hattribute⟩ | ⟨s, rfl, hattribute⟩ := tooltip_eq_ok htip
  · refine ⟨"", by rw [hattribute]; rfl, hline.trans ?_⟩
    cases red.contains path <;> simp [Text.joined, String.append_assoc, -String.reduceAppend]
  · have hspells : Spells (", " ++ ("tooltip=" ++ quote s)).toList
        ([.comma] ++ ([.name "tooltip", .equals] ++ [.name s])) :=
      .append_text rfl (.append_text rfl (spells_quote s))
    refine ⟨_, by rw [hattribute]; exact hspells, hline.trans ?_⟩
    cases red.contains path <;> simp [Text.joined, String.append_assoc, -String.reduceAppend]

theorem spells_color (red : Bool) :
    Spells (if red then ", " ++ ("color=red" ++ "];") else "];").toList
      (moreTokens (if red then [("color", "red")] else []) ++ [.closeBracket, .semicolon]) := by
  cases red <;> rfl

theorem nodeLine_isLine {red : List String} {path line : String} {n : Node}
    (h : nodeLine red path n = .ok line) :
    LineOf line (.node path (nodeAttributes red path n)) := by
  obtain ⟨purpose, hpurpose, rfl⟩ := nodeLine_eq_ok h
  have htokens : (Statement.node path (nodeAttributes red path n)).tokens ++ [.semicolon] =
      [] ++ ([.name path] ++ ([.openBracket] ++ ([.name "label", .equals] ++ ([.name path] ++
        (moreTokens (tooltipAttribute n.purpose) ++
          (moreTokens (if red.contains path then [("color", "red")] else []) ++
            [.closeBracket, .semicolon])))))) := by
    rw [Statement.tokens, nodeAttributes, attributeTokens_cons]
    simp [moreTokens]
  rw [LineOf, htokens]
  exact .append_text rfl <| (spells_quote path).append_text <| .append_text rfl <|
    .append_text rfl <| (spells_quote path).append_text <|
    hpurpose.append_text (spells_color _)

theorem edgeLine_isLine {tail head shown : String} {attributes : List (String × String)}
    (h : Spells shown.toList (.openBracket :: (attributeTokens attributes ++ [.semicolon]))) :
    LineOf ("  " ++ quote tail ++ " -> " ++ quote head ++ shown) (.edge tail head attributes) := by
  have hindent : Spells "  ".toList [] := rfl
  have harrow : Spells " -> ".toList [.arrow] := rfl
  exact (((hindent.append_text (spells_quote tail)).append_text harrow).append_text
    (spells_quote head)).append_text h

theorem edgeLines_areLines (g : Graph) (path : String) (n : Node) :
    List.Forall₂ LineOf (edgeLines g path n) (edgeStatements g path n) := by
  refine List.rel_append ?_ ?_
  · exact List.forall₂_map_left_iff.2 (List.forall₂_map_right_iff.2
      (List.forall₂_same.2 fun t _ => edgeLine_isLine rfl))
  · exact List.forall₂_map_left_iff.2 (List.forall₂_map_right_iff.2
      (List.forall₂_same.2 fun c _ => edgeLine_isLine rfl))

/-! ## The text of a graph -/

theorem spells_lines {lines : List String} {ss : List Statement} (h : List.Forall₂ LineOf lines ss) :
    Spells (lines.flatMap fun line => line.toList ++ ['\n'])
      (ss.flatMap fun s => s.tokens ++ [.semicolon]) := by
  induction h with
  | nil => rfl
  | cons hline _ ih =>
    rw [List.flatMap_cons, List.flatMap_cons]
    exact (spells_line hline).append ih

theorem toList_joined_lines {lines : List String} (hne : lines ≠ []) :
    (Text.joined "\n" lines ++ "\n").toList = lines.flatMap fun line => line.toList ++ ['\n'] := by
  induction lines with
  | nil => exact absurd rfl hne
  | cons line lines ih =>
    cases lines with
    | nil => simp [Text.joined]
    | cons second more =>
      rw [List.flatMap_cons, ← ih (List.cons_ne_nil _ _), Text.joined, Text.joined,
        String.intercalate_cons_cons]
      simp

theorem read?_lines {lines : List String} {ss : List Statement} (h : List.Forall₂ LineOf lines ss) :
    read? (Text.joined "\n" (["digraph DocMeta \x7b"] ++ lines ++ ["\x7d"]) ++ "\n") = some ss := by
  have hheader : Spells ("digraph DocMeta \x7b".toList ++ ['\n'])
      [.name "digraph", .name "DocMeta", .openBrace] := rfl
  have hend : Spells ("\x7d".toList ++ ['\n']) [.closeBrace] := rfl
  have hspells := (hheader.append (spells_lines h)).append hend
  rw [read?, tokens?, toList_joined_lines (by simp), List.flatMap_append, List.flatMap_append,
    List.flatMap_singleton, List.flatMap_singleton, hspells]
  exact document?_tokens "DocMeta" ss

theorem nodeLines_areLines {red lines : List String} {entries : List (String × Node)}
    (h : entries.mapM (fun e => nodeLine red e.1 e.2) = .ok lines) :
    List.Forall₂ LineOf lines (entries.map fun e => .node e.1 (nodeAttributes red e.1 e.2)) := by
  induction entries generalizing lines with
  | nil =>
    cases h
    exact .nil
  | cons e entries ih =>
    rw [List.mapM_cons] at h
    obtain ⟨line, hline, h⟩ := bind_eq_ok_iff.1 h
    obtain ⟨more, hmore, h⟩ := bind_eq_ok_iff.1 h
    cases h
    exact .cons (nodeLine_isLine hline) (ih hmore)

end Dot

/-- **The text of a graph is read as its statements.** -/
theorem Graph.read?_dot {g : Graph} {cycles : List (List String)} {text : String}
    (h : g.dot cycles = .ok text) : Dot.read? text = some (g.statements cycles) := by
  rw [dot] at h
  obtain ⟨nodes, hnodes, h⟩ := bind_eq_ok_iff.1 h
  have hedges : List.Forall₂ Dot.LineOf
      (g.nodes.entries.flatMap fun e => Dot.edgeLines g e.1 e.2)
      (g.nodes.entries.flatMap fun e => Dot.edgeStatements g e.1 e.2) := by
    refine List.rel_flatMap (List.forall₂_eq_eq_eq ▸ rfl) ?_
    rintro e _ rfl
    exact Dot.edgeLines_areLines g e.1 e.2
  have hsetting : Dot.LineOf "  rankdir=LR;" (.setting "rankdir" "LR") := rfl
  rw [← Except.ok.inj h]
  exact Dot.read?_lines
    (.cons hsetting (List.rel_append (Dot.nodeLines_areLines hnodes) hedges))

/-! ## What is shown -/

/-- **A file as a drawing shows it**, with the files that it uses and its callers. -/
structure Dot.Shown where
  path : String
  purpose : Json
  uses : List String
  callers : List String
  deriving DecidableEq, Repr

namespace Dot

/-- The head of an edge from the file that is labelled as a use. -/
def use? (path : String) : Statement → Option String
  | .edge tail head attributes =>
    if tail = path ∧ attributes.lookup "label" = some "uses" then some head else none
  | _ => none

/-- The tail of an edge to the file that is labelled as a call. -/
def caller? (path : String) : Statement → Option String
  | .edge tail head attributes =>
    if head = path ∧ attributes.lookup "label" = some "calls" then some tail else none
  | _ => none

/-- The file of a node, among all statements. A file without a tooltip has no purpose to tell. -/
def shownNode? (ss : List Statement) : Statement → Option Shown
  | .node name attributes => some
    { path := name
      purpose := .str ((attributes.lookup "tooltip").getD "")
      uses := ss.filterMap (use? name)
      callers := ss.filterMap (caller? name) }
  | _ => none

/-- **The files that statements show.** -/
def shown (ss : List Statement) : List Shown := ss.filterMap (shownNode? ss)

/-- A file of the graph, as a drawing is to show it: with its edges, and those of its callers that are
files. -/
def shownEntry (g : Graph) (e : String × Node) : Shown where
  path := e.1
  purpose := e.2.purpose
  uses := e.2.edges
  callers := e.2.calledBy.filter g.has

end Dot

/-- **The files of the graph, ascending, as a drawing is to show them.** -/
def Graph.shown (g : Graph) : List Dot.Shown := g.nodes.entries.map (Dot.shownEntry g)

namespace Dot

variable {g : Graph} {cycles : List (List String)} {path : String} {n : Node}

theorem use?_edgeStatements (g : Graph) (path q : String) (n : Node) :
    (edgeStatements g q n).filterMap (use? path) = if q = path then n.edges else [] := by
  rw [edgeStatements, List.filterMap_append, List.filterMap_map, List.filterMap_map]
  by_cases hq : q = path <;> simp [Function.comp_def, use?, hq]

theorem caller?_edgeStatements (g : Graph) (path q : String) (n : Node) :
    (edgeStatements g q n).filterMap (caller? path) =
      if q = path then n.calledBy.filter g.has else [] := by
  rw [edgeStatements, List.filterMap_append, List.filterMap_map, List.filterMap_map]
  by_cases hq : q = path <;> simp [Function.comp_def, caller?, hq]

/-- What is read off the edges alone is read off the edges of each file. -/
theorem filterMap_edges {β : Type} {f : Statement → Option β}
    (hsetting : ∀ key value, f (.setting key value) = none)
    (hnode : ∀ name attributes, f (.node name attributes) = none) :
    (g.statements cycles).filterMap f =
      g.nodes.entries.flatMap fun e => (edgeStatements g e.1 e.2).filterMap f := by
  simp [Graph.statements, hsetting, hnode, List.filterMap_flatMap]

/-- What is read off the nodes alone is read off the node of each file. -/
theorem filterMap_nodes {β : Type} {f : Statement → Option β}
    (hsetting : ∀ key value, f (.setting key value) = none)
    (hedge : ∀ tail head attributes, f (.edge tail head attributes) = none) :
    (g.statements cycles).filterMap f =
      g.nodes.entries.filterMap fun e => f (.node e.1 (nodeAttributes cycles.flatten e.1 e.2)) := by
  have hedges (e : String × Node) : (edgeStatements g e.1 e.2).filterMap f = [] := by
    simp [edgeStatements, hedge]
  simp [Graph.statements, hsetting, hedges, List.filterMap_flatMap, List.filterMap_map]

theorem uses_statements (h : g.node? path = some n) :
    (g.statements cycles).filterMap (use? path) = n.edges := by
  rw [filterMap_edges (fun _ _ => rfl) (fun _ _ => rfl)]
  simp only [use?_edgeStatements]
  exact PathMap.flatMap_at Node.edges h

theorem callers_statements (h : g.node? path = some n) :
    (g.statements cycles).filterMap (caller? path) = n.calledBy.filter g.has := by
  rw [filterMap_edges (fun _ _ => rfl) (fun _ _ => rfl)]
  simp only [caller?_edgeStatements]
  exact PathMap.flatMap_at (fun m => m.calledBy.filter g.has) h

theorem lookup_tooltip (red : List String) (path s : String) (n : Node) (h : n.purpose = .str s) :
    ((nodeAttributes red path n).lookup "tooltip").getD "" = s := by
  rw [nodeAttributes, h, tooltipAttribute]
  by_cases hs : s = "" <;> cases red.contains path <;> simp [hs, List.lookup_cons]

end Dot

/-- **Every purpose of the graph is a text.** -/
def Graph.PurposesAreTexts (g : Graph) : Prop := ∀ e ∈ g.nodes.entries, ∃ s, e.2.purpose = .str s

theorem Graph.shown_statements {g : Graph} (htexts : g.PurposesAreTexts)
    (cycles : List (List String)) : Dot.shown (g.statements cycles) = g.shown := by
  have hfile : ∀ e ∈ g.nodes.entries, Dot.shownNode? (g.statements cycles)
      (.node e.1 (Dot.nodeAttributes cycles.flatten e.1 e.2)) = some (Dot.shownEntry g e) := by
    intro e he
    obtain ⟨s, hs⟩ := htexts e he
    have hnode : g.node? e.1 = some e.2 := PathMap.get?_of_mem he
    rw [Dot.shownNode?, Dot.lookup_tooltip _ _ s _ hs, Dot.uses_statements hnode,
      Dot.callers_statements hnode, Dot.shownEntry, hs]
  rw [Dot.shown, Dot.filterMap_nodes (fun _ _ => rfl) (fun _ _ _ => rfl),
    List.filterMap_congr hfile]
  exact congrFun List.filterMap_eq_map _

/-- **The DOT text of a graph is faithful**, whatever the characters of its paths and purposes. When the
purposes are texts the graph has one, and it is read as statements that show the files, ascending, with
their purposes, the edges of each file in their order, and those of its callers that are files. So it is
the text of no graph that shows anything else. -/
theorem Graph.dot_faithful (g : Graph) (cycles : List (List String)) (htexts : g.PurposesAreTexts) :
    ∃ text ss, g.dot cycles = .ok text ∧ Dot.read? text = some ss ∧ Dot.shown ss = g.shown ∧
      ((Dot.shown ss).map Dot.Shown.path).Pairwise (· < ·) ∧
      ∀ (g' : Graph) (cycles' : List (List String)), g'.PurposesAreTexts →
        g'.dot cycles' = .ok text → g'.shown = g.shown := by
  obtain ⟨text, htext⟩ := (g.exists_dot_iff cycles).2 fun e he hwordless => by
    obtain ⟨s, hs⟩ := htexts e he
    exact hwordless.2 s hs
  have hread := read?_dot htext
  have hshown := shown_statements htexts cycles
  have hpaths : (g.shown.map Dot.Shown.path).Pairwise (· < ·) := by
    rw [shown, List.map_map]
    exact g.nodes.paths_ascending
  refine ⟨text, _, htext, hread, hshown, hshown ▸ hpaths, fun g' cycles' htexts' htext' => ?_⟩
  -- both graphs are shown by the statements of the one text
  have hsame : g'.statements cycles' = g.statements cycles :=
    Option.some.inj ((read?_dot htext').symm.trans hread)
  rw [← shown_statements htexts' cycles', hsame, hshown]

/-- Two files whose names and purposes look like DOT. -/
def markedRecord : Record :=
  { location := ⟨.top, ["s"]⟩
    folder := "/"
    before := []
    files :=
      [("a\"];\n", [("purpose", .str "\" -> \"b\\"), ("uses", .arr [.str "./b\\"])]),
        ("b\\", [("calledBy", .arr [.str "/a\"];\n", .str "elsewhere"])])]
    after := [] }

theorem Graph.dot_faithful_marked :
    let g := (build { root := "/", aliases := .standard } [markedRecord]).graph
    g.PurposesAreTexts ∧ ∃ text ss, g.dot [] = .ok text ∧ Dot.read? text = some ss ∧
      Dot.shown ss = [⟨"/a\"];\n", .str "\" -> \"b\\", ["/b\\"], []⟩,
        ⟨"/b\\", .str "", [], ["/a\"];\n"]⟩] := by
  intro g
  have hgraph : g = (Graph.index { root := "/", aliases := .standard }
      (markedRecord.claims 0)).link := graph_build_singleton _ _
  have hshown : g.shown = [⟨"/a\"];\n", .str "\" -> \"b\\", ["/b\\"], []⟩,
      ⟨"/b\\", .str "", [], ["/a\"];\n"]⟩] := by
    rw [hgraph]
    decide +kernel
  have htexts : g.PurposesAreTexts := by
    intro e he
    have hmem : Dot.shownEntry g e ∈ g.shown := List.mem_map_of_mem he
    rw [hshown] at hmem
    rcases List.mem_pair.1 hmem with h | h
    · exact ⟨_, congrArg Dot.Shown.purpose h⟩
    · exact ⟨_, congrArg Dot.Shown.purpose h⟩
  obtain ⟨text, ss, hdot, hread, hss, -⟩ := g.dot_faithful [] htexts
  exact ⟨htexts, text, ss, hdot, hread, hss.trans hshown⟩

end UsageGraph
