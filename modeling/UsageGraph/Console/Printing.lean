import UsageGraph.Console.Block

/-!
# Printing

Printing adds blocks to a transcript, and stops at a text that cannot be shown; what was printed
before stays.
-/

namespace UsageGraph

/-- Why printing stopped. -/
inductive PrintFault where
  | markup (fault : Markup.Fault)
  | purposeNotText (path : String)
  deriving DecidableEq, Repr

/-- **A computation that prints**, and may stop. -/
abbrev Printing := ExceptT PrintFault (StateM Transcript)

namespace Printing

/-- Prints a block. -/
def block (b : Block) : Printing Unit := modify (· ++ [b])

/-- What a markup shows. -/
def shown (markup : String) : Printing String :=
  match Markup.plain markup with
  | .ok s => return s
  | .error e => throw (.markup e)

/-- **Prints a text with markup** on lines of its own. -/
def say (markup : String) : Printing Unit := do block (.text (← shown markup))

/-- Prints a table whose texts have markup. -/
def sayTable (t : Table) : Printing Unit := do
  let rows ← t.rows.mapM fun r => r.mapM shown
  block (.table { t with title := ← shown t.title, rows := rows })

end Printing

end UsageGraph
