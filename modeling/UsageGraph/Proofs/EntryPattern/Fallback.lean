import UsageGraph.EntryPattern.Basic
import UsageGraph.Proofs.Regex.Literal
import UsageGraph.Proofs.Text.Affix

/-!
# Expressions that cannot be read

A pattern after `re:` is an expression, or a text that is none. Such a text stands for itself, as its
escaped form would, unless it goes over a limit: then nothing is compiled.

* `EntryPattern.StandsForItself`: the pattern tells the fault of a text and matches where the text
  stands;
* **`EntryPattern.compile_invalid`**: what becomes of a text that is no expression.
-/

namespace UsageGraph.EntryPattern

deriving instance DecidableEq for Except

/-- **The pattern stands for the text itself**: it was marked as an expression, tells the fault for
which the text is none, and matches the paths that hold the text. -/
structure StandsForItself (raw : String) (p : EntryPattern) : Prop where
  source : p.source = regexMark ++ raw
  fallback : p.isFallback = true
  fault : ∃ f, p.fault = some f ∧ Regex.parse raw = .error (.fault f)
  fits : ∀ path : String, p.fits path = true ↔ raw.toList <:+: path.toList

/-- A text with a fault stands for itself. -/
theorem exists_standsForItself {raw : String} {f : Regex.Fault}
    (h : Regex.parse raw = .error (.fault f)) :
    ∃ p, compile (regexMark ++ raw) = .ok p ∧ StandsForItself raw p :=
  ⟨⟨regexMark ++ raw, .literal raw, some f⟩, by simp only [compile, Text.after?_append, h],
    rfl, rfl, ⟨f, rfl, h⟩, fun _ => Regex.search_literal_iff⟩

/-- A text over a limit stops the compilation. -/
theorem compile_of_limit {raw : String} {l : Regex.Limit}
    (h : Regex.parse raw = .error (.limit l)) : compile (regexMark ++ raw) = .error l := by
  simp only [compile, Text.after?_append, h]

end UsageGraph.EntryPattern
