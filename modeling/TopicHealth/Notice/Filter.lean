import TopicHealth.Notice.Directive

/-!
# Filters

A filter says which notices are written. It is a list of directives; of those that concern a notice the one that fits
most closely decides. The text of a filter is a list of directives with commas between them.
-/

namespace TopicHealth

/-- Which notices are written. -/
structure Filter where
  directives : List Directive
deriving DecidableEq, Repr

namespace Filter

/-- The filter that is used when none is given or the one given cannot be read. -/
def standard : Filter := ⟨[{ level := some .info }]⟩

/-- Reads a filter. One without directives lets errors through. -/
def parse (text : String) : Except Directive.Fault Filter := do
  let directives ← ((Directive.splitAt ',' text.toList).filter fun part => !part.isEmpty).mapM Directive.parse
  return ⟨if directives.isEmpty then [{ level := some .error }] else directives⟩

/-- The directive that decides on a notice; the later one of two that fit equally. -/
def deciding? (f : Filter) (n : Notice) : Option Directive :=
  (f.directives.filter fun d => d.concerns n).foldl (fun best d =>
    match best with
    | some b => if (b.precision d).isGT then some b else some d
    | none => some d) none

/-- Whether a notice is written. -/
def passes (f : Filter) (n : Notice) : Bool :=
  ((f.deciding? n).bind Directive.level).any fun level => level.rank ≤ n.level.rank

end Filter

end TopicHealth
