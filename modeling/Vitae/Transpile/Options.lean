import Vitae.Markup.Normal

/-!
What can be chosen about turning markup into content.
-/

namespace Vitae

/-- What becomes of an entry with fewer than four arguments: empty fields are added, or it is left out. -/
inductive EntryPolicy where
  | degrade
  | drop
deriving DecidableEq, Inhabited

structure TranspileOptions where
  normal : Markup.NormalOptions := {}
  malformedEntries : EntryPolicy := .degrade
  /-- Keep the argument of an unknown command as content. -/
  unwrapUnknown : Bool := true
  /-- Turn dashes, ties and quotes into typographic characters. -/
  typography : Bool := true
  /-- Groups nested deeper than this are flattened to text. -/
  maxDepth : Nat := 64

/-- Some nesting is always allowed. -/
def TranspileOptions.withMaxDepth (options : TranspileOptions) (depth : Nat) : TranspileOptions :=
  { options with maxDepth := max depth 1 }

end Vitae
