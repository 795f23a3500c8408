import Vitae.Content.Tree

/-!
Counts over content: how many nodes of the countable kinds, how many words, and how many characters that
are not white space.
-/

namespace Vitae

structure TreeStats where
  sectionCount : Nat := 0
  entryCount : Nat := 0
  listCount : Nat := 0
  listItemCount : Nat := 0
  columnGroupCount : Nat := 0
  linkCount : Nat := 0
  wordCount : Nat := 0
  charCount : Nat := 0
  warningCount : Nat := 0
deriving DecidableEq, Inhabited

namespace TreeStats

def countText (stats : TreeStats) (text : String) : TreeStats :=
  { stats with
    wordCount := stats.wordCount + (Text.words Text.isSpace text.toList).length
    charCount := stats.charCount + text.toList.countP fun c => !Text.isSpace c }

/-- Counts one node and the text it holds itself, not its children. -/
def addNode (stats : TreeStats) : Node → TreeStats
  | .text value => stats.countText value
  | .header name _ _ => stats.countText name
  | .titled title _ =>
    let counted := stats.countText title
    { counted with sectionCount := counted.sectionCount + 1 }
  | .entry .. => { stats with entryCount := stats.entryCount + 1 }
  | .itemList _ items =>
    { stats with listCount := stats.listCount + 1, listItemCount := stats.listItemCount + items.length }
  | .columnGroup _ => { stats with columnGroupCount := stats.columnGroupCount + 1 }
  | .link .. => { stats with linkCount := stats.linkCount + 1 }
  | _ => stats

def ofTree (tree : Tree) : TreeStats :=
  (Tree.walk tree).foldl addNode {}

end TreeStats

end Vitae
