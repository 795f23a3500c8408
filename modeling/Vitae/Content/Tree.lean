import Vitae.Content.PlainText

/-!
Whole resumes: the nodes of the top level, and a document, which also holds what could not be classified
on the way to them.
-/

namespace Vitae

abbrev Tree := List Node

namespace Tree

/-- Every node, parents first. -/
def walk (tree : Tree) : List Node :=
  Node.walkAll tree

def ofKind (tree : Tree) (kind : NodeKind) : List Node :=
  (walk tree).filter (·.kind = kind)

def header? (tree : Tree) : Option Node :=
  (ofKind tree .header).head?

def sectionTitles (tree : Tree) : List String :=
  (walk tree).filterMap fun
    | .titled title _ => some title
    | _ => none

def plainText (tree : Tree) : String :=
  "\n\n".intercalate (Node.blockLines "" (Node.plainTexts tree))

end Tree

structure Document where
  tree : Tree := []
  warnings : List String := []
deriving Inhabited

namespace Document

def hasWarnings (document : Document) : Bool :=
  !document.warnings.isEmpty

/-- Plain text without white space at either end. -/
def toText (document : Document) : String :=
  (Tree.plainText document.tree).trimmed

end Document

end Vitae
