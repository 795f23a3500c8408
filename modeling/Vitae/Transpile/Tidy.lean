import Vitae.Content.Node
import Vitae.Text.Blank

/-!
Tidy sequences. Adjacent texts are one, white space is single spaces, and none is left at either end of
the sequence or next to a block, a line break or a separator; text that holds nothing else disappears.
-/

namespace Vitae.Node

/-- Holds where text keeps the space between it and the node. -/
def flowsWithText : Node → Bool
  | .text .. | .styled .. | .link .. => true
  | _ => false

def mergeTexts : List Node → List Node
  | [] => []
  | .text value :: rest =>
    match mergeTexts rest with
    | .text next :: later => .text (value ++ next) :: later
    | later => .text value :: later
  | node :: rest => node :: mergeTexts rest

/-- The characters of a text with single spaces, kept at an end only where the neighbour flows. -/
def tidyText (before after : Bool) (value : List Char) : List Char :=
  let collapsed := Text.collapseSpaces false value
  let shortened := if after then collapsed else Text.dropTrailing (· == ' ') collapsed
  if before then shortened else shortened.dropWhile (· == ' ')

/-- Tidies merged nodes; `before` tells whether the node in front of them flows with text. -/
def tidyTexts (before : Bool) : List Node → List Node
  | [] => []
  | .text value :: rest =>
    match tidyText before (rest.head?.any flowsWithText) value.toList with
    | [] => tidyTexts true rest
    | shown => .text (.ofList shown) :: tidyTexts true rest
  | node :: rest => node :: tidyTexts node.flowsWithText rest

def tidy (nodes : List Node) : List Node :=
  tidyTexts false (mergeTexts nodes)

end Vitae.Node
