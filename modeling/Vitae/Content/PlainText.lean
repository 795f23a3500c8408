import Vitae.Content.Node
import Vitae.Text.Blank
import Vitae.Text.Casing

/-!
The plain text of content: inline nodes give their visible text, blocks one line for each row.
-/

namespace Vitae.Node

/-- Two fields of a row, with a comma only where both say something. -/
def joinFields (left right : String) : String :=
  if left.isEmpty then right else if right.isEmpty then left else left ++ ", " ++ right

def joinRows (first second : String) : String :=
  if first.isEmpty then second else if second.isEmpty then first else first ++ "\n" ++ second

/-- The lines of a mixed sequence. A run of inline texts, marked `true`, is one line and counts only if it
shows anything; a block stands on its own. `line` is the run so far. -/
def blockLines (line : String) : List (Bool × String) → List String
  | [] => if line.isBlank then [] else [line.trimmed]
  | (true, shown) :: rest => blockLines (line ++ shown) rest
  | (false, shown) :: rest => (if line.isBlank then [] else [line.trimmed]) ++ shown :: blockLines "" rest

mutual

def plainText : Node → String
  | .text value => value
  | .lineBreak => "\n"
  | .separator => " | "
  | .styled _ child => plainText child
  | .link _ label => plainText label
  | .fragment children => String.join ((plainTexts children).map (·.2))
  | .header name contactLines _ =>
    if contactLines.isEmpty then name else name ++ "\n" ++ " | ".intercalate contactLines
  | .titled title body =>
    let content := "\n".intercalate (blockLines "" (plainTexts body))
    if content.isEmpty then title.inUpperCase else title.inUpperCase ++ "\n" ++ content
  | .entry primary secondary tertiary quaternary =>
    joinRows (joinFields (plainText primary) (plainText secondary))
      (joinFields (plainText tertiary) (plainText quaternary))
  | .itemList bulleted items =>
    "\n".intercalate ((plainTexts items).map fun item => if bulleted then "- " ++ item.2 else item.2)
  | .columnGroup columns => "\n\n".intercalate ((plainTexts columns).map (·.2))
  | .centered body => "\n".intercalate (blockLines "" (plainTexts body))
termination_by structural node => node

/-- The plain text of each node, and whether it flows in a line. -/
def plainTexts : List Node → List (Bool × String)
  | [] => []
  | node :: rest => (node.isInline, plainText node) :: plainTexts rest
termination_by structural nodes => nodes

end

end Vitae.Node
