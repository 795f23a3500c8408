import Vitae.Content.Tree
import Vitae.Markup.Construct
import Vitae.Transpile.Options
import Vitae.Transpile.Tidy
import Vitae.Transpile.Warning

/-!
From constructs to content. Each construct becomes parts, nodes and section headings, by transpiling the
markup inside it one level deeper; the parts of a sequence then gather under their headings and are tidied.
Markup below the last level is reduced to its visible text.
-/

namespace Vitae.Transpile

open Markup

/-- One element of a sequence before its sections are formed. -/
inductive Part where
  | node (node : Node)
  | heading (title : String)

/-- The nodes before the first heading, still untidy, and the sections from there on. -/
def gather : List Part → List Node × List Node
  | [] => ([], [])
  | .node node :: rest => (node :: (gather rest).1, (gather rest).2)
  | .heading title :: rest => ([], .titled title (Node.tidy (gather rest).1) :: (gather rest).2)

def arrange (parts : List Part) : List Node :=
  Node.tidy (gather parts).1 ++ (gather parts).2

/-- Typographic characters for dashes, ties and doubled quotes. -/
def typeset : List Char → List Char
  | '-' :: '-' :: '-' :: rest => '—' :: typeset rest
  | '-' :: '-' :: rest => '—' :: typeset rest
  | '~' :: rest => '\u00A0' :: typeset rest
  | '\x60' :: '\x60' :: rest => '“' :: typeset rest
  | '\x27' :: '\x27' :: rest => '”' :: typeset rest
  | c :: rest => c :: typeset rest
  | [] => []

theorem mem_typeset {c : Char} {text : List Char} (member : c ∈ typeset text) :
    c ∈ text ∨ c ∈ ['—', '\u00A0', '“', '”'] := by
  have next {set d : Char} {rest : List Char} (ih : c ∈ typeset rest → c ∈ rest ∨ c ∈ ['—', '\u00A0', '“', '”'])
      (origin : set = d ∨ set ∈ ['—', '\u00A0', '“', '”']) (member : c ∈ set :: typeset rest) :
      c ∈ d :: rest ∨ c ∈ ['—', '\u00A0', '“', '”'] := by
    rcases List.mem_cons.mp member with rfl | later
    · exact origin.imp_left fun same => by simp [same]
    · exact (ih later).imp_left (List.mem_cons_of_mem _)
  fun_induction typeset text with
  | case1 rest ih => exact (next ih (.inr (by simp)) member).imp_left fun later => .tail '-' (.tail '-' later)
  | case2 rest _ ih => exact (next ih (.inr (by simp)) member).imp_left (List.mem_cons_of_mem '-')
  | case3 rest ih => exact next ih (.inr (by simp)) member
  | case4 rest ih => exact (next ih (.inr (by simp)) member).imp_left (List.mem_cons_of_mem '\x60')
  | case5 rest ih => exact (next ih (.inr (by simp)) member).imp_left (List.mem_cons_of_mem '\x27')
  | case6 d rest _ _ _ _ _ ih => exact next ih (.inl rfl) member
  | case7 => exact .inl member

def isAsciiPunctuation (c : Char) : Bool :=
  '!' ≤ c && c ≤ '~' && !c.isAlphanum

/-- A link target with escaped punctuation resolved. -/
def unescapeTarget : List Char → List Char
  | '\\' :: c :: rest =>
    if isAsciiPunctuation c then c :: unescapeTarget rest else '\\' :: unescapeTarget (c :: rest)
  | c :: rest => c :: unescapeTarget rest
  | [] => []

def target (argument : Enclosed) : String :=
  .ofList (unescapeTarget (Text.trim argument.inner))

/-- What a reader sees of markup: the text of symbols and marks, without commands and braces. -/
def visible (text : List Char) : List Char :=
  match text with
  | [] => []
  | c :: rest =>
    if c = '\\' then
      match _found : command? (c :: rest) with
      | some command => ((symbol? command.name).getD "").toList ++ visible command.rest
      | none => visible rest
    else if c = lineBreakMark then ' ' :: visible rest
    else if c = separatorMark then ' ' :: '|' :: ' ' :: visible rest
    else if c = '\x7b' ∨ c = '\x7d' ∨ c = '$' then visible rest
    else c :: visible rest
termination_by text.length
decreasing_by
  · exact (length_command? _found).1
  all_goals simp

def flattened (text : List Char) : List Node :=
  match Text.words Text.isAsciiSpace (visible text) with
  | [] => []
  | words => [.text (.ofList ([' '].intercalate words))]

/-- The nodes of a list of contacts between line breaks and separators. -/
def contactSegments : List Node → List (List Node)
  | [] => [[]]
  | .lineBreak :: rest | .separator :: rest => [] :: contactSegments rest
  | node :: rest =>
    match contactSegments rest with
    | [] => [[node]]
    | segment :: later => (node :: segment) :: later

/-- A header with the contacts that show anything. -/
def headerOf (name : String) (nodes : List Node) : Node :=
  let contacts := (contactSegments nodes).map fun segment => Node.collapse (Node.tidy segment)
  let shown := contacts.filter fun contact => !contact.plainText.isBlank
  .header name (shown.map (·.plainText.trimmed)) shown

def centeredRun (run : List Node) : List Node :=
  match Node.tidy run with
  | [] => []
  | body => [.centered body]

/-- The nodes before the first header, and what follows them once every run between headers is
centered. -/
def centerRuns : List Node → List Node × List Node
  | [] => ([], [])
  | .header name lines contacts :: rest =>
    ([], .header name lines contacts :: (centeredRun (centerRuns rest).1 ++ (centerRuns rest).2))
  | node :: rest => (node :: (centerRuns rest).1, (centerRuns rest).2)

def centered (nodes : List Node) : List Node :=
  centeredRun (centerRuns nodes).1 ++ (centerRuns nodes).2

section

variable (options : TranspileOptions) (inner : List Char → Noted (List Node))

def noteUnclosed (content : Enclosed) : Noted Unit :=
  unless content.closed do .warn .unclosedGroup

/-- The nodes of an argument. -/
def argumentNodes (argument : Enclosed) : Noted (List Node) := do
  noteUnclosed argument
  inner argument.inner

def slot (argument : Enclosed) : Noted Node :=
  return .collapse (← argumentNodes inner argument)

def blockBody (opening : List Char) (body : Enclosed) : Noted (List Char) := do
  unless body.closed do .warn (.unclosedBlock opening)
  return body.inner

def styledParts (style : SpanStyle) (nodes : List Node) : List Part :=
  let child := Node.collapse nodes
  if child.isEmpty then [] else [.node (.styled style child)]

def nodeParts (nodes : List Node) : List Part :=
  nodes.map .node

def itemNodes (body : List Char) : Noted (List Node) := do
  let split := splitItems body
  let lead ← inner split.lead
  let first ← if lead.isEmpty then pure [] else do
    .warn .contentBeforeItems
    pure [Node.collapse lead]
  let items ← split.items.mapM fun item => return Node.collapse (← inner item)
  return first ++ items

def minipageOpening : List Char :=
  "\\begin\x7bminipage\x7d".toList

def minipageNode (body : Enclosed) : Noted Node := do
  return .collapse (← inner (← blockBody minipageOpening body))

def columnNodes : Column → Noted (List Node)
  | .stray text => do
    let nodes ← inner text
    return if nodes.isEmpty then [] else [.collapse nodes]
  | .minipage body => return [← minipageNode inner body]

def centerNodes (body : List Char) : Noted (List Node) := do
  if holdsEnvironment minipageName body then
    return [.columnGroup (← (columns body body).mapM (columnNodes inner)).flatten]
  else return centered (← inner body)

def linkParts (href : String) (label : Node) : List Part :=
  [.node (.link href label)]

/-- What a construct becomes, given how the markup inside it is transpiled. -/
def elaborated : Construct → Noted (List Part)
  | .run text => return [.node (.text (.ofList (if options.typography then typeset text else text)))]
  | .symbol text => return [.node (.text text)]
  | .lineBreak => return [.node .lineBreak]
  | .separator => return [.node .separator]
  | .silent => return []
  | .unmatchedBrace => do
    .warn .unmatchedBrace
    return []
  | .group content => return nodeParts (← argumentNodes inner content)
  | .styled _ style (some argument) => return styledParts style (← argumentNodes inner argument)
  | .styled command _ none => do
    .warn (.withoutArgument command)
    return []
  | .banner argument name contacts => do
    noteUnclosed argument
    let title := (Node.collapse (← inner name)).plainText.trimmed
    return [.node (headerOf title (← inner contacts))]
  | .declaration color? style scope => do
    if let some color := color? then noteUnclosed color
    let nodes ← inner scope
    return if nodes.all (·.isInline) then styledParts style nodes else nodeParts nodes
  | .color (some argument) => do
    noteUnclosed argument
    return []
  | .color none => do
    .warn .colorWithoutName
    return []
  | .heading (some title) => return [.heading (← slot inner title).plainText.trimmed]
  | .heading none => do
    .warn .sectionWithoutTitle
    return [.heading ""]
  | .href none _ => do
    .warn (.linkWithoutTarget "href")
    return []
  | .href (some argument) label? => do
    noteUnclosed argument
    match label? with
    | some label => return linkParts (target argument) (← slot inner label)
    | none =>
      .warn (.linkWithoutLabel (target argument))
      return linkParts (target argument) (.text (target argument))
  | .url (some argument) => do
    noteUnclosed argument
    return linkParts (target argument) (.text (target argument))
  | .url none => do
    .warn (.linkWithoutTarget "url")
    return []
  | .entry arguments => do
    let fields ← arguments.mapM (slot inner)
    if fields.length < 4 then
      .warn (.incompleteEntry fields.length)
      if options.malformedEntries = .drop then return []
    return [.node (.entryOf fields)]
  | .looseItems arguments => do
    let items ← arguments.mapM fun
      | some argument => return [← slot inner argument]
      | none => do
        .warn (.withoutArgument "resumeItem")
        return []
    return if items.flatten.isEmpty then [] else [.node (.itemList true items.flatten)]
  | .list opening bulleted body => do
    return [.node (.itemList bulleted (← itemNodes inner (← blockBody opening body)))]
  | .minipages bodies => return [.node (.columnGroup (← bodies.mapM (minipageNode inner)))]
  | .center body => do
    return nodeParts (← centerNodes inner (← blockBody "\\begin\x7bcenter\x7d".toList body))
  | .document body => do
    return nodeParts (← inner (← blockBody "\\begin\x7bdocument\x7d".toList body))
  | .environment name body => do
    let content ← blockBody ("\\begin\x7b".toList ++ name ++ ['\x7d']) body
    .warn (.unknownEnvironment name)
    return nodeParts (← inner content)
  | .unnamedBegin => do
    .warn .unnamedBegin
    return []
  | .unmatchedEnd name => do
    .warn (.unmatchedEnd name)
    return []
  | .unmatchedListEnd => do
    .warn .unmatchedListEnd
    return []
  | .itemOutsideList => do
    .warn .itemOutsideList
    return []
  | .unknown command (some argument) => do
    noteUnclosed argument
    .warn (.unknownCommand command options.unwrapUnknown)
    if options.unwrapUnknown then return nodeParts (← inner argument.inner) else return []
  | .unknown _ none => return []

end

/-- The content of a text with `levels` levels left. -/
def sequence (options : TranspileOptions) : (levels : Nat) → (top : Bool) → List Char → Noted (List Node)
  | 0, _, text => do
    .warn (.tooDeep options.maxDepth)
    return flattened text
  | levels + 1, top, text => do
    let parts ← (constructs top text).mapM (elaborated options (sequence options levels false))
    return arrange parts.flatten

end Transpile

/-- The content of markup in normal form. -/
def transpile (options : TranspileOptions) (normal : String) : Document :=
  let result := Transpile.sequence options (options.maxDepth + 1) true normal.toList
  ⟨result.value, result.warnings.map Warning.message⟩

def parse (options : TranspileOptions) (markup : String) : Document :=
  transpile options (Markup.normalize options.normal markup)

end Vitae
