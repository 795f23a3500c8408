import Vitae.CommandLine.Directory
import Vitae.Main
import Vitae.Resume
import Vitae.Proofs.Erasure
import Vitae.Proofs.SteadyText
import Vitae.Proofs.Outline
import Vitae.Proofs.NormalForm
import Vitae.Proofs.Balance
import Vitae.Proofs.Walk
import Vitae.Proofs.Notation
import Vitae.Proofs.ItemList
import Vitae.Proofs.Written
import Vitae.Proofs.Fidelity
import Vitae.Proofs.OpenBraces
import Vitae.Proofs.UnclosedGroup
import Vitae.Proofs.HtmlGrammar
import Vitae.Proofs.HtmlOutput
import Vitae.Proofs.HtmlReading
import Vitae.Proofs.HtmlText
import Vitae.Proofs.BuiltContent
import Vitae.Proofs.SiblingForm
import Vitae.Proofs.TreeForm
import Vitae.Proofs.SkippedSections
import Vitae.Proofs.SealedText
import Vitae.Proofs.SealedConstruct
import Vitae.Proofs.SectionLocality
import Vitae.Proofs.JsonText
import Vitae.Proofs.JsonContent
import Vitae.Proofs.RenderedCounts
import Vitae.Proofs.InertText
import Vitae.Proofs.EscapedText
import Vitae.Proofs.NestedSections
import Vitae.Proofs.Nesting
import Vitae.Proofs.ReadableJson
import Vitae.Proofs.TreeHeight
import Vitae.Proofs.QuietMarkup
import Vitae.Proofs.ComposedText
import Vitae.Proofs.ComposedMarks
import Vitae.Proofs.LineBreakCount
import Vitae.Proofs.NormalMarkup
import Vitae.Proofs.AlikeWalks
import Vitae.Proofs.OutputAgreement
import Vitae.Proofs.HiddenSections
import Vitae.Proofs.PrintedLinks
import Vitae.Proofs.LinkTargets
import Vitae.Proofs.MarkedText
import Vitae.Proofs.MetConstructs
import Vitae.Proofs.MarkedTree
import Vitae.Proofs.MarkLeaks
import Vitae.Proofs.EscapedDeclarations
import Vitae.Proofs.ListOrder
import Vitae.Proofs.ColumnSeams
import Vitae.Proofs.GluedLists
import Vitae.Proofs.EscapedTargets
import Vitae.Proofs.MarkdownCounts
import Vitae.Proofs.GroupedText
import Vitae.Proofs.ShorterParts
import Vitae.Proofs.ReadingSteps
import Vitae.Proofs.WrappedMarkup
import Vitae.Proofs.EntryGroups
import Vitae.Proofs.Visitors
import Vitae.Proofs.Consultations
import Vitae.Proofs.AnchorTargets
import Vitae.Proofs.WholeText
import Vitae.Proofs.ClosingCommands
import Vitae.Proofs.ItemPartition
import Vitae.Proofs.ShrinkingCalls
import Vitae.Proofs.LineStarts
import Vitae.Proofs.TextGaps
import Vitae.Proofs.ColumnTiling
import Vitae.Proofs.ByteOffsets
