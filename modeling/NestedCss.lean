import NestedCss.Main
import NestedCss.Proofs.Assembly
import NestedCss.Proofs.Cache
import NestedCss.Proofs.Pool
import NestedCss.Proofs.Collection
import NestedCss.Proofs.Comments
import NestedCss.Proofs.CompileError
import NestedCss.Proofs.ErrorPlace
import NestedCss.Proofs.Fold
import NestedCss.Proofs.NestedSheet
import NestedCss.Proofs.NormalForm
import NestedCss.Proofs.Path
import NestedCss.Proofs.Placements
import NestedCss.Proofs.Pretty
import NestedCss.Proofs.Printer
import NestedCss.Proofs.Recompilation
import NestedCss.Proofs.Relabelling
import NestedCss.Proofs.Scanner
import NestedCss.Proofs.Selector
import NestedCss.Proofs.Spacing
import NestedCss.Proofs.Token
import NestedCss.Proofs.Watch
import NestedCss.Stylesheet.Session
import NestedCss.Proofs.DataUri
import NestedCss.Proofs.MediaList
import NestedCss.Proofs.SelectorScan
import NestedCss.Proofs.Hollow
import NestedCss.Proofs.Alternatives
import NestedCss.Proofs.TreeSelectors
import NestedCss.Proofs.SelectorGaps
import NestedCss.Proofs.Segments
import NestedCss.Proofs.Sanitizing
import NestedCss.Proofs.Offsets
import NestedCss.Proofs.Resanitizing
import NestedCss.Proofs.Delivery
import NestedCss.Proofs.TokenQuotes
import NestedCss.Proofs.SheetGrammar
import NestedCss.Proofs.TreeShape
import NestedCss.Proofs.Buckets
import NestedCss.Proofs.Grouping
import NestedCss.Proofs.MergedTree
import NestedCss.Proofs.Minifying
import NestedCss.Proofs.Nesting
import NestedCss.Proofs.SelectorKeys
import NestedCss.Proofs.IdentifierRunes
import NestedCss.Proofs.SelectorUnion
import NestedCss.Proofs.CustomNames
import NestedCss.Proofs.Rewrapping
import NestedCss.Proofs.Conversion
import NestedCss.Proofs.Substitution
import NestedCss.Proofs.Decoding
import NestedCss.Proofs.CommonBase
import NestedCss.Proofs.DecodedText
import NestedCss.Proofs.ArchiveEntries
import NestedCss.Proofs.NaturalOrder
import NestedCss.Proofs.SourceOrder
import NestedCss.Proofs.Refilling
import NestedCss.Proofs.Repacking
import NestedCss.Proofs.NormalSelectors
import NestedCss.Proofs.InertComments
import NestedCss.Proofs.ReportEntries
import NestedCss.Proofs.Arguments
