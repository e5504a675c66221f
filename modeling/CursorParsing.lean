import CursorParsing.Main
import CursorParsing.PublicNames
import CursorParsing.Proofs.Suffix
import CursorParsing.Proofs.Locality
import CursorParsing.Proofs.Invariants
import CursorParsing.Proofs.Invocations
import CursorParsing.Proofs.Faults
import CursorParsing.Proofs.Provenance
import CursorParsing.Proofs.Tracing
import CursorParsing.Proofs.Omission
import CursorParsing.Proofs.Transparency
import CursorParsing.Proofs.Finishing
import CursorParsing.Proofs.Guardedness
import CursorParsing.Proofs.Rows
import CursorParsing.Proofs.Sequencing
import CursorParsing.Proofs.Termination
import CursorParsing.Proofs.Composition
import CursorParsing.Proofs.Chains
import CursorParsing.Proofs.Repetition
import CursorParsing.Proofs.ContactCards
import CursorParsing.Proofs.Choices
import CursorParsing.Proofs.Monoids
import CursorParsing.Proofs.Numerals
import CursorParsing.Proofs.NestedLists
import CursorParsing.Proofs.NumberBodies
import CursorParsing.Proofs.LenientReading
import CursorParsing.Proofs.DecimalNumbers
import CursorParsing.Proofs.DecimalValues
import CursorParsing.Proofs.NegativeNumbers
import CursorParsing.Proofs.Grouping
import CursorParsing.Proofs.StrictReading
import CursorParsing.Proofs.ReducedDecimals
import CursorParsing.Proofs.WrittenNumbers
import CursorParsing.Proofs.Literals
import CursorParsing.Proofs.BinaryNumbers
import CursorParsing.Proofs.SpaceVariants
import CursorParsing.Proofs.CursorFaults
import CursorParsing.Proofs.LongestTexts
import CursorParsing.Proofs.LongestRuns
import CursorParsing.Proofs.NestedBrackets
import CursorParsing.Proofs.Advancing
import CursorParsing.Proofs.LookingAhead
import CursorParsing.Proofs.Utf8Reading
import CursorParsing.Proofs.Snippets
