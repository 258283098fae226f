import CoursePage.Files.Disk
import CoursePage.Main
import CoursePage.Selector.Printer
import CoursePage.Proofs.Ready
import CoursePage.Proofs.Rename
import CoursePage.Proofs.Tabs
import CoursePage.Proofs.ChildLists
import CoursePage.Proofs.DocumentOrder
import CoursePage.Proofs.Kin
import CoursePage.Proofs.Place
import CoursePage.Proofs.Mirror
import CoursePage.Proofs.Matching
import CoursePage.Proofs.Printed
import CoursePage.Proofs.SideBySide
import CoursePage.Proofs.Commute
import CoursePage.Proofs.Aside
import CoursePage.Proofs.Indistinct
import CoursePage.Proofs.Calls
import CoursePage.Proofs.IdIndex
import CoursePage.Proofs.Nested
import CoursePage.Proofs.NoNode
import CoursePage.Proofs.Label
import CoursePage.Proofs.Wrapping
import CoursePage.Proofs.Declared
import CoursePage.Proofs.AsciiKept
import CoursePage.Proofs.WaysIn
import CoursePage.Proofs.Untouched
import CoursePage.Proofs.TakenIds
import CoursePage.Proofs.Fostering
import CoursePage.Proofs.Rerun
import CoursePage.Proofs.TabMarkup
import CoursePage.Proofs.Settled
import CoursePage.Proofs.IdsKept
import CoursePage.Proofs.ClassEdits
import CoursePage.Proofs.Neighbours
import CoursePage.Proofs.OwnNames
import CoursePage.Proofs.Redeclared
import CoursePage.Proofs.TextPieces
import CoursePage.Proofs.UnendedLabel
import CoursePage.Proofs.ClassTokens
