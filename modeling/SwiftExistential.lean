import SwiftExistential.Main
import SwiftExistential.PatternCache
import SwiftExistential.Proofs.Cleanup.Tokens
import SwiftExistential.Proofs.Feedback.Convergence
import SwiftExistential.Proofs.Fixup.PerLine
import SwiftExistential.Proofs.Text.Tokens
import SwiftExistential.Proofs.Pattern.Spans
import SwiftExistential.Proofs.Pattern.Locality
import SwiftExistential.Proofs.SitePatch.Fits
import SwiftExistential.Proofs.SitePatch.SecondRun
import SwiftExistential.Proofs.Cleanup.Parts
import SwiftExistential.Proofs.Cleanup.Shapes
import SwiftExistential.Proofs.Cleanup.Reading
import SwiftExistential.Proofs.Cleanup.Places
import SwiftExistential.Proofs.Cleanup.Keeping
import SwiftExistential.Proofs.Cleanup.Removing
import SwiftExistential.Proofs.Cleanup.NormalForm
import SwiftExistential.Proofs.FileTree.Frame
import SwiftExistential.Proofs.SourceFile.Session
import SwiftExistential.Proofs.Guard.Admission
import SwiftExistential.Proofs.Feedback.Invariant
import SwiftExistential.Proofs.Feedback.Changes
import SwiftExistential.Proofs.Feedback.GivenUp
import SwiftExistential.Proofs.Cleanup.LineEnds
import SwiftExistential.Proofs.Diagnostic.Located
import SwiftExistential.Proofs.Diagnostic.Parsing
import SwiftExistential.Proofs.Registry.FirstWriter
import SwiftExistential.Proofs.FileTree.Canonical
import SwiftExistential.Proofs.FileTree.Reach
import SwiftExistential.Proofs.Sources.Listing
import SwiftExistential.Proofs.Registry.Discovery
import SwiftExistential.Proofs.Migration.Run
import SwiftExistential.Proofs.SitePatch.WholeWords
import SwiftExistential.Proofs.Fixup.Dropping
import SwiftExistential.Proofs.Cleanup.Balance
import SwiftExistential.Proofs.Diagnostic.TypeUses
import SwiftExistential.Proofs.Edit.Undo
import SwiftExistential.Proofs.Site.Naming
import SwiftExistential.Proofs.Fixup.Annotating
import SwiftExistential.Proofs.Fixup.Parameters
import SwiftExistential.Proofs.Policy.Keyword
import SwiftExistential.Proofs.HeaderRepair.Following
import SwiftExistential.Proofs.Invocation.Sanitize
import SwiftExistential.Proofs.Cleanup.Chains
import SwiftExistential.Proofs.Cleanup.Collapsing
import SwiftExistential.Proofs.Shell.Quoting
import SwiftExistential.Proofs.Shell.Tokens
import SwiftExistential.Proofs.Shell.Plans
import SwiftExistential.Proofs.Toolchain.Commands
