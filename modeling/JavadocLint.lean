import JavadocLint.Command.Run
import JavadocLint.Config.File
import JavadocLint.Engine.Batch
import JavadocLint.Main
import JavadocLint.Proofs.CacheSession
import JavadocLint.Proofs.CleanPaths
import JavadocLint.Proofs.BlankLine
import JavadocLint.Proofs.CacheDurability
import JavadocLint.Proofs.CodeLines
import JavadocLint.Proofs.CommentOutcome
import JavadocLint.Proofs.DeclarationPlaces
import JavadocLint.Proofs.DirectorySchedule
import JavadocLint.Proofs.FileApart
import JavadocLint.Proofs.InterleavedRuns
import JavadocLint.Proofs.LaterText
import JavadocLint.Proofs.ListedRules
import JavadocLint.Proofs.MemberBoundary
import JavadocLint.Proofs.PendingChanges
import JavadocLint.Proofs.PrintedUnits
import JavadocLint.Proofs.SettingsText
import JavadocLint.Proofs.SilencedComment
import JavadocLint.Proofs.SuggestedLine
import JavadocLint.Proofs.TemplateSegments
import JavadocLint.Proofs.UnderlinedText
import JavadocLint.Proofs.AnchoredPattern
import JavadocLint.Proofs.WatchedPaths
import JavadocLint.Report.Grouped
import JavadocLint.Report.LogLine
import JavadocLint.Watch
import JavadocLint.Proofs.WatchedTree
import JavadocLint.Proofs.ReportedChanges
import JavadocLint.Proofs.MarkedText
import JavadocLint.Proofs.NamedFile
import JavadocLint.Proofs.PathSpelling
import JavadocLint.Proofs.DirectoryWalk
import JavadocLint.Proofs.DirectoryCoverage
import JavadocLint.Proofs.LineEndings
import JavadocLint.Proofs.FileGroups
import JavadocLint.Proofs.ScanPasses
import JavadocLint.Proofs.LongestIndent
