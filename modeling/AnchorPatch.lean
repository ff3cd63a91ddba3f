import AnchorPatch.Config.File
import AnchorPatch.Main
import AnchorPatch.Regex.Cache
import AnchorPatch.Config.Cached
import AnchorPatch.Proofs.Disk.Way
import AnchorPatch.Proofs.Disk.Entry
import AnchorPatch.Proofs.Gate
import AnchorPatch.Proofs.Patcher.Commit
import AnchorPatch.Proofs.Disk.Tree
import AnchorPatch.Proofs.Disk.Below
import AnchorPatch.Proofs.Guard
import AnchorPatch.Proofs.Patcher.Confinement
import AnchorPatch.Proofs.Patcher.Spelling
import AnchorPatch.Proofs.Regex.Language
import AnchorPatch.Proofs.Regex.Covers
import AnchorPatch.Proofs.Regex.Find
import AnchorPatch.Proofs.Regex.Cache
import AnchorPatch.Proofs.Regex.Calls
import AnchorPatch.Proofs.Rule.Apply
import AnchorPatch.Proofs.Rule.Set
import AnchorPatch.Proofs.Rule.Run
import AnchorPatch.Proofs.Rule.Marker
import AnchorPatch.Proofs.Builtin.Patterns
import AnchorPatch.Proofs.Builtin.Rerun
import AnchorPatch.Proofs.Builtin.Marker
import AnchorPatch.Proofs.Builtin.Report
import AnchorPatch.Proofs.Patcher.Idle
import AnchorPatch.Proofs.Config.Compile
import AnchorPatch.Proofs.Anchor.Leftmost
import AnchorPatch.Proofs.Rule.Contract
import AnchorPatch.Proofs.Rule.Insert
import AnchorPatch.Proofs.Rule.Skipped
import AnchorPatch.Proofs.Regex.Context
import AnchorPatch.Proofs.Rule.Within
import AnchorPatch.Proofs.Builtin.Component
import AnchorPatch.Proofs.Builtin.Comments
import AnchorPatch.Proofs.Patcher.DryRun
import AnchorPatch.Proofs.Patcher.History
import AnchorPatch.Proofs.Patcher.Linked
import AnchorPatch.Proofs.Patcher.Lines
import AnchorPatch.Proofs.Edit
import AnchorPatch.Proofs.Regex.Groups
import AnchorPatch.Proofs.Regex.Template
import AnchorPatch.Proofs.Config.Expansion
import AnchorPatch.Proofs.Diff.Meeting
import AnchorPatch.Proofs.Diff.Script
import AnchorPatch.Proofs.Diff.Tidy
import AnchorPatch.Proofs.Diff.Hunk
import AnchorPatch.Proofs.Diff.Display
import AnchorPatch.Proofs.Config.Faults
import AnchorPatch.Proofs.Config.WellFormed
import AnchorPatch.Proofs.Rule.LineFeed
import AnchorPatch.Proofs.Path.Parts
import AnchorPatch.Proofs.Config.Backup
import AnchorPatch.Proofs.Guard.Verdict
import AnchorPatch.Proofs.Builtin.Unrelated
import AnchorPatch.Proofs.Gate.Again
import AnchorPatch.Proofs.NearMiss
import AnchorPatch.Proofs.Anchor.Probe
