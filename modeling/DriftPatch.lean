import DriftPatch.Diff.Format
import DriftPatch.Diff.Generate
import DriftPatch.Proofs.Diff.Sections
import DriftPatch.Proofs.Diff.Stable
import DriftPatch.Proofs.Placement.Locality
import DriftPatch.Proofs.Placement.Unique
import DriftPatch.Proofs.Replay.Atomic
import DriftPatch.Proofs.Replay.Blocks
import DriftPatch.Proofs.Replay.Drifted
import DriftPatch.Proofs.Replay.Insertion
import DriftPatch.Proofs.Replay.Joined
import DriftPatch.Proofs.Replay.Offset
import DriftPatch.Proofs.Replay.SameChange
import DriftPatch.Proofs.Replay.Sent
import DriftPatch.Proofs.Session.Archived
import DriftPatch.Proofs.Session.Commute
import DriftPatch.Proofs.Session.Faithful
import DriftPatch.Proofs.Session.Final
import DriftPatch.Proofs.Session.Orderly
import DriftPatch.Proofs.Session.Preview
import DriftPatch.Proofs.Session.Rejections
import DriftPatch.Proofs.Session.TurnedAway
import DriftPatch.Proofs.Session.Unworded
import DriftPatch.Proofs.Session.Versions
import DriftPatch.Record.Json
import DriftPatch.Session.Request
import DriftPatch.Settings.Load
import DriftPatch.Proofs.Placement.Indices
import DriftPatch.Proofs.Placement.Success
import DriftPatch.Proofs.Placement.FirstPlace
import DriftPatch.Proofs.Script.Consistent
import DriftPatch.Proofs.Script.Kept
import DriftPatch.Proofs.Script.Context
import DriftPatch.Proofs.Diff.HunkText
import DriftPatch.Proofs.Diff.Readable
import DriftPatch.Proofs.Diff.PathLine
import DriftPatch.Proofs.Diff.LineEnds
import DriftPatch.Proofs.Placement.Excerpt
import DriftPatch.Proofs.Settings.Validated
import DriftPatch.Proofs.Settings.Languages
import DriftPatch.Proofs.Settings.Loaded
