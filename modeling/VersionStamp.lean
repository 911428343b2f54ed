import VersionStamp.Main
import VersionStamp.Proofs.Release
import VersionStamp.Proofs.VersionString
import VersionStamp.Proofs.Template.Grammar
import VersionStamp.Proofs.Template.Fault
import VersionStamp.Proofs.LocalRoundTrip
import VersionStamp.Proofs.TagOrder
import VersionStamp.Proofs.Reading
import VersionStamp.Proofs.Agreement
import VersionStamp.Proofs.NormalForm
import VersionStamp.Proofs.Transition
import VersionStamp.Proofs.Session
import VersionStamp.Proofs.Failure
import VersionStamp.Proofs.LocalDate
import VersionStamp.Proofs.Succession
import VersionStamp.Proofs.Successor
import VersionStamp.Proofs.Carry
import VersionStamp.Proofs.Rank
import VersionStamp.Proofs.Canonical
import VersionStamp.Proofs.Config.Merge
import VersionStamp.Proofs.Config.Paths
import VersionStamp.Proofs.Config.Overrides
import VersionStamp.Proofs.Config.Variables
import VersionStamp.Proofs.Config.Environment
import VersionStamp.Proofs.Command.Settings
import VersionStamp.Proofs.Template.Repetition
import VersionStamp.Proofs.Following
import VersionStamp.Proofs.Chronology
