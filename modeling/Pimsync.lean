import Pimsync.Base.OneShot
import Pimsync.Base.Prog
import Pimsync.Config.Loaded
import Pimsync.Config.LoadOrder
import Pimsync.Config.NamedPairsRuns
import Pimsync.ConflictUploads
import Pimsync.Consent
import Pimsync.Scfg
import Pimsync.DaemonRuns
import Pimsync.Base.Job
import Pimsync.RepairRuns
import Pimsync.RepairUids
import Pimsync.Config.StatusPath
import Pimsync.Config.ReadOnly
import Pimsync.Config.Filtered
import Pimsync.Config.NamesAgree
import Pimsync.Config.Strict
import Pimsync.ConflictEnds
import Pimsync.ConflictIsolation
import Pimsync.ConflictReport
import Pimsync.Config.Certificates
import Pimsync.CliSafe
import Pimsync.Tilde
import Pimsync.Daemons
import Pimsync.Discover
import Pimsync.Config.LoadRuns
import Pimsync.CliNames
import Pimsync.Config.Selected
import Pimsync.MainRuns
import Pimsync.MainSafe
import Pimsync.MainEnds
import Pimsync.RepairTwice
import Pimsync.SyncModes
import Pimsync.DaemonSync
import Pimsync.Config.ByName
import Pimsync.Config.Said
import Pimsync.Config.RoundTrip
