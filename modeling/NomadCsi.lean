import NomadCsi.Cluster.Volumes
import NomadCsi.Csi.Exclusion
import NomadCsi.Exec.Pipe
import NomadCsi.Local.Capacity
import NomadCsi.Local.Floor
import NomadCsi.Local.Frame
import NomadCsi.Local.Listing
import NomadCsi.Local.Removal
import NomadCsi.Local.Roomiest
import NomadCsi.Names
import NomadCsi.Node.MountTable
import NomadCsi.Node.SessionTable
import NomadCsi.Node.Stage
import NomadCsi.Qnap.Aggregate
import NomadCsi.Qnap.Beside
import NomadCsi.Qnap.Codecs
import NomadCsi.Qnap.Copies
import NomadCsi.Qnap.Expand
import NomadCsi.Qnap.Idempotent
import NomadCsi.Qnap.InUse
import NomadCsi.Qnap.Leak
import NomadCsi.Qnap.Memo
import NomadCsi.Qnap.Portals
import NomadCsi.Qnap.Refresh
import NomadCsi.Qnap.Sweeps
import NomadCsi.Stats.Latest
import NomadCsi.Stats.Lives
import NomadCsi.Stats.Tally
