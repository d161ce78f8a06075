import Sekas.Api
import Sekas.Shard
import Sekas.Client.Replicas
import Sekas.Client.Executable
import Sekas.Client.GroupClient
import Sekas.Client.Invoke
import Sekas.Client.Turn
import Sekas.Client.Classify
import Sekas.Client.Leader
import Sekas.Client.Budget
import Sekas.Client.Epoch
import Sekas.Client.Coverage
import Sekas.Client.Timeout
import Sekas.Client.Migrate
import Sekas.Root.Store
import Sekas.Root.Schema
import Sekas.Root.GroupState
import Sekas.Root.NextId
import Sekas.Root.Codecs
import Sekas.Root.Collection
import Sekas.Root.RootReplicas
import Sekas.Root.Catalogue
import Sekas.Root.StmtExecutor
import Sekas.Replica.SplitShard
import Sekas.Node.ReportState
import Sekas.Raftgroup.SnapCreate
import Sekas.Rock.Ascii
