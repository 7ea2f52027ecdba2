import ClusterCapacity.Machine
import ClusterCapacity.Main
import ClusterCapacity.Session
import ClusterCapacity.Proofs.Report.Partition
import ClusterCapacity.Proofs.Report.Permutation
import ClusterCapacity.Proofs.Run.Effects
import ClusterCapacity.Proofs.Selection.Addresses
import ClusterCapacity.Proofs.Selection.NormalForm
import ClusterCapacity.Proofs.Wire.RoundTrip
import ClusterCapacity.Proofs.Json.Pretty
import ClusterCapacity.Proofs.Text.Utf8
import ClusterCapacity.Proofs.Json.Canonical
import ClusterCapacity.Proofs.Json.Value
import ClusterCapacity.Proofs.Report.Summary
import ClusterCapacity.Proofs.Run.SnapshotFile
import ClusterCapacity.Proofs.Text.Lines
import ClusterCapacity.Proofs.Text.Numbers
import ClusterCapacity.Proofs.Report.Lines
import ClusterCapacity.Proofs.Report.Reading
import ClusterCapacity.Proofs.Report.Conservation
import ClusterCapacity.Proofs.Settings.Layers
import ClusterCapacity.Proofs.Source.Formats
import ClusterCapacity.Proofs.Source.Interchange
import ClusterCapacity.Proofs.Session.Requests
import ClusterCapacity.Proofs.TierMap.Histories
import ClusterCapacity.Proofs.TierMap.Merging
import ClusterCapacity.Proofs.Source.RequestUrl
import ClusterCapacity.Proofs.Url.Paths
import ClusterCapacity.Proofs.Source.Endpoint
import ClusterCapacity.Proofs.Json.WorkerMembers
import ClusterCapacity.Proofs.TierMap.Documents
import ClusterCapacity.Proofs.Report.Rows
import ClusterCapacity.Proofs.Run.Prefix
import ClusterCapacity.Proofs.ByteSize.Accuracy
import ClusterCapacity.Proofs.Report.Percentages
import ClusterCapacity.Proofs.Report.Columns
import ClusterCapacity.Proofs.Program.Refinement
