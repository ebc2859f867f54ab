import CameraGraph.Text.Blank
import CameraGraph.Text.Case
import CameraGraph.Text.Quoted
import CameraGraph.Text.Utf8
import CameraGraph.Number.Shortest
import CameraGraph.Json.Reader
import CameraGraph.Json.Record
import CameraGraph.Camera
import CameraGraph.Workload
import CameraGraph.ElementName
import CameraGraph.Path
import CameraGraph.Url.Ip
import CameraGraph.Url.Parser
import CameraGraph.Program
import CameraGraph.Main
import CameraGraph.Proofs.Elements
import CameraGraph.Proofs.NumberedText
import CameraGraph.Proofs.Allocation
import CameraGraph.Proofs.NameUniqueness
import CameraGraph.Proofs.Rounds
import CameraGraph.Proofs.Json.Reading
import CameraGraph.Proofs.SignatureEncoding
import CameraGraph.Proofs.WorkloadGrouping
import CameraGraph.Proofs.BranchShape
import CameraGraph.Proofs.ChainParts
import CameraGraph.Proofs.CommandWords
import CameraGraph.Proofs.Exclusion
import CameraGraph.Proofs.ModelInstances
import CameraGraph.Proofs.ElementReading
import CameraGraph.Proofs.RedundantRequests
import CameraGraph.Proofs.ProfileInfluence
import CameraGraph.Proofs.ProfileVariables
import CameraGraph.Proofs.ProgramBoundary
import CameraGraph.Proofs.QueuePlacement
import CameraGraph.Proofs.FanOut
import CameraGraph.Proofs.RegionAttachment
import CameraGraph.Proofs.StreamAddress
import CameraGraph.Proofs.RejectedAddress
import CameraGraph.Proofs.SourcePrecedence
import CameraGraph.Proofs.WorkloadNames
import CameraGraph.Proofs.ProfileFiles
import CameraGraph.Proofs.DeviceSpelling
import CameraGraph.Proofs.NumericKnobs
import CameraGraph.Proofs.Json.Extent
import CameraGraph.Proofs.Json.Members
import CameraGraph.Proofs.Json.Order
import CameraGraph.Proofs.MemberOrder
import CameraGraph.Proofs.IntegerEcho
import CameraGraph.Proofs.BareNames
