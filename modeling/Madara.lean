import Madara.Lib.Bytes
import Madara.Lib.Codec
import Madara.Felt
import Madara.StarknetBlock
import Madara.DigestLog
import Madara.CallTree
import Madara.Lib.Transactional
import Madara.State
import Madara.Pallet
import Madara.Execution
import Madara.Runtime
import Madara.Validation
import Madara.Lib.Segment
import Madara.SnosOutput
import Madara.Lib.KeyValue
import Madara.Overrides
import Madara.Events
import Madara.DataAvailability
import Madara.BlockEvents
import Madara.L1Messages
import Madara.DaDb
import Madara.Lib.FixedPoint
import Madara.Fee
import Madara.CommitmentStateDiff
import Madara.SnosReader
import Madara.MappingSync
import Madara.Settlement
import Madara.StateChanges
import Madara.TraceApi
import Madara.Receipt
import Madara.TxTrace
import Madara.Simulations
import Madara.AdapterWrites
