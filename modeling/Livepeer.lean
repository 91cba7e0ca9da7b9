import Livepeer.Go
import Livepeer.Eth.Client
import Livepeer.Eth.Receipt
import Livepeer.Eth.Events
import Livepeer.Eth.Transactions.Model
import Livepeer.Eth.Transactions.Moves
import Livepeer.Eth.Transactions.Runs
import Livepeer.Eth.Approval.Model
import Livepeer.Eth.Approval.Moves
import Livepeer.Eth.Approval.Invariant
import Livepeer.Eth.Approval.Safety
import Livepeer.Eth.Approval.Runs
import Livepeer.Eth.Approval.Channels
import Livepeer.Eth.Approval.Refinement
import Livepeer.Eth.Watch
import Livepeer.Core.Transcode
import Livepeer.Core.ParseURI
import Livepeer.Core.Renditions
import Livepeer.Core.Cleanup
import Livepeer.Core.Capabilities
