import Udtcp.Interaction.Routine
import Udtcp.Bytes.Slice
import Udtcp.Bytes.Memory
import Udtcp.Base.Infos
import Udtcp.Posix.Call
import Udtcp.Receive.Reception
import Udtcp.Base.StringInfos
import Udtcp.Server.Poll
import Udtcp.Send.Send
import Udtcp.Client.Poll
import Udtcp.Client.Connect
import Udtcp.Client.Create
import Udtcp.Server.Create
import Udtcp.Receive.Cases
import Udtcp.Posix.Observe
import Udtcp.Receive.Queue
import Udtcp.Send.Structure
import Udtcp.Send.Stream
import Udtcp.Receive.Capacity
import Udtcp.Transfer.RoundTrip
import Udtcp.Server.Accept
import Udtcp.Server.Atomic
import Udtcp.Table.Rows
import Udtcp.Table.Compact
import Udtcp.Receive.Calls
import Udtcp.Server.Rounds
import Udtcp.Table.Pass
import Udtcp.Server.Created
import Udtcp.Server.Possible
import Udtcp.Table.Run
import Udtcp.Table.Handles
import Udtcp.Client.Created
import Udtcp.Client.Polled
import Udtcp.Client.Possible
import Udtcp.Threads.StartStop
import Udtcp.Interaction.Twins
import Udtcp.Handshake.Noninterference
import Udtcp.Receive.Sources
import Udtcp.Server.Calls
import Udtcp.Table.Roll
import Udtcp.Table.Guests
import Udtcp.Table.Seats
import Udtcp.Table.Reach
import Udtcp.Table.Senders
import Udtcp.Server.Delete
import Udtcp.Table.Sessions
import Udtcp.Client.Stable
import Udtcp.Client.Calls
import Udtcp.Client.Life
import Udtcp.Posix.Ledger
import Udtcp.Client.Ledger
import Udtcp.Client.Balance
import Udtcp.Interaction.Contract
import Udtcp.Send.Guarded
import Udtcp.Interaction.Ownership
import Udtcp.Threads.Senders
import Udtcp.Table.Filter
import Udtcp.Posix.Recorded
import Udtcp.Creation.Addressing
import Udtcp.Creation.Stages
import Udtcp.Creation.Hosts
import Udtcp.Creation.Dialled
import Udtcp.Creation.Deeds
import Udtcp.Creation.Release
import Udtcp.Receive.Format
import Udtcp.Send.Bounds
import Udtcp.Handshake.Frame
import Udtcp.Posix.Errno
import Udtcp.Receive.Agreement
import Udtcp.Errno.Refusal
import Udtcp.Errno.Verdict
import Udtcp.Errno.Passes
import Udtcp.Buffers.Ledger
import Udtcp.Buffers.Kept
import Udtcp.Buffers.Release
import Udtcp.Buffers.Server
import Udtcp.Buffers.Client
import Udtcp.Buffers.Balance
import Udtcp.Bytes.Text
import Udtcp.Names.Texts
import Udtcp.Names.Address
import Udtcp.Names.Hostname
import Udtcp.Table.Readiness
import Udtcp.Table.Reads
import Udtcp.Interaction.Returns
import Udtcp.Receive.Reassembly
import Udtcp.Server.Serving
import Udtcp.Transfer.Incoming
import Udtcp.Transfer.Passes
import Udtcp.Interaction.Bounded
import Udtcp.Interaction.Completion
import Udtcp.Liveness.Passes
import Udtcp.Threads.Exclusive
import Udtcp.Threads.Progress
import Udtcp.Transfer.Arrivals
import Udtcp.Transfer.Concurrent
import Udtcp.Transfer.Delivery
import Udtcp.Descriptors.Files
import Udtcp.Descriptors.Life
import Udtcp.Send.Mutexes
import Udtcp.Server.Mutexes
import Udtcp.Transfer.Datagrams
