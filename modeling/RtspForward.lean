import RtspForward.Core.UdpPorts
import RtspForward.Core.NonBlocking
import RtspForward.Core.Shutdown
import RtspForward.Core.FailedRequests
import RtspForward.Core.StopFlag
import RtspForward.Core.Startup
import RtspForward.Protocol.Rendering
import RtspForward.Net.OutgoingStream
import RtspForward.Core.MessageFraming
import RtspForward.Core.RequestBodies
import RtspForward.Core.Playing
import RtspForward.Core.BrokenPipe
import RtspForward.Core.WriteInterest
import RtspForward.Core.Ownership
import RtspForward.Core.Dispatch
import RtspForward.Core.Sequential
import RtspForward.Core.Transport
import RtspForward.Core.Teardown
import RtspForward.Core.Replies
import RtspForward.Core.SessionTable
import RtspForward.Core.SlowClients
import RtspForward.Buffer.SearchReads
import RtspForward.Core.SessionIds
import RtspForward.Protocol.LineRoles
import RtspForward.Core.Handover
import RtspForward.Core.ReadClosing
import RtspForward.Core.DeliveryAccounting
import RtspForward.Core.Holdings
import RtspForward.Core.Progress
import RtspForward.Core.ControlHistory
import RtspForward.Core.Dialogue
import RtspForward.Core.InfoCounts
import RtspForward.Api.Restart
