import Tipy.Buffer.RRing
import Tipy.Buffer.Views
import Tipy.Ip.ReassOrder
import Tipy.Ip.ReassSafety
import Tipy.Ip.ReassTimer
import Tipy.Tcp.FinOrder
import Tipy.Tcp.RcvStream
import Tipy.Tcp.RtxPending
import Tipy.Tcp.Threads
import Tipy.Tcp.Translation
import Tipy.Tcp.PeerWindow
import Tipy.Tcp.RcvStored
import Tipy.Tcp.Cleanup
import Tipy.Tcp.Reset
import Tipy.Tcp.SendCall
import Tipy.Tcp.Entries
import Tipy.Tcp.RecvCall
import Tipy.Wire.RoundTrip
import Tipy.Arp.Alone
import Tipy.Arp.Probe
import Tipy.Arp.SentOnce
import Tipy.Sockets.Recv
import Tipy.Sockets.Release
import Tipy.Host.Runs
import Tipy.Host.Padding
import Tipy.Tcp.AckRule
import Tipy.Tcp.PendingAck
import Tipy.CsumOrder
import Tipy.Tcp.ChallengeLimit
import Tipy.Tcp.RtoRange
import Tipy.Tcp.Handshake
import Tipy.Tcp.Options
import Tipy.Wire.TcpOptions
import Tipy.Ip.OptBuilder
import Tipy.Lib.Transmissions
import Tipy.Tcp.SentRecord
import Tipy.Tcp.Karn
import Tipy.Components.TimerLoop
import Tipy.Arp.Expiry
import Tipy.Inet
import Tipy.Ethernet
import Tipy.Sockets.Failed
import Tipy.Sockets.Options
import Tipy.Tcp.Session
import Tipy.Host.Threads
import Tipy.Host.Ping
import Tipy.Host.Refused
import Tipy.Host.UdpLost
import Tipy.Host.Unreachable
import Tipy.Sockets.Raw
