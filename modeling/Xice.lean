import Xice.Ice.Duplicates
import Xice.Ice.Foundations
import Xice.Ice.Order
import Xice.Ice.Priorities
import Xice.Ice.PrivateAddress
import Xice.PseudoTcp.Acks
import Xice.PseudoTcp.Flow
import Xice.PseudoTcp.NextClock
import Xice.PseudoTcp.Reads
import Xice.PseudoTcp.Reassembly
import Xice.PseudoTcp.SavedRuns
import Xice.PseudoTcp.SentStream
import Xice.Socket.GioTcp
import Xice.Socket.HttpTunnel
import Xice.Socket.ReadSources
import Xice.Stun.LongTerm
import Xice.Stun.RoundTrip
import Xice.Stun.Software
import Xice.Stun.Transactions
import Xice.Stun.TypedLookup
import Xice.Turn.ChannelData
import Xice.Turn.Lifetime
