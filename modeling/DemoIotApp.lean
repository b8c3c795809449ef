import DemoIotApp.AckMatching
import DemoIotApp.ConnectAccepted
import DemoIotApp.DeadTransport
import DemoIotApp.DomainLookup
import DemoIotApp.Duplicates
import DemoIotApp.FramingRoundTrip
import DemoIotApp.IncomingFraming
import DemoIotApp.InitErrors
import DemoIotApp.KeepAliveTimer
import DemoIotApp.LogFormat
import DemoIotApp.LogServer
import DemoIotApp.NwStackConfigurator
import DemoIotApp.OutgoingFraming
import DemoIotApp.PacketBounds
import DemoIotApp.PacketDecoding
import DemoIotApp.PacketIds
import DemoIotApp.PingFlag
import DemoIotApp.PublishBuffer
import DemoIotApp.RelayOrder
import DemoIotApp.Reporting
import DemoIotApp.Robustness
import DemoIotApp.SessionFlag
import DemoIotApp.SessionOrder
import DemoIotApp.SocketConnect
import DemoIotApp.StoreToCloud
import DemoIotApp.Timeouts
import DemoIotApp.UnsetNetwork
