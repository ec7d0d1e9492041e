import BacPy.App.StuckTransactions
import BacPy.App.AtMostOnce
import BacPy.App.PeerCapability
import BacPy.App.Devices
import BacPy.App.TransferEnds
import BacPy.Segmentation.Retransmission
import BacPy.Exchange.RequestIntegrity
import BacPy.Network.Internetwork
import BacPy.DataLink.ReceivedOnce
import BacPy.SecureConnect.ConnectionTable
import BacPy.SecureConnect.ConnectLoop
import BacPy.Objects.TrendLogRuns
import BacPy.App.AuditLog
import BacPy.Services.CovPropertyValue
import BacPy.Services.AuditNotificationLists
import BacPy.App.Acknowledgements
import BacPy.Types.JsonForms
import BacPy.Services.QueryRoundTrips
import BacPy.App.RestoredFiles
import BacPy.SecureConnect.HubForwarding
import BacPy.SecureConnect.MessageCodec
import BacPy.Segmentation.AnyOrder
import BacPy.App.SegmentSizes
import BacPy.App.Capabilities
import BacPy.App.ClientRetries
import BacPy.DataLink.ResolutionRuns6
import BacPy.Encoding.ConstructedValues
import BacPy.DataLink.BvlcResults
import BacPy.App.CallbackRuns
import BacPy.Encoding.TagTables
import BacPy.DataLink.BroadcastFilter
import BacPy.DataLink.DatagramCodecs
import BacPy.Encoding.PrimitiveRoundTrips
import BacPy.Network.PrintedAddresses
import BacPy.Network.RouterCache
import BacPy.Network.ForwardingDecision
import BacPy.App.RangeReads
import BacPy.DataLink.BbmdTables
import BacPy.DataLink.PendingNpdus6
import BacPy.App.CovCancellations
import BacPy.Objects.MinimumTimes
import BacPy.SecureConnect.AddressResolutions
import BacPy.SecureConnect.ConnectionLives
import BacPy.App.ChangeNotifications
import BacPy.App.EventRuns
import BacPy.App.Hysteresis
import BacPy.App.ChannelWrites
import BacPy.App.CovCallbacks
import BacPy.App.Downloads
import BacPy.App.Enrollments
import BacPy.App.Hierarchies
import BacPy.App.NotificationRouting
import BacPy.Objects.CalendarMatching
import BacPy.App.VtSessions
import BacPy.DataLink.RegistrationStatus
import BacPy.App.AlignedPolling
