import MidWay.CLib.Bytes
import MidWay.CLib.Errno
import MidWay.CLib.Format
import MidWay.Lib.Runs
import MidWay.Lib.Loops
import MidWay.Lib.Holders
import MidWay.Lib.Ring
import MidWay.Lib.Chain
import MidWay.Lib.Writing
import MidWay.Lib.Blocks
import MidWay.Lib.FirstOccurrences
import MidWay.Lib.TailedList
import MidWay.Url.Encoded
import MidWay.Url.Map
import MidWay.Url.MapRoundTrip
import MidWay.Url.Locality
import MidWay.Url.MapBounds
import MidWay.Srb.Message
import MidWay.Srb.MessageRoundTrip
import MidWay.Srb.ServiceCall
import MidWay.Srb.Fields
import MidWay.Srb.CallMessages
import MidWay.Srb.Locality
import MidWay.Srb.EncodeBounds
import MidWay.Srb.Connection
import MidWay.Srb.ReceiveBuffer
import MidWay.Srb.Framing
import MidWay.Srb.Stream
import MidWay.Srb.Rejection
import MidWay.Srb.ReceiveInvariant
import MidWay.Srb.Limits
import MidWay.Shm.Heap
import MidWay.Shm.Layout
import MidWay.Shm.FreeLists
import MidWay.Shm.Format
import MidWay.Shm.Allocation
import MidWay.Shm.HeapRuns
import MidWay.Shm.LayoutFit
import MidWay.Shm.CallBuffers
import MidWay.Shm.HeapAlloc
import MidWay.Shm.WrongFree
import MidWay.Shm.FindBin
import MidWay.Shm.Segments
import MidWay.Shm.Reallocation
import MidWay.Shm.DataSurvives
import MidWay.Gateway.CallStore
import MidWay.Gateway.StoreLists
import MidWay.Gateway.IpcCalls
import MidWay.Gateway.StoreKeys
import MidWay.Gateway.StorePointers
import MidWay.Gateway.CallRouting
import MidWay.Gateway.SrbServer
import MidWay.Gateway.StoreFrame
import MidWay.Gateway.CallData
import MidWay.Gateway.PeerSafety
import MidWay.Gateway.PeerReplies
import MidWay.Gateway.ServiceTable
import MidWay.Gateway.IpcServer
import MidWay.Gateway.CallFate
import MidWay.Gateway.StoreLeaks
import MidWay.Gateway.CallHops
import MidWay.Gateway.ConnectionTable
import MidWay.Gateway.Peers
import MidWay.Gateway.LostPeers
import MidWay.Gateway.Sessions
import MidWay.Gateway.Exports
import MidWay.Gateway.Advertising
import MidWay.Gateway.Instance
import MidWay.Gateway.AdvertisedCosts
import MidWay.Gateway.OwnServices
import MidWay.Gateway.Imports
import MidWay.Gateway.ImportAgreement
import MidWay.Gateway.EventMessages
import MidWay.Gateway.EventPrivacy
import MidWay.Gateway.Attachment
import MidWay.Server.Requests
import MidWay.Server.MainLoop
import MidWay.Server.Replies
import MidWay.Server.CallReplies
import MidWay.Mwd.Tables
import MidWay.Mwd.Lookup
import MidWay.Mwd.Consistency
import MidWay.Mwd.Attach
import MidWay.Mwd.Unprovide
import MidWay.Mwd.ServiceSteps
import MidWay.Mwd.ImportedServices
import MidWay.Mwd.ServiceEvents
import MidWay.Mwd.Bounds
import MidWay.Mwd.EventQueue
import MidWay.Mwd.EventBuffers
import MidWay.Mwd.Subscriptions
import MidWay.Mwd.EventDelivery
import MidWay.Gateway.PeerHandshake
import MidWay.Gateway.IpcFifo
import MidWay.Gateway.ReadFifo
import MidWay.Gateway.AttachReplies
import MidWay.Gateway.PeerLinks
import MidWay.Gateway.PeerConsistency
import MidWay.Shm.Detaching
import MidWay.Url.FieldScan
import MidWay.Srb.SelfContained
import MidWay.Mwd.LargeBuffers
import MidWay.Client.BrokerQuery
import MidWay.Client.AddressDecoding
import MidWay.Client.Calls
import MidWay.Client.CallFailures
import MidWay.Client.CallLoops
import MidWay.Server.Forwarding
import MidWay.Client.Fetch
import MidWay.Client.ReplyQueue
import MidWay.Srb.CallSizes
import MidWay.Gateway.Notifications
import MidWay.Client.ServiceLookup
import MidWay.Client.ServiceNames
import MidWay.Gateway.ServiceCosts
import MidWay.Gateway.Unimport
import MidWay.Mwd.SubscribePattern
import MidWay.Gateway.EventSubscribers
import MidWay.Gateway.SubscriptionList
import MidWay.Url.BadEscapes
import MidWay.Url.MapArray
import MidWay.Gateway.FieldReads
import MidWay.Gateway.HandlerStages
import MidWay.Gateway.RequiredFields
import MidWay.Shm.ProcessMemory
import MidWay.Gateway.EventData
import MidWay.Mwd.Allocations
import MidWay.Mwd.Watchdog
import MidWay.Server.ServiceFunctions
import MidWay.Server.Deadlines
import MidWay.Lib.Rotation
import MidWay.Tasks.Scheduler
import MidWay.Tasks.Turns
import MidWay.Gateway.AccessList
import MidWay.Srb.ConnectionEnd
import MidWay.Broker.Descriptors
import MidWay.Broker.Handover
import MidWay.Broker.Gateways
import MidWay.Broker.MainLoop
import MidWay.Lib.TwoLevel
import MidWay.Gateway.Connections
import MidWay.Mwd.Patrols
import MidWay.Lib.SwapRemove
import MidWay.Mwd.ManagedServers
import MidWay.Mwd.ServerManager
import MidWay.Mwd.ServerListings
import MidWay.Mwd.Environments
import MidWay.Mwd.Arguments
import MidWay.Mwd.Shutdown
import MidWay.Client.Handles
import MidWay.Client.OldestReply
import MidWay.Gateway.KnownPeers
import MidWay.Url.Signed
