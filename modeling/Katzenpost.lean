import Katzenpost.Go.Map
import Katzenpost.Go.Bytes
import Katzenpost.Go.Sort
import Katzenpost.Go.Codec
import Katzenpost.Go.Tally
import Katzenpost.Go.Run
import Katzenpost.Go.Heap
import Katzenpost.Core.Types
import Katzenpost.Core.Cert
import Katzenpost.Core.Reference
import Katzenpost.Core.Signing
import Katzenpost.Core.SharedRandom
import Katzenpost.Core.Document
import Katzenpost.Authority.Config
import Katzenpost.Authority.Tally
import Katzenpost.Authority.TallySound
import Katzenpost.Authority.Commits
import Katzenpost.Authority.CommitsSound
import Katzenpost.Authority.Descriptors
import Katzenpost.Authority.EnvelopeKeys
import Katzenpost.Queue.TimerQueue
import Katzenpost.Queue.Punctual
import Katzenpost.Go.Call
import Katzenpost.Sphinx.Geometry
import Katzenpost.Client.Send
import Katzenpost.Spool.BoltSpool
import Katzenpost.Wasm.Certificate
import Katzenpost.Server.Packet
import Katzenpost.Server.MixKeys
import Katzenpost.Server.CryptoWorker
import Katzenpost.Server.Replay
import Katzenpost.Server.Incoming
import Katzenpost.Server.Handlers
import Katzenpost.Server.NodeSafety
import Katzenpost.Thin.Dispatch
import Katzenpost.Thin.EventSink
import Katzenpost.Thin.Handshake
import Katzenpost.Replica.RetryQueue
import Katzenpost.Go.Block
import Katzenpost.Go.Slice
import Katzenpost.Sphinx.Commands
import Katzenpost.Sphinx.Header
import Katzenpost.Sphinx.Journey
import Katzenpost.Sphinx.Nike
import Katzenpost.Sphinx.Surb
import Katzenpost.Sphinx.Kem
import Katzenpost.Sphinx.Unwrap
import Katzenpost.Wire.Commands
import Katzenpost.Wire.Decoding
import Katzenpost.Wire.Session
import Katzenpost.Wire.SessionSafety
import Katzenpost.Client.PkiDocs
import Katzenpost.Client.PkiDocsSound
import Katzenpost.Client.GatewayConn
import Katzenpost.Client.GatewayCallers
import Katzenpost.Authority.SharedValue
import Katzenpost.Client.CopyCalls
import Katzenpost.Core.Signers
import Katzenpost.Courier.CopyDedup
import Katzenpost.Courier.Dispatch
import Katzenpost.Courier.ReplyCache
import Katzenpost.Go.Framing
import Katzenpost.Go.KeyRange
import Katzenpost.Pigeonhole.CopyStream
import Katzenpost.Pigeonhole.Messages
import Katzenpost.Pigeonhole.RoundTrip
import Katzenpost.Replica.Immutable
import Katzenpost.Replica.Store
import Katzenpost.Queue.Cancel
import Katzenpost.Courier.CopyChannels
import Katzenpost.Server.ReplyDelay
import Katzenpost.Replica.Tombstones
import Katzenpost.Go.TokenBucket
import Katzenpost.Server.RateLimit
import Katzenpost.Go.Time
import Katzenpost.Server.Batching
import Katzenpost.Go.Slots
import Katzenpost.Server.WebTransport
import Katzenpost.Thin.FrameReader
import Katzenpost.Courier.ReplicaLink
import Katzenpost.Client.ConnReaders
import Katzenpost.Client.ConnShutdown
import Katzenpost.Client.TimeSync
import Katzenpost.Go.Worker
import Katzenpost.Server.PluginWorkers
import Katzenpost.Go.ByteField
import Katzenpost.Wire.Encoding
import Katzenpost.Wire.Canonical
import Katzenpost.Wire.RoundTrip
import Katzenpost.Pigeonhole.Partition
import Katzenpost.Pigeonhole.Sizes
import Katzenpost.Go.While
import Katzenpost.Go.InPlace
import Katzenpost.Go.Cells
import Katzenpost.Pigeonhole.Termination
import Katzenpost.Replica.Collection
import Katzenpost.Go.Smallest
import Katzenpost.Replica.Sharding
import Katzenpost.Pigeonhole.Intermediates
import Katzenpost.Go.Residues
import Katzenpost.Go.Census
import Katzenpost.Pigeonhole.RandIndex
import Katzenpost.Pigeonhole.Unions
import Katzenpost.Replica.BoxLocks
import Katzenpost.Replica.EnvelopeKeys
import Katzenpost.Core.Chunking
import Katzenpost.Client.Consensus
import Katzenpost.Client.ChunkOrder
import Katzenpost.Wire.TrafficSize
import Katzenpost.Wire.StorageSize
import Katzenpost.Server.ConsensusChunks
import Katzenpost.Replica.Handlers
import Katzenpost.Replica.Proxying
import Katzenpost.Replica.ProxyRequests
