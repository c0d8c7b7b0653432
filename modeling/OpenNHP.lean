import OpenNHP.Lib.BigEndian
import OpenNHP.Lib.Inet
import OpenNHP.Lib.Statement
import OpenNHP.Lib.Runs
import OpenNHP.Lib.Registry
import OpenNHP.Lib.SplitMap
import OpenNHP.Core.Outcome
import OpenNHP.Core.Packet
import OpenNHP.Core.Crypto
import OpenNHP.Core.Device
import OpenNHP.Core.Session
import OpenNHP.Core.Initiator
import OpenNHP.Core.Responder
import OpenNHP.Core.KeySchedule
import OpenNHP.Core.Exchange
import OpenNHP.Core.RoundTrip
import OpenNHP.Core.Wire
import OpenNHP.Core.MessageRoundTrip
import OpenNHP.Core.NoPanic
import OpenNHP.Core.Rejection
import OpenNHP.Core.HeaderMeaning
import OpenNHP.Lib.Symbolic
import OpenNHP.Core.SymbolicCrypto
import OpenNHP.Core.Network
import OpenNHP.Core.HeaderRewrite
import OpenNHP.Core.SealKeys
import OpenNHP.Core.Authenticity
import OpenNHP.Core.Transaction
import OpenNHP.Core.Routines
import OpenNHP.Core.TransactionMaps
import OpenNHP.Core.InFlight
import OpenNHP.Core.Handover
import OpenNHP.Core.Responses
import OpenNHP.Core.Authorship
import OpenNHP.Core.Tokens
import OpenNHP.Core.Completion
import OpenNHP.Core.Buffers
import OpenNHP.Core.SendTimes
import OpenNHP.Core.Closing
import OpenNHP.Core.CloseProtocol
import OpenNHP.Server.Peers
import OpenNHP.Server.Roles
import OpenNHP.Server.Replay
import OpenNHP.Server.Cookies
import OpenNHP.Server.Reknock
import OpenNHP.AC.IPSet
import OpenNHP.AC.Ebpf
import OpenNHP.AC.AccessControl
import OpenNHP.AC.ExactRules
import OpenNHP.AC.Xdp
import OpenNHP.AC.Traffic
import OpenNHP.AC.RequestTraffic
import OpenNHP.AC.FilterModes
import OpenNHP.AC.Egress
import OpenNHP.Lib.FirstMatch
import OpenNHP.AC.LiveRules
import OpenNHP.AC.TransportPorts
import OpenNHP.AC.RuleKeys
import OpenNHP.AC.Revocation
import OpenNHP.AC.Operations
import OpenNHP.AC.TruthfulAnswer
import OpenNHP.AC.TokenStore
import OpenNHP.AC.PreAccess
import OpenNHP.Server.OpenResource
import OpenNHP.Core.Ztdo.Codec
import OpenNHP.Core.Ztdo.Header
import OpenNHP.Core.Ztdo.Parsing
import OpenNHP.Core.Ztdo.Cipher
import OpenNHP.Core.Ztdo.File
import OpenNHP.Core.Ztdo.Written
import OpenNHP.Core.Ztdo.Layout
import OpenNHP.Core.Ztdo.Reuse
import OpenNHP.Core.Ztdo.Accepted
import OpenNHP.Lib.SymbolicBytes
import OpenNHP.Core.Ztdo.Integrity
import OpenNHP.Lib.Base64
import OpenNHP.Core.Ztdo.KeyAgreement
import OpenNHP.DB.KeyWrapping
import OpenNHP.Server.Connections
import OpenNHP.Lib.ExpiringStore
import OpenNHP.AC.TokenExpiry
import OpenNHP.Server.TokenStore
import OpenNHP.AC.TempAccess
import OpenNHP.Agent.PreAccess
import OpenNHP.Server.Online
import OpenNHP.Server.RolePeers
import OpenNHP.Server.Ingress
import OpenNHP.Endpoints.Reconnect
import OpenNHP.Lib.MinimalBytes
import OpenNHP.Lib.ModInverse
import OpenNHP.KGC.Curve
import OpenNHP.KGC.Weierstrass
import OpenNHP.KGC.Keys
import OpenNHP.KGC.Signatures
import OpenNHP.KGC.ConfigFile
import OpenNHP.KGC.Encodings
import OpenNHP.Lib.Pieces
import OpenNHP.Lib.Paths
import OpenNHP.Endpoints.FileAccess
import OpenNHP.Lib.Fallible
import OpenNHP.Core.Csv
import OpenNHP.Server.Appraisal
import OpenNHP.Server.Appraisals
import OpenNHP.Lib.Tables
import OpenNHP.KGC.Dispatch
import OpenNHP.AC.FailOpen
import OpenNHP.Server.OpenPaths
import OpenNHP.Server.HotReload
import OpenNHP.Server.KeySlots
import OpenNHP.Lib.NamedFile
import OpenNHP.Server.ZdtoConfig
import OpenNHP.Server.Plugins
import OpenNHP.AC.TempPacket
import OpenNHP.AC.TempListeners
import OpenNHP.Endpoints.Discovery
import OpenNHP.AC.TokenIssue
import OpenNHP.Core.Ztdo.Lengths
import OpenNHP.DB.Unwrapping
import OpenNHP.KGC.PointAddition
import OpenNHP.Core.CsvSignature
import OpenNHP.Core.BlockCiphers
import OpenNHP.Core.WaitPool
import OpenNHP.AC.RangeLoop
import OpenNHP.Lib.Regexp
import OpenNHP.Agent.TomlFile
import OpenNHP.Agent.UpdateToml
import OpenNHP.Agent.KeyRotation
import OpenNHP.Lib.Renewal
import OpenNHP.Agent.KnockTargets
import OpenNHP.DB.DataRelease
import OpenNHP.Lib.Threads
import OpenNHP.Agent.DataAccess
import OpenNHP.Lib.FileTree
import OpenNHP.Server.Storage
import OpenNHP.Server.Duplicates
import OpenNHP.Server.Progress
import OpenNHP.Core.Secrecy
import OpenNHP.Core.Impersonation
import OpenNHP.Server.BlockList
import OpenNHP.Server.KnockRequests
import OpenNHP.Agent.Knock
import OpenNHP.Agent.WebConsole
