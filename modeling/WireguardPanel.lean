import WireguardPanel.Foundation.Json
import WireguardPanel.Foundation.Text
import WireguardPanel.Foundation.Inet
import WireguardPanel.Foundation.Table
import WireguardPanel.Platform
import WireguardPanel.RouterOs
import WireguardPanel.Ipv4
import WireguardPanel.Bandwidth
import WireguardPanel.Drift
import WireguardPanel.Foundation.Gregorian
import WireguardPanel.Foundation.Zone
import WireguardPanel.Quota
import WireguardPanel.QuotaWindow
import WireguardPanel.Database
import WireguardPanel.Statements
import WireguardPanel.Pool
import WireguardPanel.PoolRanges
import WireguardPanel.RouterNetworks
import WireguardPanel.CidrBlocks
import WireguardPanel.Peer
import WireguardPanel.Accounting
import WireguardPanel.Foundation.Meter
import WireguardPanel.Snapshots
import WireguardPanel.Foundation.Counter
import WireguardPanel.Metering
import WireguardPanel.Foundation.System
import WireguardPanel.Foundation.Buckets
import WireguardPanel.Foundation.Calendar
import WireguardPanel.Retention
import WireguardPanel.Sync
import WireguardPanel.Reconciliation
import WireguardPanel.SyncRouter
import WireguardPanel.Policies
import WireguardPanel.Foundation.Program
import WireguardPanel.Calls
import WireguardPanel.Enforcement
import WireguardPanel.BandwidthService
import WireguardPanel.PeerService
import WireguardPanel.Reconciler
import WireguardPanel.Foundation.Transaction
import WireguardPanel.ServiceRules
import WireguardPanel.Deletion
import WireguardPanel.DeletionRuns
import WireguardPanel.Conflicts
import WireguardPanel.Allocation
import WireguardPanel.AllocationRuns
import WireguardPanel.NativeApi
import WireguardPanel.ClientRequests
import WireguardPanel.QuietServices
import WireguardPanel.MalformedReplies
import WireguardPanel.AddressChoice
import WireguardPanel.TransactionRules
import WireguardPanel.RowRules
import WireguardPanel.ServiceCalls
import WireguardPanel.ClientConfig
import WireguardPanel.UserAccounts
import WireguardPanel.LoginAttempts
import WireguardPanel.LoginIntervals
import WireguardPanel.OperationEnds
import WireguardPanel.GlobalBandwidth
import WireguardPanel.AdoptedQueues
import WireguardPanel.KeyRotation
import WireguardPanel.EncryptionKeys
import WireguardPanel.PeersPage
import WireguardPanel.Secrets
import WireguardPanel.SignIns
import WireguardPanel.DriftResolution
import WireguardPanel.DisabledReasons
import WireguardPanel.ReconciledOperations
import WireguardPanel.Expirations
import WireguardPanel.PeerUpdates
import WireguardPanel.Failures
import WireguardPanel.Bypass
import WireguardPanel.UpdateRollback
import WireguardPanel.QuotaMarks
import WireguardPanel.QuotaPartition
import WireguardPanel.Foundation.Double
import WireguardPanel.QuotaInput
import WireguardPanel.QuotaState
import WireguardPanel.QueueSpellings
import WireguardPanel.QueueChanges
import WireguardPanel.Foundation.Ini
import WireguardPanel.Foundation.Net
import WireguardPanel.Validation
import WireguardPanel.ConfigText
import WireguardPanel.Foundation.Views
import WireguardPanel.PoolAddresses
import WireguardPanel.AddressOrder
import WireguardPanel.Foundation.Bitwise
import WireguardPanel.Foundation.Buffer
import WireguardPanel.Foundation.Crc
import WireguardPanel.Zip
import WireguardPanel.Csv
import WireguardPanel.Foundation.Pattern
import WireguardPanel.RouterDurations
import WireguardPanel.RouterClock
import WireguardPanel.DurationReaders
import WireguardPanel.Foundation.Machine
import WireguardPanel.Maintenance
import WireguardPanel.PerformanceSettings
import WireguardPanel.Foundation.Periodic
import WireguardPanel.Worker
import WireguardPanel.WorkerHealth
import WireguardPanel.Migrations
import WireguardPanel.Foundation.InsertionMap
import WireguardPanel.FaultLog
import WireguardPanel.Foundation.Join
import WireguardPanel.RouterHealth
import WireguardPanel.Presence
import WireguardPanel.Isolation
import WireguardPanel.Foundation.Refinement
import WireguardPanel.RouterRecords
import WireguardPanel.StoredDrifts
import WireguardPanel.RecordRuns
