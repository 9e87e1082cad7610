import KaniNetwork.Base.BTreeMap
import KaniNetwork.Base.Decimal
import KaniNetwork.Base.Escaping
import KaniNetwork.Base.Greedy
import KaniNetwork.Base.HashMap
import KaniNetwork.Base.History
import KaniNetwork.Base.Log
import KaniNetwork.Base.Markup
import KaniNetwork.Base.Method
import KaniNetwork.Base.Paging
import KaniNetwork.Base.Pool
import KaniNetwork.Base.Prog
import KaniNetwork.Base.Quorum
import KaniNetwork.Base.Reading
import KaniNetwork.Base.Result
import KaniNetwork.Base.RoundRobin
import KaniNetwork.Base.Rows
import KaniNetwork.Base.Separators
import KaniNetwork.Base.Table
import KaniNetwork.Base.Tally
import KaniNetwork.Base.Text
import KaniNetwork.Base.Uuid
import KaniNetwork.Types.Consensus
import KaniNetwork.Types.Core
import KaniNetwork.Ledger.Alike
import KaniNetwork.Ledger.Conservation
import KaniNetwork.Ledger.DryRun
import KaniNetwork.Ledger.Error
import KaniNetwork.Ledger.InMemory
import KaniNetwork.Ledger.InMemoryTheorems
import KaniNetwork.Ledger.Nonces
import KaniNetwork.Ledger.Operations
import KaniNetwork.Ledger.Overflow
import KaniNetwork.Ledger.Replay
import KaniNetwork.Ledger.ReplayProtection
import KaniNetwork.Ledger.Search
import KaniNetwork.Ledger.SettlementOrder
import KaniNetwork.Ledger.SnapshotRoundTrip
import KaniNetwork.Crypto.InjectiveHash
import KaniNetwork.Crypto.Profile
import KaniNetwork.Consensus.Engine
import KaniNetwork.Consensus.Finality
import KaniNetwork.Consensus.Rotation
import KaniNetwork.Compliance.Screening
import KaniNetwork.Iso20022.Escaping
import KaniNetwork.Iso20022.Insertions
import KaniNetwork.Iso20022.MinorUnits
import KaniNetwork.Iso20022.Pacs008
import KaniNetwork.Iso20022.Report
import KaniNetwork.Iso20022.StatusReport
import KaniNetwork.Node.Block
import KaniNetwork.Node.CaseLifecycle
import KaniNetwork.Node.ChainIntegrity
import KaniNetwork.Node.FinalizedPayments
import KaniNetwork.Node.Idempotency
import KaniNetwork.Node.Liveness
import KaniNetwork.Node.Memory
import KaniNetwork.Node.MemoryTheorems
import KaniNetwork.Node.NonceRace
import KaniNetwork.Node.Postgres
import KaniNetwork.Node.QuorumIntersection
import KaniNetwork.Node.Registry
import KaniNetwork.Node.RetryConflicts
import KaniNetwork.Node.TamperEvidence
import KaniNetwork.Store.ApiStep
import KaniNetwork.Store.AuditTrail
import KaniNetwork.Store.CaseRaces
import KaniNetwork.Store.CaseResolution
import KaniNetwork.Store.Chain
import KaniNetwork.Store.Database
import KaniNetwork.Store.DatabaseTheorems
import KaniNetwork.Store.Idempotency
import KaniNetwork.Store.LoadedLedger
import KaniNetwork.Store.Nonces
import KaniNetwork.Store.Numeric
import KaniNetwork.Store.Postgres
import KaniNetwork.Store.Reload
import KaniNetwork.Store.Requests
import KaniNetwork.Store.Rows
import KaniNetwork.Store.Selects
import KaniNetwork.Store.Snapshot
import KaniNetwork.Store.Sql
import KaniNetwork.Store.StoredTimes
import KaniNetwork.Validator.BatchSelection
import KaniNetwork.Validator.ChainGrowth
import KaniNetwork.Validator.ChainInvariant
import KaniNetwork.Validator.ComplianceHold
import KaniNetwork.Validator.HonestLeader
import KaniNetwork.Validator.LedgerOutline
import KaniNetwork.Validator.Network
import KaniNetwork.Validator.NoFork
import KaniNetwork.Validator.NonceOrder
import KaniNetwork.Validator.PassOutline
import KaniNetwork.Validator.PassReads
import KaniNetwork.Validator.PoisonBlock
import KaniNetwork.Validator.QueueDrain
import KaniNetwork.Validator.RebuiltLedger
import KaniNetwork.Validator.Rejection
import KaniNetwork.Validator.Restart
import KaniNetwork.Validator.Runtime
import KaniNetwork.Validator.SavedBlock
import KaniNetwork.Validator.Seeding
import KaniNetwork.Validator.SnapshotReads
import KaniNetwork.Validator.StaleSnapshot
import KaniNetwork.Validator.StoredHash
import KaniNetwork.Validator.StoredRows
import KaniNetwork.Validator.Sweep
import KaniNetwork.Api.AsyncHandlers
import KaniNetwork.Api.Auth
import KaniNetwork.Api.Decisions
import KaniNetwork.Api.Error
import KaniNetwork.Api.FinalityReport
import KaniNetwork.Api.Gate
import KaniNetwork.Api.GateRules
import KaniNetwork.Api.Handlers
import KaniNetwork.Api.InterleavedSettlement
import KaniNetwork.Api.Interleaving
import KaniNetwork.Api.LogPages
import KaniNetwork.Api.NodeCalls
import KaniNetwork.Api.OriginalIds
import KaniNetwork.Api.Outcomes
import KaniNetwork.Api.PageArithmetic
import KaniNetwork.Api.References
import KaniNetwork.Api.Refusals
import KaniNetwork.Api.ReportXml
import KaniNetwork.Api.Reports
import KaniNetwork.Api.Requests
import KaniNetwork.Api.Router
import KaniNetwork.Api.SandboxPayments
import KaniNetwork.Api.Sequential
import KaniNetwork.Api.Service
import KaniNetwork.Api.Settlement
import KaniNetwork.Api.SettlementReport
import KaniNetwork.Api.Soundness
import KaniNetwork.Api.Statement
import KaniNetwork.Api.StatementText
import KaniNetwork.Api.StoreCalls
import KaniNetwork.Api.StoreReads
import KaniNetwork.Api.StoredAnswers
import KaniNetwork.Api.StoredBooks
import KaniNetwork.Api.StoredPayments
import KaniNetwork.Api.StoredReports
import KaniNetwork.Api.StoredRetries
import KaniNetwork.Api.StoredSettlement
