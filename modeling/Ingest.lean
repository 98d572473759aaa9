import Ingest.Calendar
import Ingest.ClickHouse.Connection
import Ingest.ClickHouse.Query
import Ingest.ClickHouse.Server
import Ingest.ClickHouse.Store
import Ingest.CommandLine.Arguments
import Ingest.CommandLine.Listening
import Ingest.CommandLine.Program
import Ingest.CommandLine.Texts
import Ingest.Duration
import Ingest.Flush
import Ingest.Ingestor
import Ingest.Json
import Ingest.Keyed
import Ingest.Kind
import Ingest.Labels
import Ingest.Logging.Filter
import Ingest.Main
import Ingest.Metrics.Client
import Ingest.Metrics.Endpoint
import Ingest.Metrics.Family
import Ingest.Metrics.Health
import Ingest.Metrics.Tally
import Ingest.Proofs.Decimal
import Ingest.Proofs.TupleGrammar
import Ingest.Record.Call
import Ingest.Record.Derived
import Ingest.Record.Event
import Ingest.Registry
import Ingest.Row
import Ingest.Schedule
import Ingest.Service
import Ingest.Settings
import Ingest.Settings.Document
import Ingest.Settings.Format
import Ingest.Settings.Validation
import Ingest.Signal
import Ingest.Signal.Tally
import Ingest.Sql.Quote
import Ingest.Sql.Value
import Ingest.Statement
import Ingest.Statement.Cache
import Ingest.Store.Backend
import Ingest.Store.Faulty
import Ingest.Store.Memory
import Ingest.Tenant
import Ingest.Tenant.Database
import Ingest.Text.Blank
import Ingest.Text.Digest
import Ingest.Text.Hex
import Ingest.Text.Ordered
import Ingest.Text.Quoted
import Ingest.Text.Unprintable
import Ingest.TraceCache
import Ingest.Tree
import Ingest.Yaml.Glyph
import Ingest.Yaml.Node
import Ingest.Yaml.Scalar
import Ingest.Yaml.Token
import Ingest.Proofs.CalendarReading
import Ingest.Proofs.RowContents
import Ingest.Proofs.SqlLexing
import Ingest.Proofs.QueryTexts
import Ingest.Proofs.RowSplitting
import Ingest.Proofs.QueryNames
import Ingest.Proofs.StatementLedger
import Ingest.Proofs.BatchWriting
import Ingest.Proofs.HandOver
import Ingest.Proofs.SwitchProtocol
import Ingest.Proofs.FlushAccounts
import Ingest.Proofs.LiveStatements
import Ingest.Proofs.Deposits
import Ingest.Proofs.CollectedMetrics
import Ingest.Proofs.SignalCounts
import Ingest.Proofs.Operations
import Ingest.Proofs.TenantHoldings
import Ingest.Proofs.TenantIsolation
import Ingest.Proofs.StoreCalls
import Ingest.Proofs.DatabaseNames
import Ingest.Proofs.StrandedKeys
import Ingest.Proofs.CacheOwnership
import Ingest.Proofs.SingleTenant
import Ingest.Proofs.Histories
import Ingest.Proofs.CacheBatches
import Ingest.Proofs.CacheHistories
import Ingest.Proofs.StandingStatements
import Ingest.Proofs.IdleStatements
import Ingest.Proofs.ServiceHistories
import Ingest.Proofs.CounterBalance
import Ingest.Proofs.ConfinedWrites
import Ingest.Proofs.Lockstep
import Ingest.Proofs.StoreRefinement
import Ingest.Proofs.SwitchHistory
import Ingest.Proofs.FlushedBatches
import Ingest.Proofs.FanOut
import Ingest.Proofs.PreparedStatements
import Ingest.Proofs.ServiceLifetimes
import Ingest.Proofs.Inbox
import Ingest.Proofs.Shutdown
import Ingest.Proofs.TreeWalk
import Ingest.Proofs.Relationships
import Ingest.Proofs.DatabaseSetup
import Ingest.Proofs.TimeLiterals
import Ingest.Proofs.DatedEvents
import Ingest.Proofs.SwitchKeys
import Ingest.Proofs.ServedTables
import Ingest.Proofs.ClosedMeanwhile
import Ingest.Proofs.ColumnChecks
import Ingest.Proofs.QueryCalls
import Ingest.Proofs.CheckedInserts
import Ingest.Proofs.TreeShape
import Ingest.Proofs.CacheBooks
import Ingest.Proofs.ProfileRequests
import Ingest.Proofs.ClientSeries
import Ingest.Proofs.FirstFault
import Ingest.Proofs.TableOverrides
import Ingest.Proofs.UnnamedDatabases
