import SchwabGateway.OrderBook.Continuity
import SchwabGateway.OrderBook.Freshness
import SchwabGateway.OrderBook.Isolation
import SchwabGateway.Reads.Drift
import SchwabGateway.Scheduler.Preemption
import SchwabGateway.Token.Atomicity
import SchwabGateway.Token.AsyncRelease
import SchwabGateway.Token.CallbackScope
import SchwabGateway.Token.Readiness
import SchwabGateway.Token.Usability
import SchwabGateway.Upstream.ChainCompleteness
import SchwabGateway.Upstream.ChainLaw
import SchwabGateway.Upstream.Classification
import SchwabGateway.Upstream.Quote
import SchwabGateway.Upstream.WireAgreement
import SchwabGateway.Provider.Handover
import SchwabGateway.Keys.FailedIssuance
import SchwabGateway.OrderBook.Malformed
import SchwabGateway.Reads.Announcement
import SchwabGateway.Reads.OneAdmission
import SchwabGateway.Token.HealthAgreement
import SchwabGateway.Token.LockRelease
import SchwabGateway.Upstream.CompletedSession
import SchwabGateway.Upstream.Holidays
import SchwabGateway.TtlAnalysis.QuantileLaw
import SchwabGateway.Upstream.QuoteBatch
import SchwabGateway.Token.ReadBack
import SchwabGateway.Client.Stream
import SchwabGateway.Api.Grace
import SchwabGateway.Client.Recent
import SchwabGateway.Export.SessionHistory
import SchwabGateway.Provider.Origins
import SchwabGateway.Provider.QuoteBatches
