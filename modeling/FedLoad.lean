import FedLoad.Main
import FedLoad.Plan.Writer
import FedLoad.Proofs.Walk.Paging
import FedLoad.Proofs.Decimal.Unpacked
import FedLoad.Proofs.Load.Sound
import FedLoad.Proofs.Walk.Ledger
import FedLoad.Proofs.Plan.Acceptance
import FedLoad.Proofs.Settings.Chosen
import FedLoad.Proofs.Settings.Model
import FedLoad.Proofs.Keyed
import FedLoad.Proofs.Record.Balance
import FedLoad.Proofs.Settings.Precedence
import FedLoad.Proofs.Settings.TimeUnit
import FedLoad.Proofs.Settings.Completeness
import FedLoad.Proofs.Settings.Overrides
import FedLoad.Proofs.Record.Order
import FedLoad.Proofs.Record.Views
import FedLoad.Proofs.Walk.Entries
import FedLoad.Proofs.Walk.Outage
import FedLoad.Proofs.Run.Step
import FedLoad.Proofs.Run.Slots
import FedLoad.Proofs.Run.Clock
import FedLoad.Proofs.Run.Stop
import FedLoad.Proofs.Run.Abort
import FedLoad.Proofs.Run.Verdict
import FedLoad.Proofs.Client.Written
import FedLoad.Proofs.Run.Pausing
import FedLoad.Proofs.Walk.Embedded
import FedLoad.Proofs.Url.Control
import FedLoad.Proofs.Url.Authority
import FedLoad.Proofs.Url.Joined
import FedLoad.Proofs.Settings.Reachable
import FedLoad.Proofs.Plan.Report
import FedLoad.Proofs.Decimal.Reciprocal
import FedLoad.Proofs.Load.Tick
import FedLoad.Proofs.Run.Length
import FedLoad.Proofs.Threshold.Unsampled
import FedLoad.Proofs.Decimal.Nearest
import FedLoad.Proofs.Decimal.Arithmetic
import FedLoad.Proofs.Decimal.Reading
import FedLoad.Proofs.Decimal.Comparison
import FedLoad.Proofs.Threshold.Grammar
import FedLoad.Proofs.Decimal.Amounts
import FedLoad.Proofs.Latency.Buckets
import FedLoad.Proofs.Latency.Samples
import FedLoad.Proofs.Decimal.Order
import FedLoad.Proofs.Decimal.Rounded
import FedLoad.Proofs.Latency.Rank
import FedLoad.Proofs.Threshold.Sampled
import FedLoad.Proofs.Decimal.Shortest
import FedLoad.Proofs.Decimal.Written
import FedLoad.Proofs.Threshold.Selector
import FedLoad.Proofs.Threshold.Reparse
import FedLoad.Proofs.Latency.History
import FedLoad.Proofs.Latency.Ordered
import FedLoad.Proofs.Latency.Accuracy
import FedLoad.Proofs.Latency.Agreement
import FedLoad.Proofs.Load.Curve
import FedLoad.Proofs.Load.Parts
import FedLoad.Proofs.Load.Area
import FedLoad.Proofs.Check.Outcome
import FedLoad.Proofs.Walk.History
import FedLoad.Proofs.Client.Overlay
import FedLoad.Proofs.Span.Text
import FedLoad.Proofs.Load.Written
import FedLoad.Proofs.Json.Reading
import FedLoad.Proofs.Actor.Satisfied
import FedLoad.Proofs.Span.Reading
import FedLoad.Proofs.Client.Entries
import FedLoad.Proofs.Load.Pause
