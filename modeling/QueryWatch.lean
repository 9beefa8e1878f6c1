import QueryWatch.Display.Blocks
import QueryWatch.Watch.Interleaving
import QueryWatch.Probe
import QueryWatch.Trace.Interleaving
import QueryWatch.Main
import QueryWatch.Proofs.QuestionGrammar
import QueryWatch.Proofs.Accounting
import QueryWatch.Proofs.Delivery
import QueryWatch.Proofs.LineFeeds
import QueryWatch.Proofs.Denial
import QueryWatch.Proofs.Cleaning
import QueryWatch.Proofs.Truncation
import QueryWatch.Proofs.NumericProperties
import QueryWatch.Proofs.MixedCase
import QueryWatch.Proofs.FillingUp
import QueryWatch.Proofs.ReadLoop
import QueryWatch.Proofs.NormalForm
import QueryWatch.Proofs.Agreement
import QueryWatch.Proofs.ReadingBack
import QueryWatch.Proofs.DroppedCaptures
import QueryWatch.Proofs.Attribution
import QueryWatch.Proofs.BackendFailures
import QueryWatch.Proofs.SettingsEffect
import QueryWatch.Proofs.DefaultRules
import QueryWatch.Proofs.PropertyEncoding
import QueryWatch.Proofs.TextCodes
import QueryWatch.Proofs.ShownReadings
import QueryWatch.Proofs.Identification
import QueryWatch.Proofs.ClockOverflow
import QueryWatch.Proofs.DottedNames
import QueryWatch.Proofs.SchemaListing
import QueryWatch.Proofs.AlignedColumns
