import EntityQuery.Main
import EntityQuery.Persister.Description
import EntityQuery.Settings.Printer
import EntityQuery.Proofs.Lifecycle.Coherence
import EntityQuery.Proofs.QueryText.RoundTrip
import EntityQuery.Proofs.QueryText.Accepted
import EntityQuery.Proofs.Filter.Where
import EntityQuery.Proofs.Memory.Settled
import EntityQuery.Proofs.Memory.Operation
import EntityQuery.Proofs.Repository.Statement
import EntityQuery.Proofs.Repository.Agreement
import EntityQuery.Proofs.Provenance.Reading
import EntityQuery.Proofs.Provenance.Statement
import EntityQuery.Proofs.Counting.Count
import EntityQuery.Proofs.Scanning.Scanned
import EntityQuery.Proofs.Scanning.Statement
import EntityQuery.Proofs.Texts.Mapped
import EntityQuery.Proofs.Texts.Tokens
import EntityQuery.Proofs.Texts.Criteria
import EntityQuery.Proofs.Repository.Texts
import EntityQuery.Proofs.Lifecycle.Draft
import EntityQuery.Proofs.Filter.Fitting
import EntityQuery.Proofs.Execution.Serving
import EntityQuery.Proofs.Execution.FirstRow
import EntityQuery.Proofs.Filter.Readable
import EntityQuery.Proofs.QueryText.Agreement
import EntityQuery.Proofs.Memory.Built
import EntityQuery.Proofs.Memory.History
import EntityQuery.Proofs.Resolution.Interleaving
import EntityQuery.Proofs.CommandLine.TextRequest
import EntityQuery.Proofs.Calendar
import EntityQuery.Proofs.Postgres.Decoding
import EntityQuery.Proofs.Composing
import EntityQuery.Proofs.Connection.Parameters
import EntityQuery.Proofs.Operand
import EntityQuery.Proofs.Refusal
import EntityQuery.Proofs.Repository.Exchange
import EntityQuery.Proofs.Postgres.ErrorPlace
import EntityQuery.Proofs.QueryText.Regrouping
import EntityQuery.Proofs.QueryText.FaultPosition
import EntityQuery.Proofs.Leaves
import EntityQuery.Proofs.QueryText.Boundary
import EntityQuery.Proofs.QueryText.KeywordPosition
import EntityQuery.Proofs.Integers.Request
import EntityQuery.Proofs.Identity
import EntityQuery.Proofs.Row
import EntityQuery.Proofs.Reading.Lines
import EntityQuery.Proofs.Settings.RoundTrip
