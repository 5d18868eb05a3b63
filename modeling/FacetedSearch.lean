import FacetedSearch.Number.Double
import FacetedSearch.Number.Shortest
import FacetedSearch.Text.Blank
import FacetedSearch.Text.Case
import FacetedSearch.Text.Digit
import FacetedSearch.Text.Encoding
import FacetedSearch.Text.Numeral
import FacetedSearch.Text.Pieces
import FacetedSearch.Text.Printable
import FacetedSearch.Text.Quoted
import FacetedSearch.Text.Surrogate
import FacetedSearch.Json.Basic
import FacetedSearch.Json.Sameness
import FacetedSearch.Json.Access
import FacetedSearch.Json.Text
import FacetedSearch.Json.Presented
import FacetedSearch.Json.Reader
import FacetedSearch.Json.Printer
import FacetedSearch.Validation.Checked
import FacetedSearch.Validation.Numeral
import FacetedSearch.Validation.Scalar
import FacetedSearch.Failure
import FacetedSearch.Settings.Basic
import FacetedSearch.Settings.Environment
import FacetedSearch.Logging.Loggers
import FacetedSearch.Clause.Basic
import FacetedSearch.Filter.Basic
import FacetedSearch.Filter.Wire
import FacetedSearch.Filter.Clause
import FacetedSearch.Aggregation.Basic
import FacetedSearch.Facet.Basic
import FacetedSearch.Query.Basic
import FacetedSearch.Query.Wire
import FacetedSearch.Query.Mutation
import FacetedSearch.Query.Live
import FacetedSearch.Search.Body
import FacetedSearch.Result.Basic
import FacetedSearch.Result.Mapping
import FacetedSearch.Engine.Request
import FacetedSearch.Engine.Address
import FacetedSearch.Engine.Client
import FacetedSearch.Dataset.Step
import FacetedSearch.Dataset.Session
import FacetedSearch.Dataset.Fields
import FacetedSearch.Dataset.Record
import FacetedSearch.Dataset.Run
import FacetedSearch.Http.Status
import FacetedSearch.Http.Route
import FacetedSearch.Http.Response
import FacetedSearch.Http.Service
import FacetedSearch.Http.Application
import FacetedSearch.Proofs.Outcome
import FacetedSearch.Proofs.Json.Members
import FacetedSearch.Proofs.Json.Sense
import FacetedSearch.Proofs.Number.Value
import FacetedSearch.Proofs.Text.Blank
import FacetedSearch.Proofs.Text.Pieces
import FacetedSearch.Proofs.Text.Numeral
import FacetedSearch.Proofs.Text.Decimal
import FacetedSearch.Proofs.Json.Printable
import FacetedSearch.Proofs.Settings.Items
import FacetedSearch.Proofs.Engine.Address
import FacetedSearch.Proofs.Json.Equality
import FacetedSearch.Proofs.Validation.Reading
import FacetedSearch.Proofs.Validation.Alike
import FacetedSearch.Proofs.Search.Compilation
import FacetedSearch.Proofs.Search.Encoding
import FacetedSearch.Proofs.Search.Agreement
import FacetedSearch.Proofs.Search.Meaning
import FacetedSearch.Proofs.Search.Failing
import FacetedSearch.Proofs.Query.Snapshot
import FacetedSearch.Proofs.Query.Mutation
import FacetedSearch.Proofs.Query.Coherence
import FacetedSearch.Proofs.Query.Registry
import FacetedSearch.Proofs.Search.DateFormat
import FacetedSearch.Proofs.Query.Part
import FacetedSearch.Proofs.Query.RoundTrip
import FacetedSearch.Proofs.Query.Update
import FacetedSearch.Proofs.Query.SecondNames
import FacetedSearch.Proofs.Query.EitherName
import FacetedSearch.Proofs.Query.Announcement
import FacetedSearch.Proofs.Query.FilterHistory
import FacetedSearch.Proofs.Query.FilterAdmission
import FacetedSearch.Proofs.Query.RegistryCall
import FacetedSearch.Proofs.Query.RegistryHistory
import FacetedSearch.Proofs.Dataset.Keeping
import FacetedSearch.Proofs.Dataset.Phases
import FacetedSearch.Proofs.Dataset.Staleness
import FacetedSearch.Proofs.Dataset.Isolation
import FacetedSearch.Proofs.Dataset.Atomicity
import FacetedSearch.Proofs.Dataset.Announcement
import FacetedSearch.Proofs.Dataset.Updating
import FacetedSearch.Proofs.Dataset.Copying
import FacetedSearch.Proofs.Dataset.SelfObserved
import FacetedSearch.Proofs.Dataset.AutoQuery
import FacetedSearch.Proofs.Dataset.Nesting
import FacetedSearch.Proofs.Dataset.Delivery
import FacetedSearch.Proofs.Dataset.Storage
import FacetedSearch.Proofs.Dataset.FieldListing
import FacetedSearch.Proofs.Result.Mapping
import FacetedSearch.Proofs.Result.Faithfulness
import FacetedSearch.Proofs.Result.Selection
import FacetedSearch.Proofs.Result.Correspondence
import FacetedSearch.Proofs.Dataset.Summary
import FacetedSearch.Proofs.Search.Negation
import FacetedSearch.Proofs.Search.Payload
import FacetedSearch.Proofs.Search.Bounds
import FacetedSearch.Proofs.Search.Boosts
import FacetedSearch.Proofs.Http.Paths
import FacetedSearch.Proofs.Http.Endpoints
import FacetedSearch.Proofs.Http.Envelopes
