import SearchStore.Aggregation.Result
import SearchStore.Binary64.Reading
import SearchStore.Filter.Stored
import SearchStore.Http.Client
import SearchStore.Options.Arguments
import SearchStore.Options.Stored
import SearchStore.Proofs.Retry.Run
import SearchStore.Repository.Bulk
import SearchStore.Repository.Index
import SearchStore.Repository.Search
import SearchStore.Retry.Script
import SearchStore.Proofs.Repository.Exchange
import SearchStore.Proofs.Bulk.Sending
import SearchStore.Proofs.Bulk.LastWrite
import SearchStore.Proofs.Bulk.Load
import SearchStore.Proofs.FirstMention
import SearchStore.Proofs.Aggregation.Names
import SearchStore.Proofs.Query.Grouping
import SearchStore.Proofs.Query.Meaning
import SearchStore.Proofs.Schema.Chains
import SearchStore.Proofs.Aggregation.Answers
import SearchStore.Proofs.Retry.Delivery
import SearchStore.Proofs.Retry.SideBySide
import SearchStore.Proofs.Engine.Losses
import SearchStore.Proofs.Repository.Masking
import SearchStore.Proofs.Repository.Requests
import SearchStore.Proofs.Engine.Flights
import SearchStore.Proofs.Retry.Cancellation
import SearchStore.Proofs.Repository.Cancellation
import SearchStore.Proofs.Engine.Lines
import SearchStore.Proofs.Repository.Storage
import SearchStore.Proofs.Bulk.Resending
import SearchStore.Proofs.Engine.Contested
import SearchStore.Proofs.Repository.Deletion
import SearchStore.Proofs.Engine.Cluster
import SearchStore.Proofs.Repository.Creation
import SearchStore.Proofs.Repository.Resumption
import SearchStore.Proofs.Retry.Interleaving
import SearchStore.Proofs.Repository.Phases
import SearchStore.Proofs.Repository.Removal
import SearchStore.Proofs.Retry.Course
import SearchStore.Proofs.Bulk.Acknowledgement
import SearchStore.Proofs.Aggregation.Scopes
import SearchStore.Proofs.Repository.Transience
import SearchStore.Proofs.Schema.Flaws
import SearchStore.Proofs.Schema.Segments
import SearchStore.Proofs.Schema.Paths
import SearchStore.Proofs.Schema.Optional
import SearchStore.Proofs.Engine.Removals
import SearchStore.Proofs.Repository.BulkDeletion
import SearchStore.Proofs.Bulk.Framing
import SearchStore.Proofs.Http.Refusals
import SearchStore.Proofs.Schema.WireNames
import SearchStore.Proofs.Filter.Storage
import SearchStore.Proofs.Query.Rendering
import SearchStore.Proofs.Bulk.Outcomes
import SearchStore.Proofs.Http.Transfers
import SearchStore.Proofs.Http.Absence
import SearchStore.Proofs.Schema.Depth
import SearchStore.Proofs.Schema.CamelCase
import SearchStore.Proofs.Bulk.RefreshInterval
