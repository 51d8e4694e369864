import Listing.Main
import Listing.Pattern.Check
import Listing.Settings.Pool
import Listing.Proofs.Text.Splitting
import Listing.Proofs.Text.Percent
import Listing.Proofs.Query.Key
import Listing.Proofs.Search.Agreement
import Listing.Proofs.Search.Paging
import Listing.Proofs.Search.PointInTime
import Listing.Proofs.Query.WellFormed
import Listing.Proofs.Service.Blame
import Listing.Proofs.Sql.Lexing
import Listing.Proofs.Sql.Rendering
import Listing.Proofs.Sql.Quoting
import Listing.Proofs.Number.Rounding
import Listing.Proofs.Number.Shortest
import Listing.Proofs.Number.Positional
import Listing.Proofs.Sql.Grammar
import Listing.Proofs.Sql.Precedence
import Listing.Proofs.Sql.Grouping
import Listing.Proofs.Sql.ReadBack
import Listing.Proofs.Query.Grammar
import Listing.Proofs.Query.Canonical
import Listing.Proofs.Query.Interleaving
import Listing.Proofs.Sql.Lists
import Listing.Proofs.Sql.Parentheses
import Listing.Proofs.Store.Protocol
import Listing.Proofs.Pattern.Dialects
import Listing.Proofs.Pattern.Anchors
import Listing.Proofs.Pattern.Wildcards
import Listing.Proofs.Store.LeftJoin
import Listing.Proofs.Store.Separation
import Listing.Proofs.Search.Naming
import Listing.Proofs.Query.Alternatives
import Listing.Proofs.Search.Refusal
import Listing.Proofs.Query.Rejections
import Listing.Proofs.Search.Batches
import Listing.Proofs.Calendar.Days
import Listing.Proofs.Calendar.Written
import Listing.Proofs.Pattern.Spelling
import Listing.Proofs.Sql.NormalForm
import Listing.Proofs.Store.Position
import Listing.Proofs.Calendar.Accepted
import Listing.Proofs.Schema.Acceptance
import Listing.Proofs.Settings.Bundle
import Listing.Proofs.Settings.KeywordValue
