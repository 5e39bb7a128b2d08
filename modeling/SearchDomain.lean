import SearchDomain.Main
import SearchDomain.Client.Session
import SearchDomain.Proofs.Client.Failures
import SearchDomain.Proofs.CommandLine.Environment
import SearchDomain.Proofs.CommandLine.Run
import SearchDomain.Proofs.Config.Address
import SearchDomain.Proofs.Document.Batch
import SearchDomain.Proofs.Document.Nulls
import SearchDomain.Proofs.Document.Submission
import SearchDomain.Proofs.Filter.DateRange
import SearchDomain.Proofs.Filter.Grammar
import SearchDomain.Proofs.Filter.IntegerRange
import SearchDomain.Proofs.Filter.Rearrangement
import SearchDomain.Proofs.Filter.TextValue
import SearchDomain.Proofs.Filter.TimestampRange
import SearchDomain.Proofs.Page.Place
import SearchDomain.Proofs.Page.Views
import SearchDomain.Proofs.Page.Walk
import SearchDomain.Proofs.Page.Words
import SearchDomain.Proofs.Query.ReturnFields
import SearchDomain.Proofs.Query.SilentFilter
import SearchDomain.Proofs.Query.Terms
import SearchDomain.Proofs.Query.Url
