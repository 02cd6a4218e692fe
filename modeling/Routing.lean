import Routing.Text.Form
import Routing.Url.Reference
import Routing.Decoder
import Routing.Regex.Property
import Routing.Regex.Reading
import Routing.Regex.Search.Lemmas
import Routing.Address
import Routing.RouteData
import Routing.Template
import Routing.Text.Quoted
import Routing.Pattern.Coding
import Routing.Pattern.Rank
import Routing.Router
import Routing.Proofs.Pattern.RoundTrip
import Routing.Proofs.Router.InStep
import Routing.Proofs.Location
import Routing.Proofs.Pattern.Groups
import Routing.Proofs.RouteTable.Winner
import Routing.Proofs.Router.Listening
import Routing.Proofs.Router.Answering
import Routing.Proofs.History.Zipper
import Routing.Proofs.Pattern.Strings
import Routing.Proofs.RouteTable.Reload
import Routing.Proofs.Router.Recording
import Routing.Proofs.Router.Draining
import Routing.Proofs.Template.Cursor
import Routing.Proofs.Pattern.Display
import Routing.Proofs.Location.Settled
import Routing.Proofs.Pattern.Segments
import Routing.Proofs.Pattern.Specificity
import Routing.Proofs.Location.Datetimes
import Routing.Proofs.Pattern.Repetition
import Routing.Proofs.Pattern.Splicing
import Routing.Proofs.Group
import Routing.Proofs.RouteTable.Insertion
import Routing.Proofs.App.Building
import Routing.Proofs.Address
import Routing.Proofs.Decoder.Integers
import Routing.Proofs.Template.Failures
import Routing.Proofs.Pattern.Compiling
import Routing.Proofs.Pattern.NormalForm
import Routing.Proofs.Url.Component
