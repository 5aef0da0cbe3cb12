import UriTemplate.Datum.Assembly
import UriTemplate.Expand
import UriTemplate.Log
import UriTemplate.Log.Setup
import UriTemplate.Proofs.Percent.Unescape
import UriTemplate.Proofs.Template.Grammar
import UriTemplate.Proofs.Template.Reader
import UriTemplate.Proofs.Template.Simulation
import UriTemplate.Proofs.Template.Acceptance
import UriTemplate.Proofs.Template.Canonical
import UriTemplate.Proofs.Template.RoundTrip
import UriTemplate.Proofs.Datum.Genuine
import UriTemplate.Proofs.Expansion.Layout
import UriTemplate.Proofs.Expansion.Decoding
import UriTemplate.Proofs.Template.Prefix
import UriTemplate.Proofs.Template.Failure
import UriTemplate.Proofs.Template.Lockstep
import UriTemplate.Proofs.Expansion.Relevance
import UriTemplate.Proofs.Template.Concatenation
import UriTemplate.Proofs.Token.Tiling
import UriTemplate.Proofs.Template.FaultPosition
import UriTemplate.Proofs.Percent.Escaping
import UriTemplate.Proofs.Expansion.Alphabet
import UriTemplate.Proofs.Template.Extension
import UriTemplate.Proofs.Utf8.Shortest
import UriTemplate.Proofs.Percent.Verbatim
import UriTemplate.Proofs.Percent.Pointwise
import UriTemplate.Proofs.Template.LiteralRun
import UriTemplate.Proofs.Expansion.Splitting
import UriTemplate.Proofs.Expansion.Streaming
import UriTemplate.Proofs.Datum.Records
import UriTemplate.Proofs.Expansion.Records
import UriTemplate.Proofs.Expansion.Reserved
import UriTemplate.Proofs.Template.Atomicity
import UriTemplate.Proofs.Template.LengthLimit
import UriTemplate.Proofs.Expansion.Interchange
import UriTemplate.Proofs.Expansion.Skipping
import UriTemplate.Proofs.Datum.Wrapping
import UriTemplate.Proofs.Expansion.Wrapping
