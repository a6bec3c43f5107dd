import Proximity.Proofs.Reader.Numbering

/-!
What goes over the air: the opening of an attempt, and an acknowledgement for each request for time.
-/
namespace Proximity

namespace Reader

end Reader

end Proximity
