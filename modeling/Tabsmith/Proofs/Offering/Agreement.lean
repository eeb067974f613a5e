import Tabsmith.Proofs.Offering.Bash
import Tabsmith.Proofs.Offering.Fish
import Tabsmith.Proofs.Offering.PowerShell
import Tabsmith.Proofs.Offering.Zsh

/-!
The four scripts of a program agree on what they offer after every path.
-/

namespace Tabsmith

end Tabsmith
