import Tabsmith.Proofs.Calls.Bash
import Tabsmith.Proofs.Calls.Zsh

/-!
Calls and definitions agree: every completion function but the entry function is called exactly once,
whatever the commands are named, and no name is called that is not defined.
-/

namespace Tabsmith

end Tabsmith
