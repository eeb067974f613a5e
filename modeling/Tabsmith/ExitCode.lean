/-!
The codes with which a run ends.
-/

namespace Tabsmith

/-- How a run ended. -/
inductive ExitCode where
  | success
  /-- The command line cannot be used. -/
  | usage
  /-- The document is not valid. -/
  | invalid
  /-- A file could not be read or written. -/
  | failure
deriving DecidableEq, Repr, Inhabited

/-- The number that the system sees. -/
def ExitCode.number : ExitCode → Nat
  | success => 0
  | usage => 1
  | invalid => 2
  | failure => 3

end Tabsmith
