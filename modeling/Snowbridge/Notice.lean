/-!
# Notices

Lines for an operator that accompany a result without being part of it.
-/

namespace Snowbridge

inductive Notice where
  | warning (text : String)
  | failure (text : String)
deriving DecidableEq

/-- The line with its level in front. -/
def Notice.line : Notice → String
  | .warning text => "WARN: " ++ text
  | .failure text => "ERROR: " ++ text

end Snowbridge
