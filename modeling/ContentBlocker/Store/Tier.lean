/-!
# Tiers

A client can change its rules in two tiers.  Those of the dynamic tier are meant to last, those of
the session tier are not.
-/

namespace ContentBlocker

inductive Tier where
  | dynamic
  | session
deriving DecidableEq, Repr

namespace Tier

def name : Tier → String
  | dynamic => "dynamic"
  | session => "session"

/-- The name at the start of a sentence. -/
def title : Tier → String
  | dynamic => "Dynamic"
  | session => "Session"

end Tier

end ContentBlocker
