/-!
# Verbosity

How much is logged for how often more was asked for.
-/

namespace SubjectRules.Verbosity

def logLevel : Nat → String
  | 0 => "warn"
  | 1 => "info"
  | 2 => "debug"
  | _ => "trace"

end SubjectRules.Verbosity
