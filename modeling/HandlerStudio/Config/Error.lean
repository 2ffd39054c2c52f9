import HandlerStudio.Disk.Basic
import HandlerStudio.Target.Basic

/-!
# Failures of configuration
-/

namespace HandlerStudio

inductive ConfigError where
  | unreadable (path : String) (fault : DiskFault)
  | malformed
  | invalid (reason : String)
  | target (error : TargetError)
deriving DecidableEq, Repr

def ConfigError.message : ConfigError → String
  | .unreadable path fault => "cannot read config " ++ path ++ ": " ++ fault.message
  | .malformed => "invalid config syntax"
  | .invalid reason => "invalid config: " ++ reason
  | .target error => "invalid preview target: " ++ error.message

end HandlerStudio
