import Snowbridge.FileTree

/-!
# Configuration faults

What can be wrong with a configuration. Every fault is found before a connection is attempted.
-/

namespace Snowbridge

inductive ConfigError where
  | fileNotFound (path : String)
  | missingField (field : String)
  | missingCredentials
  | keyFileNotFound (path : String)
  | invalid (reason : String)
  | invalidOption (option value expected : String)
  | unreadable (path : String) (fault : ReadFault)
  | malformedDocument

/-- The text of a fault, with its code. -/
def ConfigError.message : ConfigError → String
  | .fileNotFound path => "[C001] Config file not found: " ++ path
  | .missingField field => "[C003] " ++ field ++ " not given, required."
  | .missingCredentials =>
    "[C004] No credentials given: set either a password or a private key path"
  | .keyFileNotFound path => "[C005] Private key file not found: " ++ path
  | .invalid reason => "[C006] Invalid config: " ++ reason
  | .invalidOption option value expected =>
    "[C007] Invalid value '" ++ value ++ "' for connection option '" ++ option ++ "': expected " ++
      expected
  | .unreadable path fault => "[C008] Failed to read '" ++ path ++ "': " ++ fault.message
  | .malformedDocument => "[C009] Config parse error"

end Snowbridge
