/-! What can go wrong with a configuration. -/

namespace Courier

/-- A configuration that could not be read. -/
inductive ConfigError where
  | notFound (key : String)
  | parse (message : String)
  | file (message : String)
  | provider (name message : String)
deriving DecidableEq, Repr

/-- The name of the kind of error. -/
def ConfigError.kind : ConfigError → String
  | .notFound _ => "NotFound"
  | .parse _ => "ParseError"
  | .file _ => "IoError"
  | .provider _ _ => "ProviderError"

/-- The error in words. -/
def ConfigError.text : ConfigError → String
  | .notFound key => "configuration key not found: " ++ key
  | .parse message => "failed to parse configuration: " ++ message
  | .file message => "IO error: " ++ message
  | .provider name message => "provider error: " ++ name ++ ": " ++ message

end Courier
