import PageConfig.Decode.Error

/-!
# Failures

What can go wrong outside a render pass, and the text that is reported for it.
-/

set_option autoImplicit false

namespace PageConfig

inductive PageError where
  | malformedValue
  | malformedMarkup
  | undecodable (cause : DecodeError)
  | invalidDocument (field message : String)
  | loaderFailed (componentType message : String)
  | internal (message : String)

def PageError.message : PageError → String
  | .malformedValue => "JSON error: malformed text"
  | .malformedMarkup => "YAML error: malformed text"
  | .undecodable cause => "JSON error: " ++ cause.message
  | .invalidDocument field message => "Invalid document at '" ++ field ++ "': " ++ message
  | .loaderFailed componentType message =>
    "Failed to load component '" ++ componentType ++ "': " ++ message
  | .internal message => "Internal error: " ++ message

end PageConfig
