/-!
# Failures of the gateway

What can go wrong with a call, and the text that the user sees for it.
-/
namespace TokenConsole.Gateway

inductive Error where
  /-- The request was refused before it was sent. -/
  | validation (text : String)
  | sessionExpired
  | invalidCredentials
  | conflict
  | invalidToken
  /-- The gateway answered with a status that is no success. -/
  | http (status : Nat) (text : String)
  /-- No answer was received. -/
  | transport (text : String)
  | unexpectedShape (text : String)
  | decode (text : String)
  deriving DecidableEq, Repr

def Error.message : Error → String
  | .validation text => text
  | .sessionExpired => "Session expired, please sign in again"
  | .invalidCredentials => "Invalid login or password"
  | .conflict => "A user with this login already exists"
  | .invalidToken => "Invalid token"
  | .http status text => s!"Error {status} {text}"
  | .transport text => s!"Network error: {text}"
  | .unexpectedShape text => s!"Unexpected response from server: {text}"
  | .decode text => s!"Failed to decode plaintext: {text}"

end TokenConsole.Gateway
