/-!
# The password policy

A password is checked before an account is asked for. The checks run in a fixed order, and the
first one that fails names the problem.
-/
namespace TokenConsole.Password

def minLength : Nat := 8

def maxLength : Nat := 72

inductive Problem where
  | tooLong
  | tooShort
  | invalidCharacters
  | missingLetterOrDigit
  deriving DecidableEq, Repr

def Problem.message : Problem → String
  | .tooLong => "Password is too long"
  | .tooShort => "Password must be at least 8 characters long"
  | .invalidCharacters => "Password contains invalid characters"
  | .missingLetterOrDigit => "Password must contain Latin letters and digits"

def isAscii (c : Char) : Bool := c.toNat < 128

/-- The first problem of a password, in the order of the policy. Lengths count characters. -/
def problem? (password : String) : Option Problem :=
  let cs := password.toList
  if maxLength < cs.length then some .tooLong
  else if cs.length < minLength then some .tooShort
  else if !cs.all isAscii then some .invalidCharacters
  else if !(cs.any Char.isAlpha && cs.any Char.isDigit) then some .missingLetterOrDigit
  else none

end TokenConsole.Password
