import TokenConsole.Calendar.Moment

/-!
# Token mappings
-/
namespace TokenConsole.Gateway

/-- A token and what the gateway keeps for it, ready to be shown. -/
structure Mapping where
  id : String
  cipherText : String
  wrappedKey : String
  /-- Empty if the token never expires. -/
  ttl : String
  createdAt : Option Calendar.Moment
  deterministic : Option Bool
  reversible : Option Bool
  deriving DecidableEq, Repr

/-- The date of creation as it is shown in the zone of the machine, empty if it is not known. -/
def Mapping.created [Calendar.Zone] (m : Mapping) : String :=
  match m.createdAt with
  | some t => t.text
  | none => ""

end TokenConsole.Gateway
