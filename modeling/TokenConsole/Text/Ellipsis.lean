/-!
# Shortened text
-/
namespace TokenConsole.Text

/-- A text of at most `max` characters: a longer one loses its end to an ellipsis, which counts. -/
def ellipsize (max : Nat) (s : String) : String :=
  if s.length ≤ max then s
  else if max = 0 then ""
  else String.ofList (s.toList.take (max - 1)) ++ "…"

end TokenConsole.Text
