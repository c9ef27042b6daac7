import TokenConsole.Text.Ignorable

/-!
# Lines of a text

A line ends with a line feed, a carriage return, or both in either order. Behind the last line end
there is a line only if there is text.
-/
namespace TokenConsole.Text

def lines : List Char → List (List Char)
  | [] => []
  | '\r' :: '\n' :: rest => [] :: lines rest
  | '\n' :: '\r' :: rest => [] :: lines rest
  | c :: rest =>
    if c == '\r' || c == '\n' then [] :: lines rest
    else
      match lines rest with
      | [] => [[c]]
      | line :: others => (c :: line) :: others

/-- Whether there is anything to see of a line. -/
def isSeen (line : List Char) : Bool := line.any (!isIgnorable ·)

end TokenConsole.Text
