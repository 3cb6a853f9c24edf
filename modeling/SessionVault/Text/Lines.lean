/-!
# Lines of a text

A line ends at a line feed or at the end of the text; a carriage return before the line feed belongs
to the end of the line.  Nothing follows a line feed that ends the text.
-/

namespace SessionVault

/-- A line without the carriage return at its end; the characters are newest first. -/
def closeLine (line : List Char) : String :=
  match line with
  | '\r' :: rest => String.ofList rest.reverse
  | _ => String.ofList line.reverse

/-- The lines of a text; `line` holds the characters since the last line feed, newest first. -/
def linesFrom (line : List Char) : List Char → List String
  | [] => if line.isEmpty then [] else [String.ofList line.reverse]
  | c :: rest =>
    if c = '\n' then closeLine line :: linesFrom [] rest else linesFrom (c :: line) rest

/-- The lines of a text. -/
def linesOf (text : String) : List String := linesFrom [] text.toList

end SessionVault
