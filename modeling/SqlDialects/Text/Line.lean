import SqlDialects.Text.Blank

/-!
# Lines of a text

A line ends at a line feed; a carriage return directly before the line feed belongs to the line
end.  A text that ends with a line feed has no further, empty line after it.
-/

set_option autoImplicit false

namespace SqlDialects.Text

/-- A finished line, given backwards, without the carriage return of its line end. -/
def endLine : Chars → Chars
  | '\r' :: line => line.reverse
  | line => line.reverse

/-- Collects the lines; `pending` is the line being read, backwards. -/
def linesFrom (pending : Chars) : Chars → List Chars
  | [] => if pending.isEmpty then [] else [pending.reverse]
  | '\n' :: rest => endLine pending :: linesFrom [] rest
  | c :: rest => linesFrom (c :: pending) rest

/-- The lines of a text, without their line ends. -/
def lines (s : Chars) : List Chars := linesFrom [] s

end SqlDialects.Text
