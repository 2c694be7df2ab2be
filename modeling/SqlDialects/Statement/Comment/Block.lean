/-
Taking block comments out of a statement. Each comment leaves one space behind; string literals and line
comments are kept as they are, so nothing inside them opens a comment. A comment that is not closed takes
the rest of the statement with it.
-/
import SqlDialects.Text.Basic

namespace SqlDialects

/-- How block comments are marked, and what else has to be told apart from them. -/
structure BlockComments where
  opening : Text
  closing : Text
  /-- Whether an opening mark inside a comment opens another one. -/
  nested : Bool
  /-- The marks of line comments, inside which no block comment opens. -/
  lineMarks : List Text
deriving DecidableEq, Repr

namespace BlockComments

/-- Where a reader of the statement is. -/
inductive Mode
  | outside
  | inString
  /-- In a comment that lies in so many others. -/
  | inComment (enclosing : Nat)
deriving DecidableEq, Repr

/-- What is left of the rest of a statement. -/
def eraseFrom (m : BlockComments) : Mode → Text → Text
  | _, [] => []
  | .outside, c :: rest =>
    if c = '\'' then c :: m.eraseFrom .inString rest
    else if Text.opensWith (c :: rest) m.opening then
      m.eraseFrom (.inComment 0) (rest.drop (m.opening.length - 1))
    else if m.lineMarks.any (Text.opensWith (c :: rest)) then
      c :: rest.takeWhile (· ≠ '\n') ++ m.eraseFrom .outside (rest.dropWhile (· ≠ '\n'))
    else c :: m.eraseFrom .outside rest
  | .inString, c :: rest => c :: m.eraseFrom (if c = '\'' then .outside else .inString) rest
  | .inComment n, c :: rest =>
    if Text.opensWith (c :: rest) m.closing then
      match n with
      | 0 => ' ' :: m.eraseFrom .outside (rest.drop (m.closing.length - 1))
      | n + 1 => m.eraseFrom (.inComment n) (rest.drop (m.closing.length - 1))
    else if m.nested && Text.opensWith (c :: rest) m.opening then
      m.eraseFrom (.inComment (n + 1)) (rest.drop (m.opening.length - 1))
    else m.eraseFrom (.inComment n) rest
termination_by _ s => s.length
decreasing_by
  all_goals
    simp only [List.length_drop, List.length_cons]
    have := (List.dropWhile_suffix (l := rest) (· ≠ '\n')).length_le
    omega

/-- The statement with a space in place of each block comment. -/
def erase (m : BlockComments) (s : Text) : Text := m.eraseFrom .outside s

end BlockComments

end SqlDialects
