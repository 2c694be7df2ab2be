/-
Taking whole-line comments out of a statement: those that stand at the beginning of a line, behind
nothing but spaces and tabs. The end of the line stays.
-/
import SqlDialects.Statement.Pattern

namespace SqlDialects

/-- A comment that is marked by one of the marks, with the spaces and tabs in front of it. -/
def lineComment (marks : List Text) : Pattern :=
  .many (.one (.oneOf [' ', '\t'])) ++ .anyOf (marks.map .verbatim) ++ .many (.one .inLine)

namespace Cursor

/-- The end of the comment at the place, if the place begins a line and a comment is there. -/
def behindLineComment? (marks : List Text) (c : Cursor) : Option Cursor :=
  if c.atLineStart then
    ((lineComment marks).end? c).filter fun d => d.ahead.length < c.ahead.length
  else none

theorem length_behindLineComment?_lt {marks : List Text} {c d : Cursor}
    (h : c.behindLineComment? marks = some d) : d.ahead.length < c.ahead.length := by
  unfold behindLineComment? at h
  split at h
  · simpa using (Option.filter_eq_some_iff.1 h).2
  · cases h

/-- What is left from the place on without the comments at the beginnings of lines. -/
def eraseLineComments (marks : List Text) (c : Cursor) : Text :=
  match _hd : c.behindLineComment? marks with
  | some d => eraseLineComments marks d
  | none =>
    match _ha : c.ahead with
    | [] => []
    | a :: rest => a :: eraseLineComments marks ⟨some a, rest⟩
termination_by c.ahead.length
decreasing_by
  · exact length_behindLineComment?_lt (by assumption)
  · simp [*]

end Cursor

/-- The text without the comments at the beginnings of its lines that carry one of the marks. -/
def eraseLineComments (marks : List Text) (s : Text) : Text :=
  (Cursor.start s).eraseLineComments marks

end SqlDialects
