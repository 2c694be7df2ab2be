/-
String literals of an engine, and values as its scripts write them.
-/
import SqlDialects.Profile.Basic

namespace SqlDialects

namespace Profile

/-- The mark on both sides of a string literal. -/
def literalMark (p : Profile) : Text :=
  match p.stringQuotes with
  | q :: _ => q.opening
  | [] => "'"

def quoteLiteral (p : Profile) (s : Text) : Text :=
  p.literalMark ++ p.escapeString s ++ p.literalMark

/-- Whether the text has the mark at both ends. -/
def isLiteral (p : Profile) (s : Text) : Bool :=
  2 ≤ s.length && s.beginsWith p.literalMark && s.endsWith p.literalMark

/-- The string that a literal stands for: one character is taken off at each end. Any other text
stands for itself. -/
def unquoteLiteral (p : Profile) (s : Text) : Text :=
  if p.isLiteral s then p.unescapeString s.tail.dropLast else s

/-- A value in a script, given the text that it has been turned into. -/
def scriptValue (p : Profile) (value : ScriptValue) (text : Text) (type : Option ColumnType) : Text :=
  p.renderValue p.quoteLiteral type value text

end Profile

end SqlDialects
