/-
A text shown between quotation marks: on one line, with every character that cannot be shown written
as an escape.
-/
import SqlDialects.Text.Character
import SqlDialects.Text.Hexadecimal

namespace SqlDialects

/-- A character inside the given quotation marks. -/
def Character.shown (mark c : Char) : Text :=
  if c = mark ∨ c = '\\' then ['\\', c]
  else if c = '\n' then "\\n"
  else if c = '\r' then "\\r"
  else if c = '\t' then "\\t"
  else if isPrintable c then [c]
  else if c.toNat < 0x100 then '\\' :: 'x' :: Text.hexadecimal 2 c.toNat
  else if c.toNat < 0x10000 then '\\' :: 'u' :: Text.hexadecimal 4 c.toNat
  else '\\' :: 'U' :: Text.hexadecimal 8 c.toNat

/-- The text between apostrophes, or between double quotation marks if it has an apostrophe and no
double quotation mark in it. -/
def Text.quoted (s : Text) : Text :=
  let mark := if s.contains '\'' && !s.contains '"' then '"' else '\''
  mark :: s.flatMap (Character.shown mark) ++ [mark]

end SqlDialects
