/-
Upper and lower case of texts in any script. A character may have several characters as its other
case, and a capital sigma is lowered by the place it has in its word.
-/
import SqlDialects.Text.Basic
import SqlDialects.Text.Character
import SqlDialects.Text.Table.CaseMapping

namespace SqlDialects

namespace Table

/-- Whether a code point belongs to the run. -/
def CaseRun.holds (r : CaseRun) (n : Nat) : Bool :=
  r.first ≤ n && n ≤ r.last && (n - r.first) % r.stride == 0

/-- The image of a character: its expansion, else its place in the first run that holds it, else
itself. -/
def mapCase (runs : List CaseRun) (expansions : List (Nat × List Nat)) (c : Char) : List Char :=
  match expansions.lookup c.toNat with
  | some image => image.map Char.ofNat
  | none =>
    match runs.find? (·.holds c.toNat) with
    | some r => [Char.ofNat (r.target + (c.toNat - r.first))]
    | none => [c]

end Table

namespace Character

/-- The upper case of a character. -/
def upper (c : Char) : Text :=
  if isAscii c then [c.toUpper] else Table.mapCase Table.upperRuns Table.upperExpansions c

/-- The lower case of a character on its own. -/
def lower (c : Char) : Text :=
  if isAscii c then [c.toLower] else Table.mapCase Table.lowerRuns Table.lowerExpansions c

/-- Whether a character that is not passed over has a case. -/
def isCased (c : Char) : Bool := if isAscii c then c.isAlpha else Table.holds Table.cased c

/-- Whether a character is passed over when the neighbours of a sigma are looked at. -/
def isCaseIgnorable (c : Char) : Bool :=
  if isAscii c then ['\'', '.', ':', '^', '`'].contains c else Table.holds Table.caseIgnorable c

end Character

namespace Text

/-- The upper case of a text, character by character. -/
def upper (s : Text) : Text := s.flatMap Character.upper

/-- Whether the first character of a text that is not passed over has a case. -/
def meetsCased (s : Text) : Bool :=
  match s.dropWhile Character.isCaseIgnorable with
  | c :: _ => Character.isCased c
  | [] => false

/-- The lower case of the rest of a text, given the characters before it from the last one back. A
sigma behind a cased character and before none is the final sigma. -/
def lowerFrom (before : List Char) : Text → Text
  | [] => []
  | c :: rest =>
    (if c = 'Σ' then [if meetsCased before && !meetsCased rest then 'ς' else 'σ']
      else Character.lower c) ++ lowerFrom (c :: before) rest

/-- The lower case of a text. -/
def lower (s : Text) : Text := lowerFrom [] s

end Text

end SqlDialects
