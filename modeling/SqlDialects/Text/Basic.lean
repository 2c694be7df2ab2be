/-
Texts as lists of characters, and the operations on them that the library is built from: tests for
what a text begins and ends with, doubling a character and undoing it, and joining.
-/
namespace SqlDialects

/-- A text: its characters in order. -/
abbrev Text := List Char

instance : Coe String Text := ⟨String.toList⟩

namespace Text

def ofStrings (ss : List String) : List Text := ss.map String.toList

/-- Whether the text begins with the given one. -/
def beginsWith (s p : Text) : Bool := p.isPrefixOf s

/-- Whether the text ends with the given one. -/
def endsWith (s p : Text) : Bool := p.isSuffixOf s

/-- Whether a marker begins the text. The empty text marks nothing. -/
def opensWith (s marker : Text) : Bool := !marker.isEmpty && marker.isPrefixOf s

/-- Whether `part` stands somewhere in a text. -/
def occurs (part : Text) : Text → Bool
  | [] => part.isEmpty
  | c :: rest => part.isPrefixOf (c :: rest) || occurs part rest

/-- The number of characters up to the end of the first occurrence of `part`, if it occurs. -/
def endOfFirst? (part : Text) : Text → Option Nat
  | [] => if part.isEmpty then some 0 else none
  | c :: rest =>
    if part.isPrefixOf (c :: rest) then some part.length else (endOfFirst? part rest).map (· + 1)

/-- Every occurrence of `q` is written twice. -/
def double (q : Char) (s : Text) : Text := s.flatMap fun c => if c = q then [q, q] else [c]

/-- Every pair `a b`, found from left to right without overlap, becomes the single character `c`. -/
def contract (a b c : Char) : Text → Text
  | x :: y :: rest => if x = a ∧ y = b then c :: contract a b c rest else x :: contract a b c (y :: rest)
  | s => s

/-- Every pair of `q`, found from left to right without overlap, becomes one `q`. -/
def undouble (q : Char) (s : Text) : Text := contract q q q s

/-- The texts in order with a separator between neighbours. -/
def join (separator : Text) (parts : List Text) : Text := separator.intercalate parts

/-- The decimal digits of an integer, behind a minus sign if it is negative. -/
def ofInt (n : Int) : Text :=
  match n with
  | .ofNat n => Nat.toDigits 10 n
  | .negSucc n => '-' :: Nat.toDigits 10 (n + 1)

end Text

end SqlDialects
