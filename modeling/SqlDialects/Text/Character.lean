/-
The classes of characters that names, words, numbers and blanks are made of. ASCII is decided at once,
everything else by the tables.
-/
import SqlDialects.Text.Basic
import SqlDialects.Text.Table.Letter
import SqlDialects.Text.Table.Numeral
import SqlDialects.Text.Table.Unprintable

namespace SqlDialects

/-- Whether the code point of a character lies in one of the ranges. -/
def Table.holds (ranges : List (Nat × Nat)) (c : Char) : Bool :=
  ranges.any fun (first, last) => first ≤ c.toNat && c.toNat ≤ last

namespace Character

def isAscii (c : Char) : Bool := c.toNat < 0x80

/-- A letter of any script. -/
def isLetter (c : Char) : Bool := if isAscii c then c.isAlpha else Table.holds Table.letters c

/-- A digit of a decimal positional system of any script. -/
def isDecimalDigit (c : Char) : Bool :=
  if isAscii c then c.isDigit else Table.holds Table.decimalDigits c

/-- A digit, superscripts and the like among them. -/
def isDigit (c : Char) : Bool := if isAscii c then c.isDigit else Table.holds Table.digits c

/-- A character with a numeric value. -/
def isNumeral (c : Char) : Bool := if isAscii c then c.isDigit else Table.holds Table.numerals c

/-- A letter or a numeral. -/
def isAlphanumeric (c : Char) : Bool := isLetter c || isNumeral c

/-- A character of a word: alphanumeric or an underscore. -/
def isWordChar (c : Char) : Bool := isAlphanumeric c || c == '_'

/-- White space of any script, line ends and the ASCII separators among it. -/
def isBlank (c : Char) : Bool :=
  let n := c.toNat
  (9 ≤ n && n ≤ 13) || (0x1C ≤ n && n ≤ 0x20) || n == 0x85 || n == 0xA0 || n == 0x1680 ||
    (0x2000 ≤ n && n ≤ 0x200A) || n == 0x2028 || n == 0x2029 || n == 0x202F || n == 0x205F ||
    n == 0x3000

/-- A character that is shown as itself. -/
def isPrintable (c : Char) : Bool :=
  if isAscii c then 0x20 ≤ c.toNat && c.toNat < 0x7F else !Table.holds Table.unprintable c

end Character

/-- The text without the blanks at its two ends. -/
def Text.trim (s : Text) : Text :=
  ((s.dropWhile Character.isBlank).reverse.dropWhile Character.isBlank).reverse

end SqlDialects
