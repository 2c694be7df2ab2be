/-
The values that a log record may carry, as they are written in a JSON line and in a line for readers.
A JSON line is all ASCII.
-/
import SqlDialects.Number.Decimal
import SqlDialects.Text.Quoted

namespace SqlDialects

inductive Value
  | nothing
  | flag (b : Bool)
  | integer (n : Int)
  | double (d : Double)
  | text (s : Text)
  | list (items : List Value)
  | record (members : List (Text × Value))
deriving Inhabited

namespace Value

/-! ## Numbers -/

/-- Doubles are written without an exponent down to the fourth place behind the point and up to the
sixteenth before it. -/
def layout : Decimal.Layout := ⟨-3, 16, 2⟩

def ofDouble (infinity undefined : Text) : Double → Text
  | .finite negative m e =>
    let magnitude : Text := if m = 0 then "0.0" else (Decimal.shortest m e).render layout
    if negative then '-' :: magnitude else magnitude
  | .infinite negative => if negative then '-' :: infinity else infinity
  | .undefined => undefined

/-! ## JSON -/

/-- An escape with the code of one 16-bit unit. -/
def unit (n : Nat) : Text := '\\' :: 'u' :: Text.hexadecimal 4 n

/-- A character inside a JSON string. Beyond the first plane it takes two units. -/
def jsonChar (c : Char) : Text :=
  if c = '"' ∨ c = '\\' then ['\\', c]
  else if c = '\n' then "\\n"
  else if c = '\t' then "\\t"
  else if c = '\r' then "\\r"
  else if c = '\x08' then "\\b"
  else if c = '\x0c' then "\\f"
  else if 0x20 ≤ c.toNat ∧ c.toNat ≤ 0x7E then [c]
  else if c.toNat < 0x10000 then unit c.toNat
  else unit (0xD800 + (c.toNat - 0x10000) / 0x400) ++ unit (0xDC00 + (c.toNat - 0x10000) % 0x400)

def jsonString (s : Text) : Text := '"' :: s.flatMap jsonChar ++ ['"']

/-- The parts with a comma and a space between them, in the given brackets. -/
def listed (opening closing : Char) (parts : List Text) : Text :=
  opening :: Text.join ", " parts ++ [closing]

mutual

/-- The value as JSON. -/
def json : Value → Text
  | nothing => "null"
  | flag b => if b then "true" else "false"
  | integer n => Text.ofInt n
  | double d => ofDouble "Infinity" "NaN" d
  | text s => jsonString s
  | list items => listed '[' ']' (jsonItems items)
  | record members => listed '{' '}' (jsonMembers members)

def jsonItems : List Value → List Text
  | [] => []
  | v :: rest => v.json :: jsonItems rest

def jsonMembers : List (Text × Value) → List Text
  | [] => []
  | (k, v) :: rest => (jsonString k ++ ": " ++ v.json) :: jsonMembers rest

end

/-! ## Lines for readers -/

mutual

/-- The value inside another one. -/
def nested : Value → Text
  | nothing => "None"
  | flag b => if b then "True" else "False"
  | integer n => Text.ofInt n
  | double d => ofDouble "inf" "nan" d
  | text s => s.quoted
  | list items => listed '[' ']' (nestedItems items)
  | record members => listed '{' '}' (nestedMembers members)

def nestedItems : List Value → List Text
  | [] => []
  | v :: rest => v.nested :: nestedItems rest

def nestedMembers : List (Text × Value) → List Text
  | [] => []
  | (k, v) :: rest => (k.quoted ++ ": " ++ v.nested) :: nestedMembers rest

end

/-- The value for readers: a text on its own stands as it is. -/
def shown : Value → Text
  | text s => s
  | v => v.nested

end Value

end SqlDialects
