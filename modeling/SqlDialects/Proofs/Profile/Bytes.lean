/-
Bytes in scripts. Two hexadecimal digits are written for each byte and read back as the byte
(`bytesOfHex?_hexOfBytes`), so an engine reads the very bytes that its profile has written, if it takes the
text for a literal at all. One engine does not if there are no digits in it, which its profile writes for no
bytes (`readBytes?_scriptValue_iff`).
-/
import Mathlib.Logic.Basic
import SqlDialects.Dialect.BuiltIn
import SqlDialects.Profile.Literal
import SqlDialects.Proofs.Dialect.Unquoting

namespace SqlDialects

/-! ## Hexadecimal digits -/

/-- The number that a hexadecimal digit stands for, in either case. -/
def hexValue? (c : Char) : Option Nat :=
  if '0' ≤ c ∧ c ≤ '9' then some (c.toNat - 0x30)
  else if 'a' ≤ c ∧ c ≤ 'f' then some (c.toNat - 0x57)
  else if 'A' ≤ c ∧ c ≤ 'F' then some (c.toNat - 0x37)
  else none

/-- The bytes that pairs of digits stand for, in order. -/
def bytesOfHex? : Text → Option (List UInt8)
  | [] => some []
  | [_] => none
  | a :: b :: rest =>
    match hexValue? a, hexValue? b, bytesOfHex? rest with
    | some high, some low, some bytes => some (UInt8.ofNat (16 * high + low) :: bytes)
    | _, _, _ => none

theorem hexValue?_hexDigit : ∀ n < 16, hexValue? (hexDigit n) = some n := by decide

theorem hexadecimal_two (n : Nat) : Text.hexadecimal 2 n = [hexDigit (n / 16 % 16), hexDigit (n % 16)] := rfl

/-- A byte is read back from its two digits, whatever it is and whatever follows. -/
theorem bytesOfHex?_byte (b : UInt8) (s : Text) :
    bytesOfHex? (Text.hexadecimal 2 b.toNat ++ s) = (bytesOfHex? s).map (b :: ·) := by
  have hhigh : hexValue? (hexDigit (b.toNat / 16 % 16)) = some (b.toNat / 16 % 16) :=
    hexValue?_hexDigit _ (Nat.mod_lt _ (by decide))
  have hlow : hexValue? (hexDigit (b.toNat % 16)) = some (b.toNat % 16) :=
    hexValue?_hexDigit _ (Nat.mod_lt _ (by decide))
  have hbyte : UInt8.ofNat (16 * (b.toNat / 16 % 16) + b.toNat % 16) = b := by
    have := b.toNat_lt
    rw [show 16 * (b.toNat / 16 % 16) + b.toNat % 16 = b.toNat by omega, UInt8.ofNat_toNat]
  rw [hexadecimal_two, List.cons_append, List.singleton_append, bytesOfHex?, hhigh, hlow]
  cases bytesOfHex? s with
  | none => rfl
  | some bytes =>
    dsimp only
    rw [hbyte, Option.map_some]

/-- Reading the digits of bytes gives the bytes back, leading zeros among them. -/
theorem bytesOfHex?_hexOfBytes (content : List UInt8) : bytesOfHex? (Policy.hexOfBytes content) = some content := by
  unfold Policy.hexOfBytes
  induction content with
  | nil => rfl
  | cons b content ih => rw [List.flatMap_cons, bytesOfHex?_byte, ih, Option.map_some]

theorem hexOfBytes_inj {content other : List UInt8} :
    Policy.hexOfBytes other = Policy.hexOfBytes content ↔ other = content := by
  constructor
  · intro h
    refine Option.some.inj ?_
    rw [← bytesOfHex?_hexOfBytes other, h, bytesOfHex?_hexOfBytes]
  · exact congrArg _

/-! ## Literals for bytes -/

/-- How an engine writes bytes: the marks around the digits, and whether there may be no digits between them. -/
structure ByteFormat where
  marks : Delimiters
  mayBeEmpty : Bool

namespace ByteFormat

/-- The bytes that a literal stands for, if the text is one. -/
def read? (f : ByteFormat) (s : Text) : Option (List UInt8) :=
  if f.marks.enclose s && (f.mayBeEmpty || !(f.marks.body s).isEmpty) then bytesOfHex? (f.marks.body s) else none

/-- The digits of the bytes between the marks. -/
def write (f : ByteFormat) (content : List UInt8) : Text :=
  f.marks.opening ++ Policy.hexOfBytes content ++ f.marks.closing

/-- What is written stands for the bytes, but for no bytes where there must be digits. -/
theorem read?_write_iff (f : ByteFormat) (content : List UInt8) :
    f.read? (f.write content) = some content ↔ f.mayBeEmpty = true ∨ content ≠ [] := by
  have hempty : (Policy.hexOfBytes content).isEmpty = true ↔ content = [] := by
    rw [List.isEmpty_iff, ← hexOfBytes_inj]
    rfl
  have hliteral : (f.mayBeEmpty || !(Policy.hexOfBytes content).isEmpty) = true ↔
      f.mayBeEmpty = true ∨ content ≠ [] := by
    rw [Bool.or_eq_true, Bool.not_eq_true', ← Bool.not_eq_true, hempty]
  unfold read? write
  rw [f.marks.enclose_append, f.marks.body_append, Bool.true_and]
  split
  · rename_i h
    exact iff_of_true (bytesOfHex?_hexOfBytes content) (hliteral.1 h)
  · rename_i h
    exact iff_of_false nofun fun hor => h (hliteral.2 hor)

theorem write_inj (f : ByteFormat) {content other : List UInt8} :
    f.write other = f.write content ↔ other = content := by
  rw [write, write, List.append_left_inj, List.append_right_inj, hexOfBytes_inj]

end ByteFormat

/-! ## The engines that write bytes -/

namespace Engine

/-- How the engines write bytes whose profiles have a rule for them. -/
def byteFormat? : Engine → Option ByteFormat
  | mysql => some ⟨⟨"0x", ""⟩, false⟩
  | postgres => some ⟨⟨"decode('", "', 'hex')"⟩, true⟩
  | sqlite => some ⟨⟨"X'", "'"⟩, true⟩
  | generic | oracle | mssql => none

/-- The bytes that the engine takes a literal for. -/
def readBytes? (e : Engine) (s : Text) : Option (List UInt8) := e.byteFormat?.bind (·.read? s)

/-- Whatever the text of the value and its type are, the profile writes the bytes as the engine does. -/
theorem scriptValue_bytes {e : Engine} {f : ByteFormat} (hf : e.byteFormat? = some f) (content : List UInt8)
    (text : Text) (type : Option ColumnType) :
    e.dialect.profile.scriptValue (.bytes content) text type = f.write content := by
  cases e with
  | mysql =>
    cases hf
    exact (List.append_nil _).symm
  | postgres | sqlite =>
    cases hf
    rfl
  | generic | oracle | mssql => cases hf

end Engine

/-- What a profile writes for bytes is read by its engine as exactly these bytes, but for one engine: what is
written there for no bytes is no literal. Neither the text of the value nor its type changes what is written,
and different bytes are never written alike. -/
theorem readBytes?_scriptValue_iff {e : Engine} (he : e ∈ [Engine.mysql, .postgres, .sqlite])
    (content : List UInt8) (text : Text) (type : Option ColumnType) :
    (e.readBytes? (e.dialect.profile.scriptValue (.bytes content) text type) = some content ↔
        (e = .mysql → content ≠ [])) ∧
      ∀ other text' type', e.dialect.profile.scriptValue (.bytes other) text' type' =
        e.dialect.profile.scriptValue (.bytes content) text type ↔ other = content := by
  obtain ⟨f, hf, hmysql⟩ : ∃ f, e.byteFormat? = some f ∧ (f.mayBeEmpty = true ↔ e ≠ .mysql) := by
    cases e with
    | mysql | postgres | sqlite => exact ⟨_, rfl, by decide⟩
    | generic | oracle | mssql => exact absurd he (by decide)
  constructor
  · rw [Engine.scriptValue_bytes hf, Engine.readBytes?, hf, Option.bind_some, f.read?_write_iff, hmysql]
    exact imp_iff_not_or.symm
  · intro other text' type'
    rw [Engine.scriptValue_bytes hf, Engine.scriptValue_bytes hf]
    exact f.write_inj

/-- Zeros at both ends, the highest byte, and the byte of a mark, with another text and without. -/
theorem readBytes?_scriptValue_iff_mysql :
    Engine.mysql ∈ [Engine.mysql, .postgres, .sqlite] ∧
      Engine.mysql.readBytes? (Engine.mysql.dialect.profile.scriptValue (.bytes [0, 0xFF, 0x27, 0]) "b" none) =
        some [0, 0xFF, 0x27, 0] ∧
      Engine.mysql.dialect.profile.scriptValue (.bytes [0, 0xFF, 0x27, 0]) "" none =
        Engine.mysql.dialect.profile.scriptValue (.bytes [0, 0xFF, 0x27, 0]) "b" none := by
  have he : Engine.mysql ∈ [Engine.mysql, .postgres, .sqlite] := by decide
  obtain ⟨hread, hwritten⟩ := readBytes?_scriptValue_iff he [0, 0xFF, 0x27, 0] "b" none
  exact ⟨he, hread.2 fun _ => List.cons_ne_nil _ _, (hwritten [0, 0xFF, 0x27, 0] "" none).2 rfl⟩

/-- For no bytes a literal without digits is written, which is none. -/
theorem readBytes?_scriptValue_nil :
    Engine.mysql.dialect.profile.scriptValue (.bytes []) "" none = "0x".toList ∧
      Engine.mysql.readBytes? (Engine.mysql.dialect.profile.scriptValue (.bytes []) "" none) ≠ some [] := by
  decide

end SqlDialects
