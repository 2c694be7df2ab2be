/-
What a statement means for a transaction. It is told by the first word alone: a keyword modifies unless
it is one of the read-only keywords, and a word that is no keyword never modifies.
-/
import SqlDialects.Dialect.Basic

namespace SqlDialects

namespace Dialect

/-- The first word of a statement in upper case. -/
def firstKeyword (d : Dialect) (statement : Text) : Text := (d.reader.firstWord statement).upper

def isModifyingKeyword (d : Dialect) (word : Text) : Bool :=
  d.words.classify word.upper = some .keyword && !d.profile.readOnlyKeywords.contains word.upper

/-- The word by which a statement is told, with the verdict on it. A statement of nothing but comments,
or one that begins with no word, has none. -/
def verdict? (d : Dialect) (statement : Text) : Option (Text × Bool) :=
  let stripped := d.reader.stripComments statement
  let word := (d.reader.leadingWord stripped).upper
  if stripped.isEmpty || word.isEmpty then none else some (word, d.isModifyingKeyword word)

/-- Whether the statement takes part in an open transaction. -/
def isModifying (d : Dialect) (statement : Text) : Bool := (d.verdict? statement).any (·.2)

/-- Whether the first word of the statement is one of the words. -/
def beginsWithAny (d : Dialect) (statement : Text) (words : List Text) : Bool :=
  !words.isEmpty && !(d.firstKeyword statement).isEmpty &&
    (words.map Text.upper).contains (d.firstKeyword statement)

def isCommit (d : Dialect) (statement : Text) : Bool :=
  d.beginsWithAny statement d.profile.commitKeywords

def isRollback (d : Dialect) (statement : Text) : Bool :=
  d.beginsWithAny statement d.profile.rollbackKeywords

end Dialect

end SqlDialects
