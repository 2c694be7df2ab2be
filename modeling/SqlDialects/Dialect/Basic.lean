/-
A dialect: the profile of an engine, its vocabulary, and the way it reads statements.
-/
import SqlDialects.Statement.Reader
import SqlDialects.Word.Registry

namespace SqlDialects

structure Dialect where
  profile : Profile
  words : Registry
  reader : Reader := profile.reader

namespace Dialect

/-- The dialect of a profile with the words that a builder has collected, and further keywords, functions
and types, in this order. -/
def ofBuilder (p : Profile) (b : Builder) (keywords functions types : List Text) : Dialect where
  profile := p
  words := (((b.addKeywords keywords).addFunctions functions).addTypes types).build

def name (d : Dialect) : Text := d.profile.name

/-- Whether the name of a table follows the word. -/
def isTableQueryWord (d : Dialect) (word : Text) : Bool :=
  d.profile.tableQueryWords.contains word.upper

/-- Whether the name of a column follows the word. -/
def isColumnQueryWord (d : Dialect) (word : Text) : Bool :=
  d.profile.columnQueryWords.contains word.upper

/-- How far the line behind the word is indented. -/
def nextLineIndent (d : Dialect) (word : Text) : Int :=
  (d.profile.keywordIndents.get? word.upper).getD 0

/-- How a dialect shows itself. -/
def summary (d : Dialect) : Text :=
  "Dialect(name='" ++ d.name ++ "', words=" ++ Text.ofInt d.words.size ++ ")"

end Dialect

end SqlDialects
