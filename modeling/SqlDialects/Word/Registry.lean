/-
The vocabulary of a dialect. A builder collects classified words, written in upper case; a word that is
a keyword stays one until it is taken out, even if a function or a type of the same spelling is added.
A registry is what a builder has collected. It finds the words that begin with a given text by halving
the ascending list of its words.
-/
import SqlDialects.Text.CaseMapping
import SqlDialects.Word.Kind
import SqlDialects.Word.Map

namespace SqlDialects

/-- The words collected so far. Functions and types are also kept apart, as a keyword may share its
spelling with one. -/
structure Builder where
  words : WordMap WordKind := WordMap.empty
  functions : WordSet := WordMap.empty
  types : WordSet := WordMap.empty
deriving DecidableEq

/-- A vocabulary that does not change any more. -/
structure Registry where
  words : WordMap WordKind
  functions : WordSet
  types : WordSet
deriving DecidableEq

/-! ## Collecting words -/

namespace Builder

/-- Classifies a word, unless it is a keyword already. -/
def register (b : Builder) (word : Text) (kind : WordKind) : Builder :=
  if b.words.get? word.upper = some .keyword then b
  else { b with words := b.words.insert word.upper kind }

/-- Forgets a word. -/
def unregister (b : Builder) (word : Text) : Builder where
  words := b.words.erase word.upper
  functions := b.functions.erase word.upper
  types := b.types.erase word.upper

def addKeyword (b : Builder) (word : Text) : Builder := b.register word .keyword

def addFunction (b : Builder) (word : Text) : Builder :=
  { b.register word .function with functions := b.functions.add word.upper }

def addType (b : Builder) (word : Text) : Builder :=
  { b.register word .dataType with types := b.types.add word.upper }

def addKeywords (b : Builder) (words : List Text) : Builder := words.foldl addKeyword b

def addFunctions (b : Builder) (words : List Text) : Builder := words.foldl addFunction b

def addTypes (b : Builder) (words : List Text) : Builder := words.foldl addType b

/-- The word is a keyword from now on and no function. -/
def turnFunctionIntoKeyword (b : Builder) (word : Text) : Builder :=
  { b with functions := b.functions.erase word.upper }.register word .keyword

def build (b : Builder) : Registry := ⟨b.words, b.functions, b.types⟩

end Builder

/-! ## Looking words up -/

namespace Registry

/-- A builder that starts with the words of the registry. -/
def toBuilder (r : Registry) : Builder := ⟨r.words, r.functions, r.types⟩

def size (r : Registry) : Nat := r.words.size

/-- All words in ascending order. -/
def reservedWords (r : Registry) : List Text := r.words.keys

/-- What a word is, in whatever case it is written. -/
def classify (r : Registry) (word : Text) : Option WordKind := r.words.get? word.upper

def contains (r : Registry) (word : Text) : Bool := r.words.contains word.upper

/-- How many words are classified so. -/
def count (r : Registry) (kind : WordKind) : Nat := r.words.entries.countP fun e => e.2 = kind

/-- The first place from `low` up to `high` of an ascending array that holds no word below `w`. -/
def lowerBound (words : Array Text) (w : Text) (low high : Nat) : Nat :=
  if low < high then
    let middle := (low + high) / 2
    if (words[middle]?).any (· < w) then lowerBound words w (middle + 1) high
    else lowerBound words w low middle
  else low
termination_by high - low
decreasing_by all_goals omega

/-- The words from the first one on that is not below the given text. -/
def wordsFrom (r : Registry) (w : Text) : List Text :=
  r.reservedWords.drop (lowerBound r.reservedWords.toArray w 0 r.size)

/-- The words that begin with a text, in whatever case it is written. -/
def matchesOf (r : Registry) (start : Text) : List Text :=
  (r.wordsFrom start.upper).takeWhile (·.beginsWith start.upper)

/-- Whether a word begins with the text. -/
def hasMatch (r : Registry) (start : Text) : Bool :=
  (r.wordsFrom start.upper).head?.any (·.beginsWith start.upper)

/-- How a registry shows itself. -/
def summary (r : Registry) : Text := "KeywordRegistry(words=" ++ Text.ofInt r.size ++ ")"

end Registry

end SqlDialects
