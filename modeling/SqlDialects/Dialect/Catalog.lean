/-
Sharing the built-in dialects. A dialect is made when it is first asked for and the same one is handed
out from then on; asking for a dialect that does not exist changes nothing. The lists of reserved words
that dialects start with are loaded once as well.
-/
import SqlDialects.Dialect.BuiltIn

namespace SqlDialects

/-- A dialect that has been handed out. Two of them are one and the same if they have the same serial
number. -/
structure Shared where
  engine : Engine
  serial : Nat
deriving DecidableEq, Repr

def Shared.dialect (s : Shared) : Dialect := s.engine.dialect

/-- What has been made so far. -/
structure Catalog where
  made : List Shared := []
  /-- The serial number of the next dialect. -/
  next : Nat := 0
  /-- The names of the lists of reserved words that have been loaded. -/
  loaded : List (Option Text) := []
deriving DecidableEq, Repr

namespace Catalog

/-! ## Reserved words -/

/-- The catalog after the list of a name has been loaded. -/
def load (c : Catalog) (name : Option Text) : Catalog :=
  if c.loaded.contains name then c else { c with loaded := name :: c.loaded }

/-- The reserved words that are kept under a name, and the catalog afterwards. -/
def reservedWords (c : Catalog) (name : Option Text) : Except Error (List Text) × Catalog :=
  match Reserved.ofName name with
  | .error e => (.error e, c)
  | .ok words => (.ok words, c.load name)

/-- A builder with the standard words and the reserved words of a name, and the catalog afterwards. -/
def builder (c : Catalog) (name : Option Text) : Except Error Builder × Catalog :=
  (Builder.standard <$> (c.reservedWords name).1, (c.reservedWords name).2)

/-! ## Dialects -/

/-- The dialect with a name, and the catalog afterwards. -/
def get (c : Catalog) (name : Text) : Except Error Shared × Catalog :=
  match Engine.ofName name with
  | .error e => (.error e, c)
  | .ok engine =>
    match c.made.find? fun s => s.engine = engine with
    | some s => (.ok s, c)
    | none =>
      let s : Shared := ⟨engine, c.next⟩
      (.ok s, ⟨s :: c.made, c.next + 1, (c.load engine.reservedName?).loaded⟩)

/-- The answers to one request after another. -/
def getAll (c : Catalog) : List Text → List (Except Error Shared)
  | [] => []
  | name :: names => (c.get name).1 :: (c.get name).2.getAll names

/-- The catalog after one request after another. -/
def afterAll (c : Catalog) (names : List Text) : Catalog := names.foldl (fun c name => (c.get name).2) c

end Catalog

end SqlDialects
