import Longhand.Contract.Dialect
import Longhand.Text.Json

/-!
A library of schema files. A schema that was loaded once stays as it was, whatever happens to its
file; a load that fails changes nothing, so the next one looks at the file again.
-/

namespace Longhand

/-- Schema files by name, and the schemas that were loaded. The latest entry of a name counts. -/
structure Library where
  files : List (String × String) := []
  loaded : List (String × Value) := []
  /-- Why a value is no schema, if it is none. -/
  defect? : Value → Option Pattern.Defect := Dialect.defect?
deriving Inhabited

inductive LibraryEvent where
  | load (name : String)
  | write (name text : String)
  | remove (name : String)
deriving DecidableEq, Repr, Inhabited

namespace Library

/-- A library over a directory of files, if there is one. Nothing is loaded yet. -/
def ofDirectory : Option (List (String × String)) → Except Error Library
  | some files => .ok { files }
  | none => .error (.schema .noDirectory)

def write (l : Library) (name text : String) : Library :=
  { l with files := (name, text) :: l.files }

def remove (l : Library) (name : String) : Library :=
  { l with files := l.files.filter fun f => f.1 != name }

def read (l : Library) (name : String) : Except Error Value :=
  match l.files.lookup name with
  | none => .error (.schema .missing)
  | some text => do
    let v ← Json.read text
    match l.defect? v with
    | none => return v
    | some .malformed => throw (.schema (.invalid name))
    | some (.unusable why) => throw (.schema (.unusable why))

/-- The schema of a name: as it was loaded, or from its file, and then it stays. -/
def load (l : Library) (name : String) : Except Error Value × Library :=
  match l.loaded.lookup name with
  | some v => (.ok v, l)
  | none =>
    match l.read name with
    | .ok v => (.ok v, { l with loaded := (name, v) :: l.loaded })
    | .error e => (.error e, l)

def after (l : Library) : LibraryEvent → Library
  | .load name => (l.load name).2
  | .write name text => l.write name text
  | .remove name => l.remove name

end Library

end Longhand
