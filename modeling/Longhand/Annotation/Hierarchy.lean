import Longhand.Annotation.ClassTable
import Longhand.Annotation.Entity

/-!
The classes of the table: which class refines which, and which attributes their members have.
-/

namespace Longhand

namespace Annotation

def wordsOf (s : String) : List String :=
  ((split s.toList).filter (!·.isEmpty)).map String.ofList
where
  split : List Char → List (List Char)
  | [] => [[]]
  | c :: rest =>
    match split rest with
    | w :: ws => if c = ' ' then [] :: w :: ws else (c :: w) :: ws
    | [] => [[c]]

/-- What an attribute of a class is. -/
inductive AttributeKind where
  | method
  /-- A part of each member. -/
  | data
  | classMethod
  | free
  | value
deriving DecidableEq, Repr, Inhabited

namespace ClassRow

/-- The names of the ancestors, the class itself first. -/
def lineage (r : ClassRow) : List String := wordsOf r.ancestors

/-- The attributes of the class itself, each with its kind. -/
def attribute? (r : ClassRow) (name : String) : Option AttributeKind :=
  (r.attributes.flatMap wordsOf).findSome? fun word =>
    let (base, mark) := word.toList.span (· ≠ '=')
    if String.ofList base = name then
      some (match mark with
        | ['=', 'g'] => .data
        | ['=', 'c'] => .classMethod
        | ['=', 's'] => .free
        | ['=', 'v'] => .value
        | _ => .method)
    else none

end ClassRow

/-- The module that annotations are read in: the classes that it defines, what else its names stand
for, and the text of a member of one of its classes. -/
class Home where
  classes : List ClassRow
  names : List (String × Entity)
  shown : String → String

variable [Home]

def classRow? (name : String) : Option ClassRow :=
  (Home.classes ++ classRows).find? fun r => r.name == name

/-- Whether a class is defined in the module that annotations are read in. -/
def Home.defines (name : String) : Bool := classes.any fun r => r.name == name

/-- The names of a class and of its ancestors. -/
def lineage (name : String) : List String :=
  match classRow? name with
  | some r => r.lineage
  | none => [name, "object"]

/-- The class in a lineage that has an attribute, and the kind of the attribute. -/
def findAttribute (cls name : String) : Option (String × AttributeKind) :=
  (lineage cls).findSome? fun c => do
    let kind ← (← classRow? c).attribute? name
    return (c, kind)

def hasAttribute (cls name : String) : Bool := (findAttribute cls name).isSome

/-- The classes that count as refining an abstract one without being descended from it. -/
def registrations : List (String × List String) :=
  [("Sequence", ["tuple", "str", "range", "memoryview", "bytes", "bytearray", "list"]),
    ("MutableSequence", ["list", "bytearray"]), ("Mapping", ["dict", "mappingproxy"]),
    ("MutableMapping", ["dict"]), ("Set", ["set", "frozenset", "dict_keys", "dict_items"]),
    ("MutableSet", ["set"]), ("KeysView", ["dict_keys"]), ("ItemsView", ["dict_items"]),
    ("ValuesView", ["dict_values"]), ("MappingView", ["dict_keys", "dict_items", "dict_values"]),
    ("ByteString", ["bytes", "bytearray"])]

/-- The methods that make a class count as refining an abstract one. -/
def requirements : List (String × List String) :=
  [("Hashable", ["__hash__"]), ("Sized", ["__len__"]), ("Iterable", ["__iter__"]),
    ("Container", ["__contains__"]), ("Collection", ["__len__", "__iter__", "__contains__"]),
    ("Iterator", ["__next__", "__iter__"]), ("Reversible", ["__reversed__", "__iter__"]),
    ("Callable", ["__call__"]), ("Generator", ["__iter__", "__next__", "send", "throw", "close"]),
    ("SupportsInt", ["__int__"]), ("SupportsFloat", ["__float__"]), ("SupportsAbs", ["__abs__"]),
    ("SupportsComplex", ["__complex__"]), ("SupportsBytes", ["__bytes__"]),
    ("SupportsIndex", ["__index__"]), ("SupportsRound", ["__round__"])]

/-- The classes whose members cannot be hashed. -/
def unhashableClasses : List String :=
  ["list", "dict", "set", "bytearray", "slice", "dict_keys", "dict_items"]

/-- Whether a class is another class or refines it. -/
def refines (c d : String) : Bool :=
  (lineage c).contains d
    || registrations.any (fun (a, cs) => (lineage a).contains d && (lineage c).any cs.contains)
    || (match requirements.lookup d with
      | some methods => methods.all fun m =>
          match findAttribute c m with
          | some (_, kind) => kind ≠ .value && !(m = "__hash__" && unhashableClasses.contains c)
          | none => false
      | none => false)

namespace Entity

def isMember (e : Entity) (cls : String) : Bool := refines e.className cls

end Entity

end Annotation

end Longhand
