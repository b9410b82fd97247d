import Longhand.Decimal.Shortest
import Longhand.Error
import Longhand.Text.Quoted

/-!
How values and type descriptions are written in messages. The one way to fail is an integer
beyond the conversion limit, at any depth of a value.
-/

namespace Longhand

def intText (n : Int) : Except Error String :=
  if n.natAbs < tenPow digitLimit then .ok (toString n) else .error (.limit .printing)

/-- A complex number: the imaginary part alone if the real part is a positive zero. -/
def complexText (re im : Float) : String :=
  let imaginary := Shortest.text .part im
  if re.toBits = 0 then imaginary ++ "j"
  else
    let signed := if im.toBits.toNat < signBound ∨ imaginary = "nan" then "+" ++ imaginary
      else imaginary
    "(" ++ Shortest.text .part re ++ signed ++ "j)"

def bracketed (left right : String) (items : List String) : String :=
  left ++ String.intercalate ", " items ++ right

namespace Generic

/-- A parametrised type with the texts of its arguments. -/
def text (head : Generic) (args : List String) : String :=
  match head with
  | .builtin c => bracketed (c.qualifiedName ++ "[") "]" args
  | .typing name =>
    if args.isEmpty then "typing." ++ name else bracketed ("typing." ++ name ++ "[") "]" args
  | .union true =>
    String.intercalate " | " (args.map fun a => if a = Class.null.name then "None" else a)
  | .union false =>
    match args with
    | [a, b] =>
      if a = Class.null.name then bracketed "typing.Optional[" "]" [b]
      else if b = Class.null.name then bracketed "typing.Optional[" "]" [a]
      else bracketed "typing.Union[" "]" args
    | _ => bracketed "typing.Union[" "]" args
  | .callable =>
    match args with
    | ["...", result] => bracketed "typing.Callable[" "]" ["...", result]
    | _ => bracketed "typing.Callable[" "]"
        [bracketed "[" "]" args.dropLast, args.getLastD Class.null.name]
  | .literal => bracketed "typing.Literal[" "]" args

end Generic

namespace Value

def shown : Value → Except Error String
  | .null => .ok "None"
  | .bool b => .ok (if b then "True" else "False")
  | .int n => intText n
  | .float x => .ok (Shortest.text .plain x)
  | .complex re im => .ok (complexText re im)
  | .str s => .ok (Quoted.string s)
  | .bytes bs => .ok (Quoted.bytes bs)
  | .list items => do return bracketed "[" "]" (← shownAll items)
  | .tuple items => do
    match ← shownAll items with
    | [item] => return "(" ++ item ++ ",)"
    | items => return bracketed "(" ")" items
  | .dict entries => do return bracketed "\x7b" "\x7d" (← shownEntries entries)
  | .type c => .ok ("<class '" ++ c.qualifiedName ++ "'>")
  | .any => .ok "typing.Any"
  | .variable name => .ok ("~" ++ name)
  | .ellipsis => .ok "Ellipsis"
  | .generic head args => do return head.text (← shownArguments args)
  | .object _ (some text) => .ok text
  | .object _ none => .error (.limit .printing)
  | .record kind fields => do return bracketed (kind.name ++ "(") ")" (← shownFields fields)
where
  shownAll : List Value → Except Error (List String)
  | [] => .ok []
  | v :: vs => do return (← v.shown) :: (← shownAll vs)
  shownEntries : List (String × Value) → Except Error (List String)
  | [] => .ok []
  | (k, v) :: rest => do
    return (Quoted.string k ++ ": " ++ (← v.shown)) :: (← shownEntries rest)
  shownFields : List (String × Value) → Except Error (List String)
  | [] => .ok []
  | (k, v) :: rest => do return (k ++ "=" ++ (← v.shown)) :: (← shownFields rest)
  /-- The arguments of a parametrised type: classes by name, an open end by its dots. -/
  shownArguments : List Value → Except Error (List String)
  | [] => .ok []
  | .type c :: vs => do return c.qualifiedName :: (← shownArguments vs)
  | .ellipsis :: vs => do return "..." :: (← shownArguments vs)
  | v :: vs => do return (← v.shown) :: (← shownArguments vs)

/-- Whether a value is a class that arguments are tested against. -/
def isTestable : Value → Bool
  | .type _ => true
  | _ => false

/-- The readable name of a type: a text stands for itself, a class for its name. -/
def label : Value → Except Error String
  | .str s => .ok s
  | .type c => .ok c.name
  | v => v.shown

def labels (types : List Value) : Except Error String := do
  return bracketed "(" ")" (← types.mapM label)

end Value

end Longhand
