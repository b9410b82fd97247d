import Longhand.Annotation.Hierarchy
import Longhand.Text.Quoted
import Longhand.Value.Shown

/-!
How entities are written. The one way to fail is an integer beyond the conversion limit, at any
depth.
-/

namespace Longhand

namespace Annotation

variable [Home]

/-- The decimal text of an integer within the conversion limit. -/
def integerText (n : Int) : Answer String :=
  match intText n with
  | .ok s => .ok s
  | .error _ => .error (.failed (.limit .printing))

/-- The name of a class after that of its home, unless everyone knows it. -/
def qualifiedClass (name : String) : String :=
  match classRow? name with
  | some r => if r.home = "builtins" then name else r.home ++ "." ++ name
  | none => name

/-- A text with the characters beyond ASCII numbered. -/
def inAscii (s : String) : String :=
  String.ofList (s.toList.flatMap fun c =>
    if c.toNat < 0x80 then [c] else Quoted.numbered c.toNat)

/-- The text of something that has no text of its own; where it is kept is not known. -/
def placed (what : String) : String := "<" ++ what ++ " at 0x0>"

namespace Entity

/-- Whether an entity stands for the parameters of a function as a whole. -/
def isParameters : Entity → Bool
  | .ellipsis | .tuple _ | .list _ | .applied "Concatenate" _ => true
  | _ => false

/-- The text of a choice of two with nothing in it. -/
def optionalText (a b : Entity) (s t : String) : String :=
  match a, b with
  | .cls "NoneType", _ => bracketed "typing.Optional[" "]" [t]
  | _, .cls "NoneType" => bracketed "typing.Optional[" "]" [s]
  | _, _ => bracketed "typing.Union[" "]" [s, t]

def callableText (args : List Entity) (texts : List String) : String :=
  match args, texts with
  | [a, _], [s, t] =>
    if a.isParameters then bracketed "typing.Callable[" "]" [s, t]
    else bracketed "typing.Callable[" "]" ["[" ++ s ++ "]", t]
  | _, texts =>
    bracketed "typing.Callable[" "]" [bracketed "[" "]" texts.dropLast, texts.getLastD ""]

mutual

def shown : Entity → Answer String
  | .null => .ok "None"
  | .ellipsis => .ok "Ellipsis"
  | .notImplemented => .ok "NotImplemented"
  | .bool b => .ok (if b then "True" else "False")
  | .int n => integerText n
  | .float x => .ok (Shortest.text .plain x)
  | .complex re im => .ok (complexText re im)
  | .str s => .ok (Quoted.string s)
  | .bytes bs => .ok (Quoted.bytes bs)
  | .list items => do return bracketed "[" "]" (← shownAll items)
  | .tuple items => do
    match ← shownAll items with
    | [item] => return "(" ++ item ++ ",)"
    | texts => return bracketed "(" ")" texts
  | .dict entries => do return bracketed "\x7b" "\x7d" (← shownEntries entries)
  | .set isFrozen items => do
    let texts ← shownAll items
    let body := if texts.isEmpty then "" else bracketed "\x7b" "\x7d" texts
    if isFrozen then return "frozenset(" ++ body ++ ")"
    else return if texts.isEmpty then "set()" else body
  | .range start stop step => do
    let texts ← (if step = 1 then [start, stop] else [start, stop, step]).mapM integerText
    return bracketed "range(" ")" texts
  | .slice a b c => do
    return bracketed "slice(" ")" [← a.shown, ← b.shown, ← c.shown]
  | .iterator kind _ _ => .ok (placed (kind ++ " object"))
  | .view kind items => do return kind ++ bracketed "([" "])" (← shownAll items)
  | .made c args => do
    if (lineage c).contains "BaseException" then
      return bracketed (c ++ "(") ")" (← shownAll args)
    else return if Home.defines c then Home.shown c else placed (qualifiedClass c ++ " object")
  | .cls "Any" => .ok "typing.Any"
  | .cls name => .ok ("<class '" ++ qualifiedClass name ++ "'>")
  | .defined c => .ok ("<class '" ++ (Class.defined c).qualifiedName ++ "'>")
  | .library name => .ok ("<module '" ++ name ++ "'>")
  | .builtin name =>
    .ok (if name.toList.contains '.' then placed ("function " ++ name)
      else "<built-in function " ++ name ++ ">")
  | .method self name => do
    return placed ("built-in method " ++ name ++ " of " ++ self.className ++ " object")
  | .descriptor c name =>
    .ok ((if "__".toList.isPrefixOf name.toList then "<slot wrapper '" else "<method '")
      ++ name ++ "' of '" ++ c ++ "' objects>")
  | .function _ _ _ => .ok (placed "function <lambda>")
  | .form name | .bare name => .ok ("typing." ++ name)
  | .applied "Union" [a, b] => do return optionalText a b (← a.argumentText) (← b.argumentText)
  | .applied "Callable" args => do return callableText args (← argumentTexts args)
  | .applied "Unpack" args => do return "*" ++ String.join (← shownAll args)
  | .applied name args => do
    let texts ← argumentTexts args
    return bracketed ("typing." ++ name ++ "[") "]" (if texts.isEmpty then ["()"] else texts)
  | .annotated of remarks => do
    return bracketed "typing.Annotated[" "]" ((← of.argumentText) :: (← shownAll remarks))
  | .generic origin args isStarred => do
    let texts ← memberTexts args
    return (if isStarred then "*" else "")
      ++ bracketed (qualifiedClass origin ++ "[") "]" (if texts.isEmpty then ["()"] else texts)
  | .union args => do
    let texts := (← memberTexts args).zip args |>.map fun (text, arg) =>
      if arg matches .cls "NoneType" then "None" else text
    return String.intercalate " | " texts
  | .forward text => .ok ("ForwardRef(" ++ Quoted.string text ++ ")")
  | .variable sign name _ _ => .ok (sign ++ name)
  | .newType name _ => .ok (namelessHome ++ "." ++ name)
  | .sealed _ text => .ok text

def shownAll : List Entity → Answer (List String)
  | [] => .ok []
  | v :: vs => do return (← v.shown) :: (← shownAll vs)

def shownEntries : List (Entity × Entity) → Answer (List String)
  | [] => .ok []
  | (k, v) :: rest => do return ((← k.shown) ++ ": " ++ (← v.shown)) :: (← shownEntries rest)

/-- The text of an entity as an argument in the typing vocabulary. -/
def argumentText : Entity → Answer String
  | .cls "Any" => .ok "typing.Any"
  | .cls name => .ok (qualifiedClass name)
  | .defined c => .ok (Class.defined c).qualifiedName
  | .ellipsis => .ok "..."
  | .function _ _ _ => .ok "<lambda>"
  | .tuple items => do return bracketed "[" "]" (← argumentTexts items)
  | v => v.shown

def argumentTexts : List Entity → Answer (List String)
  | [] => .ok []
  | v :: vs => do return (← v.argumentText) :: (← argumentTexts vs)

def memberTexts : List Entity → Answer (List String)
  | [] => .ok []
  | v :: vs => do
    let text ← match v with
      | .cls "Any" => .ok "typing.Any"
      | .cls name => .ok (qualifiedClass name)
      | .defined c => .ok (Class.defined c).qualifiedName
      | .builtin name => .ok name
      | .ellipsis => .ok "..."
      | v => v.shown
    return text :: (← memberTexts vs)

end

end Entity

end Annotation

end Longhand
