import Longhand.Annotation.Expression
import Longhand.Annotation.Token

/-!
The grammar of textual annotations, read by operator precedence. A reader gives the expression at
the front of the tokens and the tokens after it, or nothing.
-/

namespace Longhand

namespace Annotation

namespace Grammar

/-- A part that was read, and the tokens after it. -/
abbrev Parsed (α : Type) := α × List Token

/-- How strongly a sign binds the operand after it. -/
def signStrength : Nat := 10

/-- How strongly a power binds its base. The operand on its right may have a sign. -/
def powerStrength : Nat := 11

/-- How strongly operands are bound to each other in a starred expression. -/
def starStrength : Nat := 4

/-- How strongly comparisons bind. Several in a row are one chain. -/
def comparisonStrength : Nat := 3

/-- The binary operators of one symbol, each with its strength. -/
def symbolOperators : List (String × Operator × Nat) :=
  [("|", .alternative, 4), ("^", .exclusive, 5), ("&", .both, 6), ("<<", .shiftLeft, 7),
    (">>", .shiftRight, 7), ("+", .add, 8), ("-", .subtract, 8), ("*", .multiply, 9),
    ("/", .divide, 9), ("//", .floor, 9), ("%", .remainder, 9), ("@", .matrix, 9),
    ("**", .power, powerStrength)]

def symbolComparisons : List (String × Comparison) :=
  [("<", .less), (">", .greater), ("<=", .atMost), (">=", .atLeast), ("==", .equal),
    ("!=", .different)]

/-- The binary operator at the front, its strength, and what follows. -/
def operator : List Token → Option (Operator × Nat × List Token)
  | .word "or" :: rest => some (.or, 0, rest)
  | .word "and" :: rest => some (.and, 1, rest)
  | .symbol s :: rest => (symbolOperators.lookup s).map fun (op, strength) => (op, strength, rest)
  | _ => none

def comparison : List Token → Option (Comparison × List Token)
  | .word "in" :: rest => some (.within, rest)
  | .word "not" :: .word "in" :: rest => some (.outside, rest)
  | .word "is" :: .word "not" :: rest => some (.distinct, rest)
  | .word "is" :: rest => some (.same, rest)
  | .symbol s :: rest => (symbolComparisons.lookup s).map fun op => (op, rest)
  | _ => none

def joinedBytes : List Token → List UInt8 × List Token
  | .bytes bs :: rest =>
    let (more, rest) := joinedBytes rest
    (bs ++ more, rest)
  | rest => ([], rest)

def expect (s : String) : List Token → Option (List Token)
  | .symbol t :: rest => if t = s then some rest else none
  | _ => none

def expectWord (s : String) : List Token → Option (List Token)
  | .word t :: rest => if t = s then some rest else none
  | _ => none

/-- Whether a name with a value of its own, outside parentheses, is at the front. -/
def beginsNaming : List Token → Bool
  | .name _ :: .symbol ":=" :: _ => true
  | _ => false

def isFree (s : String) : Bool := s ≠ "__debug__"

/-- An expression as the target of a clause, which gives values to its names. -/
def isTarget : (fuel : Nat) → Expression → Bool
  | 0, _ => false
  | _, .name s => isFree s
  | _, .attribute _ s => isFree s
  | _, .subscript _ _ => true
  | fuel + 1, .tuple items | fuel + 1, .list items =>
    items.all (fun e => match e with
      | .starred (.starred _) => false
      | .starred e => isTarget fuel e
      | e => isTarget fuel e)
    && (items.filter fun e => e matches .starred _).length ≤ 1
  | _, _ => false

def joinTexts : List Expression → List Expression
  | .value (.str s) :: rest =>
    match joinTexts rest with
    | .value (.str t) :: rest => .value (.str (s ++ t)) :: rest
    | rest => if s.isEmpty then rest else .value (.str s) :: rest
  | e :: rest => e :: joinTexts rest
  | [] => []

/-! ### Where a field of a text ends -/

structure FieldScan where
  /-- The brackets that are open, the innermost first. -/
  brackets : List Char := []
  /-- The quote that is open, and whether it is tripled. -/
  quote : Option (Char × Bool) := none

def closing : Char → Char
  | '(' => ')'
  | '[' => ']'
  | _ => '\x7d'

/-- The characters of the expression of a field, and what follows them. -/
def fieldExpression (s : FieldScan) : (fuel : Nat) → List Char → Option (List Char × List Char)
  | 0, _ => none
  | _, [] => none
  | fuel + 1, c :: rest =>
    let go (s : FieldScan) (n : Nat) : Option (List Char × List Char) :=
      (fieldExpression s fuel (rest.drop n)).map fun (cs, after) =>
        (c :: rest.take n ++ cs, after)
    let tripled := [c, c].isPrefixOf rest
    if c = '\\' then none
    else
      match s.quote with
      | some (q, triple) =>
        if c = q ∧ (!triple ∨ tripled) then go { s with quote := none } (if triple then 2 else 0)
        else go s 0
      | none =>
        if c = '\'' ∨ c = '"' then
          go { s with quote := some (c, tripled) } (if tripled then 2 else 0)
        else if c = '(' ∨ c = '[' ∨ c = '\x7b' then go { s with brackets := c :: s.brackets } 0
        else if c = '#' then none
        else if s.brackets.isEmpty ∧ "!:=<>\x7d".toList.contains c then
          if "!=<>".toList.contains c ∧ rest.head? = some '=' then go s 1
          else if c = '<' ∨ c = '>' then go s 0
          else some ([], c :: rest)
        else if c = ')' ∨ c = ']' ∨ c = '\x7d' then
          match s.brackets with
          | b :: brackets => if closing b = c then go { s with brackets } 0 else none
          | [] => none
        else go s 0

/-- The literal characters of a text with fields up to a field or, if `nested`, to the closing
brace, and what follows them. Doubled braces stand for single ones. -/
def fieldLiteral (raw nested : Bool) : (fuel : Nat) → List Char → Option (List Char × List Char)
  | 0, _ => none
  | _, [] => some ([], [])
  | fuel + 1, c :: rest =>
    let go (n : Nat) : Option (List Char × List Char) :=
      (fieldLiteral raw nested fuel (rest.drop n)).map fun (cs, after) =>
        (c :: rest.take n ++ cs, after)
    if c = '\\' ∧ !raw then
      match rest with
      | 'N' :: '\x7b' :: name => go (2 + (name.takeWhile (· ≠ '\x7d')).length + 1)
      | d :: _ => if d = '\x7b' ∨ d = '\x7d' then go 0 else go 1
      | [] => go 0
    else if c = '\x7b' ∨ c = '\x7d' then
      if !nested ∧ rest.head? = some c then
        (fieldLiteral raw nested fuel rest.tail).map fun (cs, after) => (c :: cs, after)
      else if c = '\x7d' ∧ !nested then none
      else some ([], c :: rest)
    else go 0

def literalPart (raw : Bool) (cs : List Char) : Option Expression := do
  return .value (.str (String.ofList (← Lexeme.decoded { raw } cs)))

/-- Blanks and line breaks around the expression of a field. -/
def isFieldBlank (c : Char) : Bool := Lexeme.isSpace c || c = '\n'

def fieldForm? : Char → Option FieldForm
  | 's' => some .text
  | 'r' => some .quoted
  | 'a' => some .ascii
  | _ => none

/-! ### Expressions -/

mutual

def expression : (fuel : Nat) → List Token → Option (Parsed Expression)
  | 0, _ => none
  | fuel + 1, .word "lambda" :: ts => do
    let (params, rest) ← parameters fuel ts
    let (body, rest) ← expression fuel rest
    return (.function params body, rest)
  | fuel + 1, ts => do
    let (first, rest) ← binary fuel 0 ts
    match rest with
    | .word "if" :: rest => do
      let (condition, rest) ← binary fuel 0 rest
      let (no, rest) ← expression fuel (← expectWord "else" rest)
      return (.conditional condition first no, rest)
    | rest => return (first, rest)

def parameters : (fuel : Nat) → List Token →
    Option (Parsed (List (String × ParameterKind × Option Expression)))
  | 0, _ => none
  | fuel + 1, ts => more fuel .positional [] ts
where
  /-- Continues after some parameters; `kind` is that of the next one. -/
  more : (fuel : Nat) → ParameterKind → List (String × ParameterKind × Option Expression) →
      List Token → Option (Parsed (List (String × ParameterKind × Option Expression)))
  | 0, _, _, _ => none
  | fuel + 1, kind, ps, ts =>
    let next (kind : ParameterKind) (ps : List (String × ParameterKind × Option Expression))
        (rest : List Token) : Option (Parsed (List (String × ParameterKind × Option Expression))) :=
      match rest with
      | .symbol "," :: rest => more fuel kind ps rest
      | rest => do return (ps, ← expect ":" rest)
    let isNew (s : String) : Bool := isFree s && ps.all (·.1 ≠ s)
    match ts with
    | .symbol ":" :: rest => some (ps, rest)
    | .symbol "/" :: rest =>
      if kind = .positional ∧ !ps.isEmpty ∧ ps.all (·.2.1 = .positional) then
        next .positional (ps.map fun (s, _, d) => (s, .positionalOnly, d)) rest
      else none
    | .symbol "*" :: .name s :: rest =>
      if kind = .positional ∧ isNew s then next .keywordOnly (ps ++ [(s, .variadic, none)]) rest
      else none
    | .symbol "*" :: .symbol "," :: rest@(.name _ :: _) =>
      if kind = .positional then more fuel .keywordOnly ps rest else none
    | .symbol "**" :: .name s :: rest =>
      if isNew s then do
        let rest := match rest with
          | .symbol "," :: rest => rest
          | rest => rest
        return (ps ++ [(s, .variadicKeyword, none)], ← expect ":" rest)
      else none
    | .name s :: .symbol "=" :: rest => do
      if !isNew s then none
      let (d, rest) ← expression fuel rest
      next kind (ps ++ [(s, kind, some d)]) rest
    | .name s :: rest =>
      if isNew s ∧ (kind = .keywordOnly ∨ ps.all (·.2.2.isNone)) then
        next kind (ps ++ [(s, kind, none)]) rest
      else none
    | _ => none

def binary : (fuel : Nat) → (strength : Nat) → List Token → Option (Parsed Expression)
  | 0, _, _ => none
  | fuel + 1, strength, ts => do
    let (left, rest) ← operand fuel strength ts
    climb fuel strength left rest

/-- Continues after a left operand. -/
def climb : (fuel : Nat) → (strength : Nat) → Expression → List Token →
    Option (Parsed Expression)
  | 0, _, _, _ => none
  | fuel + 1, strength, left, ts =>
    match operator ts with
    | some (op, s, rest) =>
      if strength ≤ s then do
        let (right, rest) ← binary fuel (if s = powerStrength then signStrength else s + 1) rest
        climb fuel strength (.binary op left right) rest
      else some (left, ts)
    | none =>
      if strength ≤ comparisonStrength then do
        let (chain, rest) ← comparisons fuel ts
        if chain.isEmpty then return (left, ts)
        else climb fuel strength (.comparison left chain) rest
      else some (left, ts)

def comparisons : (fuel : Nat) → List Token → Option (Parsed (List (Comparison × Expression)))
  | 0, _ => none
  | fuel + 1, ts =>
    match comparison ts with
    | some (op, rest) => do
      let (e, rest) ← binary fuel (comparisonStrength + 1) rest
      let (more, rest) ← comparisons fuel rest
      return ((op, e) :: more, rest)
    | none => some ([], ts)

/-- An operand with the signs before it. -/
def operand : (fuel : Nat) → (strength : Nat) → List Token → Option (Parsed Expression)
  | 0, _, _ => none
  | fuel + 1, strength, ts =>
    let signed (op : Sign) (rest : List Token) : Option (Parsed Expression) :=
      if strength ≤ signStrength then
        (binary fuel signStrength rest).map fun (e, rest) => (.sign op e, rest)
      else none
    match ts with
    | .word "not" :: rest =>
      if strength ≤ 2 then
        (binary fuel 2 rest).map fun (e, rest) => (.sign .not e, rest)
      else none
    | .symbol "-" :: rest => signed .minus rest
    | .symbol "+" :: rest => signed .plus rest
    | .symbol "~" :: rest => signed .complement rest
    | ts => do
      let (e, rest) ← atom fuel ts
      trailers fuel e rest

/-- Attributes, subscripts and calls after an expression. -/
def trailers : (fuel : Nat) → Expression → List Token → Option (Parsed Expression)
  | 0, _, _ => none
  | fuel + 1, e, ts =>
    match ts with
    | .symbol "." :: .name s :: rest => trailers fuel (.attribute e s) rest
    | .symbol "." :: _ => none
    | .symbol "[" :: rest => do
      let (index, rest) ← subscriptIndex fuel rest
      trailers fuel (.subscript e index) rest
    | .symbol "(" :: rest => do
      let (arguments, rest) ← callArguments fuel rest
      trailers fuel (.call e arguments) rest
    | ts => some (e, ts)

/-- The index up to the closing bracket; several indices are a tuple. -/
def subscriptIndex : (fuel : Nat) → List Token → Option (Parsed Expression)
  | 0, _ => none
  | fuel + 1, ts => do
    let (items, trailing, rest) ← indices fuel ts
    match items, trailing with
    | [], _ => none
    | [.starred e], _ => return (.tuple [.starred e], rest)
    | [index], false => return (index, rest)
    | items, _ => return (.tuple items, rest)

def indices : (fuel : Nat) → List Token → Option (List Expression × Bool × List Token)
  | 0, _ => none
  | fuel + 1, ts =>
    match ts with
    | .symbol "]" :: rest => some ([], false, rest)
    | ts => do
      let (e, rest) ← index fuel ts
      match rest with
      | .symbol "," :: rest => do
        let (more, trailing, rest) ← indices fuel rest
        return (e :: more, trailing || more.isEmpty, rest)
      | rest => return ([e], false, ← expect "]" rest)

def index : (fuel : Nat) → List Token → Option (Parsed Expression)
  | 0, _ => none
  | fuel + 1, ts =>
    match ts with
    | .symbol "*" :: rest => do
      let (e, rest) ← expression fuel rest
      return (.starred e, rest)
    | .symbol ":" :: rest => sliceAfter fuel none rest
    | ts => do
      let (e, rest) ← named fuel ts
      match rest with
      | .symbol ":" :: rest => if beginsNaming ts then none else sliceAfter fuel (some e) rest
      | rest => return (e, rest)

def sliceAfter : (fuel : Nat) → Option Expression → List Token → Option (Parsed Expression)
  | 0, _, _ => none
  | fuel + 1, start, ts => do
    let (stop, rest) ← bound fuel ts
    match rest with
    | .symbol ":" :: rest => do
      let (step, rest) ← bound fuel rest
      return (.slice start stop step, rest)
    | rest => return (.slice start stop none, rest)

def bound : (fuel : Nat) → List Token → Option (Parsed (Option Expression))
  | 0, _ => none
  | fuel + 1, ts =>
    match ts with
    | .symbol ":" :: _ | .symbol "," :: _ | .symbol "]" :: _ => some (none, ts)
    | ts => (expression fuel ts).map fun (e, rest) => (some e, rest)

def named : (fuel : Nat) → List Token → Option (Parsed Expression)
  | 0, _ => none
  | fuel + 1, ts =>
    match ts with
    | .name s :: .symbol ":=" :: rest => do
      if !isFree s then none
      let (e, rest) ← expression fuel rest
      return (.naming s e, rest)
    | ts => expression fuel ts

/-- An expression that may be given a name, or all items of something. -/
def starredOrNamed : (fuel : Nat) → List Token → Option (Parsed Expression)
  | 0, _ => none
  | fuel + 1, ts =>
    match ts with
    | .symbol "*" :: rest => do
      let (e, rest) ← binary fuel starStrength rest
      return (.starred e, rest)
    | ts => named fuel ts

def callArguments : (fuel : Nat) → List Token → Option (Parsed (List (Passing × Expression)))
  | 0, _ => none
  | fuel + 1, ts =>
    match ts with
    | .symbol ")" :: rest => some ([], rest)
    | ts => moreArguments fuel [] ts

/-- Continues after some arguments. Plain ones come before named ones, and items that are spread
before entries that are. A comprehension without parentheses of its own is an only argument. -/
def moreArguments : (fuel : Nat) → List (Passing × Expression) → List Token →
    Option (Parsed (List (Passing × Expression)))
  | 0, _, _ => none
  | fuel + 1, done, ts =>
    let spreadsEntries := done.any (·.1 = .spreadNamed)
    let hasNamed := spreadsEntries || done.any fun a => a.1 matches .named _
    let next (p : Passing) (e : Expression) (rest : List Token) :
        Option (Parsed (List (Passing × Expression))) :=
      match rest with
      | .symbol "," :: .symbol ")" :: rest => some (done ++ [(p, e)], rest)
      | .symbol "," :: rest => moreArguments fuel (done ++ [(p, e)]) rest
      | rest => do return (done ++ [(p, e)], ← expect ")" rest)
    match ts with
    | .symbol "**" :: rest => do
      let (e, rest) ← expression fuel rest
      next .spreadNamed e rest
    | .symbol "*" :: rest => do
      if spreadsEntries then none
      let (e, rest) ← expression fuel rest
      next .spread e rest
    | .name s :: .symbol "=" :: rest => do
      if !isFree s || done.any (·.1 = .named s) then none
      let (e, rest) ← expression fuel rest
      next (.named s) e rest
    | ts => do
      if hasNamed then none
      let (e, rest) ← named fuel ts
      match rest with
      | .word "for" :: _ => do
        if !done.isEmpty then none
        let (cs, rest) ← clauses fuel rest
        return ([(.plain, .comprehension .stream e cs)], ← expect ")" rest)
      | rest => next .plain e rest

/-- Items separated by commas up to a closing symbol, and whether a comma ends them. -/
def items : (fuel : Nat) → (close : String) → List Token →
    Option (List Expression × Bool × List Token)
  | 0, _, _ => none
  | fuel + 1, close, ts =>
    match expect close ts with
    | some rest => some ([], false, rest)
    | none => do
      let (e, rest) ← starredOrNamed fuel ts
      itemsAfter fuel close e rest

def itemsAfter : (fuel : Nat) → (close : String) → Expression → List Token →
    Option (List Expression × Bool × List Token)
  | 0, _, _, _ => none
  | fuel + 1, close, e, ts =>
    match ts with
    | .symbol "," :: rest => do
      let (more, trailing, rest) ← items fuel close rest
      return (e :: more, trailing || more.isEmpty, rest)
    | rest => do return ([e], false, ← expect close rest)

def clauses : (fuel : Nat) → List Token →
    Option (Parsed (List (Expression × Expression × List Expression)))
  | 0, _ => none
  | fuel + 1, ts =>
    match ts with
    | .word "for" :: rest => do
      let (target, rest) ← targets fuel rest
      let (source, rest) ← binary fuel 0 (← expectWord "in" rest)
      let (conditions, rest) ← conditions fuel rest
      let (more, rest) ← clauses fuel rest
      return ((target, source, conditions) :: more, rest)
    | ts => some ([], ts)

def conditions : (fuel : Nat) → List Token → Option (Parsed (List Expression))
  | 0, _ => none
  | fuel + 1, ts =>
    match ts with
    | .word "if" :: rest => do
      let (e, rest) ← binary fuel 0 rest
      let (more, rest) ← conditions fuel rest
      return (e :: more, rest)
    | ts => some ([], ts)

/-- The target of a clause; several targets are a tuple. -/
def targets : (fuel : Nat) → List Token → Option (Parsed Expression)
  | 0, _ => none
  | fuel + 1, ts => do
    let (es, trailing, rest) ← targetList fuel ts
    let target ← match es, trailing with
      | [.starred _], false => none
      | [e], false => some e
      | es, _ => some (.tuple es)
    if isTarget fuel target then return (target, rest) else none

/-- Targets separated by commas, and whether a comma ends them. -/
def targetList : (fuel : Nat) → List Token → Option (List Expression × Bool × List Token)
  | 0, _ => none
  | fuel + 1, ts => do
    let (e, rest) ← match ts with
      | .symbol "*" :: rest => do
        let (e, rest) ← binary fuel (powerStrength + 1) rest
        some (.starred e, rest)
      | ts => binary fuel (powerStrength + 1) ts
    match rest with
    | .symbol "," :: rest@(.word "in" :: _) => return ([e], true, rest)
    | .symbol "," :: rest => do
      let (more, trailing, rest) ← targetList fuel rest
      return (e :: more, trailing, rest)
    | rest => return ([e], false, rest)

/-- What follows the opening parenthesis: an expression, a tuple or a comprehension. -/
def parenthesized : (fuel : Nat) → List Token → Option (Parsed Expression)
  | 0, _ => none
  | fuel + 1, ts =>
    match ts with
    | .word "yield" :: .symbol ")" :: rest => some (.suspension none, rest)
    | .word "yield" :: .word "from" :: rest => do
      let (e, rest) ← expression fuel rest
      return (.suspension (some e), ← expect ")" rest)
    | .word "yield" :: rest => do
      if beginsNaming rest then none
      let (es, trailing, rest) ← items fuel ")" rest
      match es, trailing with
      | [], _ | [.starred _], false => none
      | [e], false => return (.suspension (some e), rest)
      | es, _ => return (.suspension (some (.tuple es)), rest)
    | .symbol ")" :: rest => some (.tuple [], rest)
    | ts => do
      let (e, rest) ← starredOrNamed fuel ts
      match e, rest with
      | .starred _, .word "for" :: _ => none
      | e, .word "for" :: _ => do
        let (cs, rest) ← clauses fuel rest
        return (.comprehension .stream e cs, ← expect ")" rest)
      | e, rest => do
        let (es, trailing, rest) ← itemsAfter fuel ")" e rest
        match es, trailing with
        | [.starred _], false => none
        | [e], false => return (e, rest)
        | es, _ => return (.tuple es, rest)

def bracketed : (fuel : Nat) → List Token → Option (Parsed Expression)
  | 0, _ => none
  | fuel + 1, ts =>
    match ts with
    | .symbol "]" :: rest => some (.list [], rest)
    | ts => do
      let (e, rest) ← starredOrNamed fuel ts
      match e, rest with
      | .starred _, .word "for" :: _ => none
      | e, .word "for" :: _ => do
        let (cs, rest) ← clauses fuel rest
        return (.comprehension .list e cs, ← expect "]" rest)
      | e, rest => do
        let (es, _, rest) ← itemsAfter fuel "]" e rest
        return (.list es, rest)

def braced : (fuel : Nat) → List Token → Option (Parsed Expression)
  | 0, _ => none
  | fuel + 1, ts =>
    match ts with
    | .symbol "\x7d" :: rest => some (.dict [], rest)
    | .symbol "**" :: _ => do
      let (es, rest) ← entries fuel ts
      return (.dict es, rest)
    | ts => do
      let (e, rest) ← starredOrNamed fuel ts
      match e, rest with
      | .starred _, .word "for" :: _ => none
      | e, .word "for" :: _ => do
        let (cs, rest) ← clauses fuel rest
        return (.comprehension .set e cs, ← expect "\x7d" rest)
      | e, .symbol ":" :: rest => do
        if e matches .starred _ || beginsNaming ts then none
        let (v, rest) ← expression fuel rest
        match rest with
        | .word "for" :: _ => do
          let (cs, rest) ← clauses fuel rest
          return (.dictComprehension e v cs, ← expect "\x7d" rest)
        | rest => do
          let (es, rest) ← entriesAfter fuel (some e, v) rest
          return (.dict es, rest)
      | e, rest => do
        let (es, _, rest) ← itemsAfter fuel "\x7d" e rest
        return (.set es, rest)

def entries : (fuel : Nat) → List Token →
    Option (Parsed (List (Option Expression × Expression)))
  | 0, _ => none
  | fuel + 1, ts =>
    match ts with
    | .symbol "\x7d" :: rest => some ([], rest)
    | .symbol "**" :: rest => do
      let (e, rest) ← binary fuel starStrength rest
      entriesAfter fuel (none, e) rest
    | ts => do
      let (key, rest) ← expression fuel ts
      let (v, rest) ← expression fuel (← expect ":" rest)
      entriesAfter fuel (some key, v) rest

def entriesAfter : (fuel : Nat) → Option Expression × Expression → List Token →
    Option (Parsed (List (Option Expression × Expression)))
  | 0, _, _ => none
  | fuel + 1, entry, ts =>
    match ts with
    | .symbol "," :: rest => do
      let (more, rest) ← entries fuel rest
      return (entry :: more, rest)
    | rest => do return ([entry], ← expect "\x7d" rest)

def atom : (fuel : Nat) → List Token → Option (Parsed Expression)
  | 0, _ => none
  | fuel + 1, ts =>
    match ts with
    | .word "None" :: rest => some (.value .null, rest)
    | .word "True" :: rest => some (.value (.bool true), rest)
    | .word "False" :: rest => some (.value (.bool false), rest)
    | .name s :: rest => some (.name s, rest)
    | .number v :: rest => some (.value v, rest)
    | .text _ :: _ | .formatted _ _ :: _ => do
      let (parts, isJoined, rest) ← texts fuel ts
      match joinTexts parts, isJoined, rest with
      | _, _, .bytes _ :: _ => none
      | [], false, rest => return (.value (.str ""), rest)
      | [.value (.str s)], false, rest => return (.value (.str s), rest)
      | parts, _, rest => return (.joined parts, rest)
    | .bytes _ :: _ =>
      let (bs, rest) := joinedBytes ts
      match rest with
      | .text _ :: _ | .formatted _ _ :: _ => none
      | rest => some (.value (.bytes bs), rest)
    | .symbol "..." :: rest => some (.value .ellipsis, rest)
    | .symbol "(" :: rest => parenthesized fuel rest
    | .symbol "[" :: rest => bracketed fuel rest
    | .symbol "\x7b" :: rest => braced fuel rest
    | _ => none

def texts : (fuel : Nat) → List Token → Option (List Expression × Bool × List Token)
  | 0, _ => none
  | fuel + 1, ts =>
    match ts with
    | .text s :: rest => do
      let (more, isJoined, rest) ← texts fuel rest
      return (.value (.str s) :: more, isJoined, rest)
    | .formatted raw cs :: rest => do
      let (parts, after) ← formattedParts fuel raw 0 cs
      if !after.isEmpty then none
      let (more, _, rest) ← texts fuel rest
      return (parts ++ more, true, rest)
    | ts => some ([], false, ts)

/-- The parts of a text with fields, up to its end or, in the layout of a field, up to the closing
brace. -/
def formattedParts : (fuel : Nat) → (raw : Bool) → (level : Nat) → List Char →
    Option (List Expression × List Char)
  | 0, _, _, _ => none
  | fuel + 1, raw, level, cs => do
    let (literal, rest) ← fieldLiteral raw (level ≠ 0) (cs.length + 1) cs
    let part ← literalPart raw literal
    match rest with
    | '\x7b' :: rest => do
      if 2 ≤ level then none
      let (parts, rest) ← fieldParts fuel raw level rest
      let (more, rest) ← formattedParts fuel raw level rest
      return (part :: parts ++ more, rest)
    | rest => return ([part], rest)

/-- A field after its opening brace, with its own text in front of it if that is asked for. -/
def fieldParts : (fuel : Nat) → (raw : Bool) → (level : Nat) → List Char →
    Option (List Expression × List Char)
  | 0, _, _, _ => none
  | fuel + 1, raw, level, cs => do
    let (text, rest) ← fieldExpression {} (cs.length + 1) cs
    if text.all isFieldBlank then none
    let ts ← Lexeme.ofEnclosed (text ++ [')'])
    let (e, left) ← parenthesized fuel ts
    if !left.isEmpty then none
    let (shown, rest) := match rest with
      | '=' :: rest =>
        let blanks := rest.takeWhile isFieldBlank
        ([Expression.value (.str (String.ofList (text ++ '=' :: blanks)))], rest.drop blanks.length)
      | rest => ([], rest)
    let (form, rest) ← match rest with
      | '!' :: c :: rest => (fieldForm? c).map fun f => (some f, rest)
      | '!' :: [] => none
      | rest => some (none, rest)
    let (layout, rest) ← match rest with
      | ':' :: rest => do
        let (parts, rest) ← formattedParts fuel raw (level + 1) rest
        some (some (Expression.joined (joinTexts parts)), rest)
      | rest => some (none, rest)
    let form := match form with
      | some f => f
      | none => if !shown.isEmpty && layout.isNone then .quoted else .plain
    match rest with
    | '\x7d' :: rest => return (shown ++ [Expression.field e form layout], rest)
    | _ => none

end

/-- One or more expressions separated by commas, up to the end. -/
def top : (fuel : Nat) → List Token → Option (List Expression × Bool)
  | 0, _ => none
  | fuel + 1, ts => do
    let (e, rest) ← expression fuel ts
    match rest with
    | [] => return ([e], false)
    | [.symbol ","] => return ([e], true)
    | .symbol "," :: rest => do
      let (more, _) ← top fuel rest
      return (e :: more, true)
    | _ => none

end Grammar

end Annotation

end Longhand
