import Longhand.Annotation.Grammar

/-!
The rules on names and suspensions that go beyond the grammar: where a name may be given to a value
inside a comprehension, and where a function may be suspended. `Expression.ofText` reads a text
that keeps all rules.
-/

namespace Longhand

namespace Annotation

/-- What surrounds an expression. -/
structure Scope where
  inFunction : Bool := false
  inComprehension : Bool := false
  /-- Inside of what a clause runs through, where nothing is given a name. -/
  isSource : Bool := false
  /-- The names that the clauses around give values to, up to the next function. -/
  targets : List String := []

namespace Scope

def targetNames : (fuel : Nat) → Expression → List String
  | 0, _ => []
  | _, .name s => [s]
  | fuel + 1, .starred e | fuel + 1, .attribute e _ => targetNames fuel e
  | fuel + 1, .subscript e i => targetNames fuel e ++ targetNames fuel i
  | fuel + 1, .tuple es | fuel + 1, .list es => es.flatMap (targetNames fuel)
  | _, _ => []

/-- Whether an expression keeps the rules in a scope. -/
def admits : (fuel : Nat) → Scope → Expression → Bool
  | 0, _, _ => false
  | fuel + 1, s, e =>
    let all (es : List Expression) : Bool := es.all (admits fuel s)
    let comprehension (results : List Expression)
        (clauses : List (Expression × Expression × List Expression)) : Bool :=
      let inner := { s with
        inComprehension := true
        targets := s.targets ++ clauses.flatMap fun c => targetNames fuel c.1 }
      results.all (admits fuel inner)
        && clauses.all (fun c => admits fuel inner c.1 && c.2.2.all (admits fuel inner))
        && (clauses.take 1).all (fun c => admits fuel { s with isSource := true } c.2.1)
        && (clauses.drop 1).all (fun c => admits fuel { inner with isSource := true } c.2.1)
    match e with
    | .name _ | .value _ => true
    | .attribute e _ | .starred e | .sign _ e => admits fuel s e
    | .subscript e i => all [e, i]
    | .slice a b c => all ([a, b, c].filterMap id)
    | .call f arguments => admits fuel s f && all (arguments.map Prod.snd)
    | .list es | .tuple es | .set es | .joined es => all es
    | .dict entries => entries.all fun (k, v) => all k.toList && admits fuel s v
    | .binary _ l r => all [l, r]
    | .comparison first rest => admits fuel s first && all (rest.map Prod.snd)
    | .conditional c y n => all [c, y, n]
    | .naming name e => !s.isSource && !s.targets.contains name && admits fuel s e
    | .function params body =>
      all (params.filterMap (·.2.2))
        && admits fuel { s with inFunction := true, inComprehension := false, targets := [] } body
    | .comprehension _ item clauses => comprehension [item] clauses
    | .dictComprehension k v clauses => comprehension [k, v] clauses
    | .field e _ layout => all (e :: layout.toList)
    | .suspension e => s.inFunction && !s.inComprehension && all e.toList

end Scope

/-- The expression that a text spells. A text that begins with a star spells the first item of
what the star spreads, followed by what else the text lists. -/
def Expression.ofText (text : String) : Option Expression := do
  let spelled := if text.toList.head? = some '*' then "(" ++ text ++ ",)[0]" else text
  let ts ← Lexeme.ofText spelled
  let fuel := 16 * (spelled.length + 4)
  let e ← match ← Grammar.top fuel ts with
    | ([e], false) => some e
    | (es, _) => some (.tuple es)
  if Scope.admits fuel {} e then some e else none

end Annotation

end Longhand
