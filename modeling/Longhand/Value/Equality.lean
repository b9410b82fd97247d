import Longhand.Decimal.Shortest
import Longhand.Error

/-!
Equality of values, and whether a value can be hashed. Numbers are equal by what they denote,
whatever their class; lists and tuples differ; mappings ignore the order of their entries; records
are equal field by field within one kind.
-/

namespace Longhand

/-- The exact value of a real number. -/
inductive ExactReal where
  | finite (num : Int) (den : Nat)
  | infinite (negative : Bool)
  | undefined
deriving DecidableEq, Repr

namespace ExactReal

def ofFloat (x : Float) : ExactReal :=
  match exactRatio? x with
  | some (num, den) => .finite num den
  | none => if x.isNaN then .undefined else .infinite (x < 0.0)

/-- Whether two reals are the same number; an undefined one equals nothing. -/
def same : ExactReal → ExactReal → Bool
  | .finite a b, .finite c d => a * d = c * b
  | .infinite a, .infinite b => a = b
  | _, _ => false

end ExactReal

namespace Value

/-- The number a value denotes, as real and imaginary part. -/
def number? : Value → Option (ExactReal × ExactReal)
  | .bool b => some (.finite b.toNat 1, .finite 0 1)
  | .int n => some (.finite n 1, .finite 0 1)
  | .float x => some (.ofFloat x, .finite 0 1)
  | .complex re im => some (.ofFloat re, .ofFloat im)
  | _ => none

def sameNumber (v w : Value) : Bool :=
  match v.number?, w.number? with
  | some (a, b), some (c, d) => a.same c && b.same d
  | _, _ => false

def same : Value → Value → Bool
  | .null, .null => true
  | .str s, .str t => s = t
  | .bytes b, .bytes c => b = c
  | .list xs, .list ys => sameAll xs ys
  | .tuple xs, .tuple ys => sameAll xs ys
  | .dict es, .dict fs => es.length = fs.length && sameEntries es fs
  | .type c, .type d => c = d
  | .any, .any => true
  | .variable s, .variable t => s = t
  | .ellipsis, .ellipsis => true
  | .generic (.union _) xs, .generic (.union _) ys => sameSet false xs ys
  | .generic .literal xs, .generic .literal ys => sameSet true xs ys
  | .generic g xs, .generic h ys => g = h && sameAll xs ys
  | .object c s, .object d t => c = d && s = t
  | .record k es, .record l fs => k = l && sameFields es fs
  | v, w => sameNumber v w
where
  sameAll : List Value → List Value → Bool
  | [], [] => true
  | v :: vs, w :: ws => v.same w && sameAll vs ws
  | _, _ => false
  sameEntries : List (String × Value) → List (String × Value) → Bool
  | [], _ => true
  | (k, v) :: rest, fs =>
    (match lookup fs k with
      | some w => v.same w
      | none => false) && sameEntries rest fs
  sameFields : List (String × Value) → List (String × Value) → Bool
  | [], [] => true
  | (k, v) :: es, (l, w) :: fs => k = l && v.same w && sameFields es fs
  | _, _ => false
  /-- Whether two choices hold the same items; `strict` tells apart equal items of two types. -/
  sameSet (strict : Bool) (xs ys : List Value) : Bool :=
    allWithin strict xs ys && ys.all (oneSame strict xs)
  allWithin (strict : Bool) : List Value → List Value → Bool
  | [], _ => true
  | v :: vs, ws =>
    ws.any (fun w => v.same w && (!strict || v.typeName = w.typeName)) && allWithin strict vs ws
  oneSame (strict : Bool) : List Value → Value → Bool
  | [], _ => false
  | v :: vs, w => (v.same w && (!strict || v.typeName = w.typeName)) || oneSame strict vs w

/-- The type of the first part of a value that cannot be hashed. Lists and mappings cannot. -/
def unhashable? : Value → Option String
  | .list _ => some "list"
  | .dict _ => some "dict"
  | .tuple items => firstUnhashable items
  | .generic _ args => firstUnhashable args
  | .record _ fields => firstUnhashableField fields
  | _ => none
where
  firstUnhashable : List Value → Option String
  | [] => none
  | v :: vs => v.unhashable?.or (firstUnhashable vs)
  firstUnhashableField : List (String × Value) → Option String
  | [] => none
  | (_, v) :: rest => v.unhashable?.or (firstUnhashableField rest)

def checkHashable (v : Value) : Except Error Unit :=
  match v.unhashable? with
  | some t => .error (.unhashable t)
  | none => .ok ()

end Value

end Longhand
