import Longhand.Annotation.Hierarchy
import Longhand.Annotation.Number
import Longhand.Value.Equality

/-!
When entities are equal, identical or in order, which can be hashed, and what counts as true.
Numbers are compared by what they denote, whatever their kinds.
-/

namespace Longhand

namespace ExactReal

/-- Whether a real is below another; an undefined one is in no order. -/
def below : ExactReal → ExactReal → Bool
  | .finite a b, .finite c d => a * d < c * b
  | .infinite negative, .finite _ _ => negative
  | .finite _ _, .infinite negative => !negative
  | .infinite a, .infinite b => a && !b
  | _, _ => false

def ofNumber? : Annotation.Number → Option ExactReal
  | .int n => some (.finite n 1)
  | .float x => some (ofFloat x)
  | .complex _ _ => none

end ExactReal

namespace Annotation

variable [Home]

def Number.exact : Number → ExactReal × ExactReal
  | .int n => (.finite n 1, .finite 0 1)
  | .float x => (.ofFloat x, .finite 0 1)
  | .complex re im => (.ofFloat re, .ofFloat im)

def Number.same (v w : Number) : Bool :=
  let (a, b) := v.exact
  let (c, d) := w.exact
  a.same c && b.same d

def rangeLength (start stop step : Int) : Nat :=
  if 0 < step then ((stop - start + step - 1).fdiv step).toNat
  else ((start - stop - step - 1).fdiv (-step)).toNat

namespace Entity

def sameNumber (v w : Entity) : Bool :=
  match Number.ofEntity? v, Number.ofEntity? w with
  | some a, some b => a.same b
  | _, _ => false

def same : Entity → Entity → Bool
  | .null, .null | .ellipsis, .ellipsis | .notImplemented, .notImplemented => true
  | .str s, .str t => s = t
  | .bytes b, .bytes c => b = c
  | .list xs, .list ys | .tuple xs, .tuple ys => sameAll xs ys
  | .dict es, .dict fs => es.length = fs.length && sameEntries es fs
  | .set _ xs, .set _ ys => xs.length = ys.length && within xs ys
  | .view _ xs, .view _ ys => xs.length = ys.length && within xs ys
  | .range a b c, .range d e f =>
    let n := rangeLength a b c
    n = rangeLength d e f && (n = 0 || (a = d && (n = 1 || c = f)))
  | .slice a b c, .slice d e f => a.same d && b.same e && c.same f
  | .cls c, .cls d => c = d
  | .defined c, .defined d => c = d
  | .library s, .library t | .builtin s, .builtin t | .form s, .form t | .bare s, .bare t => s = t
  | .method v s, .method w t => s = t && v.same w
  | .descriptor c s, .descriptor d t => c = d && s = t
  | .applied "Union" xs, .applied "Union" ys | .applied "Union" xs, .union ys
  | .union xs, .applied "Union" ys | .union xs, .union ys =>
    xs.length = ys.length && within xs ys
  | .applied "Literal" xs, .applied "Literal" ys =>
    xs.length = ys.length && withinAlike xs ys
  | .applied s xs, .applied t ys => s = t && sameAll xs ys
  | .annotated v xs, .annotated w ys => v.same w && sameAll xs ys
  | .generic c xs a, .generic d ys b => c = d && a = b && sameAll xs ys
  | .forward s, .forward t => s = t
  | .variable _ s _ _, .variable _ t _ _ | .newType s _, .newType t _ => s = t
  | .sealed c s, .sealed d t => c = d && s = t
  | v, w => v.sameNumber w
where
  sameAll : List Entity → List Entity → Bool
  | [], [] => true
  | v :: vs, w :: ws => v.same w && sameAll vs ws
  | _, _ => false
  sameEntries : List (Entity × Entity) → List (Entity × Entity) → Bool
  | [], _ => true
  | (k, v) :: rest, fs => fs.any (fun f => k.same f.1 && v.same f.2) && sameEntries rest fs
  within : List Entity → List Entity → Bool
  | [], _ => true
  | v :: vs, ws => ws.any v.same && within vs ws
  withinAlike : List Entity → List Entity → Bool
  | [], _ => true
  | v :: vs, ws => ws.any (fun w => v.className = w.className && v.same w) && withinAlike vs ws

/-- Whether an entity is not made anew each time. -/
def isLasting : Entity → Bool
  | .list _ | .dict _ | .set _ _ | .range _ _ _ | .slice _ _ _ | .iterator _ _ _ | .view _ _
  | .made _ _ | .method _ _ | .function _ _ _ | .generic _ _ _ | .union _ | .forward _
  | .newType _ _ | .sealed _ _ => false
  | _ => true

def identical (v w : Entity) : Bool :=
  match v, w with
  | .float x, .float y => x.toBits = y.toBits
  | .complex a b, .complex c d => a.toBits = c.toBits && b.toBits = d.toBits
  | v, w => v.className = w.className && v.isLasting && v.same w

def isHashable : Entity → Bool
  | .list _ | .dict _ | .set false _ | .slice _ _ _ => false
  | .view kind _ => kind = "dict_values"
  | .tuple items | .set true items | .applied _ items | .generic _ items _ | .union items =>
    allHashable items
  | .annotated v remarks => v.isHashable && allHashable remarks
  | .made c _ => c ≠ "bytearray"
  | _ => true
where
  allHashable : List Entity → Bool
  | [] => true
  | v :: vs => v.isHashable && allHashable vs

/-- Whether an entity counts as true. -/
def holds : Entity → Bool
  | .null => false
  | .bool b => b
  | .int n => n ≠ 0
  | .float x => x != 0.0
  | .complex re im => re != 0.0 || im != 0.0
  | .str s => !s.isEmpty
  | .bytes bs => !bs.isEmpty
  | .list items | .tuple items | .set _ items | .view _ items => !items.isEmpty
  | .dict entries => !entries.isEmpty
  | .range a b c => rangeLength a b c ≠ 0
  | _ => true

/-- The items of a list without those that equal an earlier one. -/
def distinct (items : List Entity) : List Entity :=
  items.foldl (fun kept v => if kept.any v.same then kept else kept ++ [v]) []

end Entity

/-- How two things in a line stand to each other: the first below or above the second, or neither;
some things, such as undefined numbers, are in no order. -/
inductive Standing where
  | below | level | above | apart
deriving DecidableEq, Repr, Inhabited

namespace Standing

def holds : Standing → Comparison → Bool
  | .below, .less | .below, .atMost | .above, .greater | .above, .atLeast
  | .level, .atMost | .level, .atLeast => true
  | _, _ => false

/-- The standing of two lists by their first difference, and else by their lengths. -/
def ofLists {α : Type} (lt : α → α → Bool) : List α → List α → Standing
  | [], [] => .level
  | [], _ => .below
  | _, [] => .above
  | a :: as, b :: bs => if lt a b then .below else if lt b a then .above else ofLists lt as bs

end Standing

namespace Entity

/-- How two entities stand to each other, where they have an order. -/
def standing : Entity → Entity → Answer Standing
  | .str s, .str t => .ok (Standing.ofLists (fun a b => a < b) s.toList t.toList)
  | .bytes b, .bytes c => .ok (Standing.ofLists (fun a b => a < b) b c)
  | .list xs, .list ys | .tuple xs, .tuple ys => standingAll xs ys
  | .set _ xs, .set _ ys =>
    let lower := xs.all fun v => ys.any v.same
    let upper := ys.all fun w => xs.any w.same
    .ok (if lower && upper then .level else if lower then .below else if upper then .above
      else .apart)
  | v, w =>
    match (Number.ofEntity? v).bind ExactReal.ofNumber?,
        (Number.ofEntity? w).bind ExactReal.ofNumber? with
    | some a, some b =>
      .ok (if a.same b then .level else if a.below b then .below else if b.below a then .above
        else .apart)
    | _, _ => meaningless
where
  standingAll : List Entity → List Entity → Answer Standing
  | [], [] => .ok .level
  | [], _ => .ok .below
  | _, [] => .ok .above
  | v :: vs, w :: ws => if v.same w then standingAll vs ws else v.standing w

end Entity

end Annotation

end Longhand
