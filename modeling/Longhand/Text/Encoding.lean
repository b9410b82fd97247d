import Longhand.Text.Quoted

/-!
Texts as bytes and back, in three encodings. A fault tells which characters or bytes cannot be
carried over, and why; a repair may stand in for them.
-/

namespace Longhand

inductive Encoding where
  | utf8 | ascii | latin1
deriving DecidableEq, Repr, Inhabited

namespace Encoding

def name : Encoding → String
  | .utf8 => "utf-8"
  | .ascii => "ascii"
  | .latin1 => "latin-1"

def ofName? (s : String) : Option Encoding :=
  let plain := s.toList.map fun c => if c = '_' ∨ c = ' ' then '-' else c.toLower
  match String.ofList plain with
  | "utf-8" | "utf8" | "u8" | "utf" | "utf8-ucs2" | "utf8-ucs4" | "cp65001" => some .utf8
  | "ascii" | "us-ascii" | "646" | "ansi-x3.4-1968" | "iso646-us" | "us" => some .ascii
  | "latin-1" | "latin1" | "iso-8859-1" | "iso8859-1" | "8859" | "cp819" | "l1" | "latin" =>
    some .latin1
  | _ => none

/-- The characters that an encoding carries are below this bound. -/
def bound : Encoding → Nat
  | .utf8 => 0x110000
  | .ascii => 0x80
  | .latin1 => 0x100

/-- A run of characters or bytes that cannot be carried over. -/
structure Fault where
  start : Nat
  length : Nat
  reason : String
deriving Repr

def bytesOf (c : Char) : List UInt8 :=
  let n := c.toNat
  let tail (k : Nat) : UInt8 := (0x80 + n / Nat.pow 64 k % 64).toUInt8
  if n < 0x80 then [n.toUInt8]
  else if n < 0x800 then [(0xc0 + n / 64).toUInt8, tail 0]
  else if n < 0x10000 then [(0xe0 + n / 0x1000).toUInt8, tail 1, tail 0]
  else [(0xf0 + n / 0x40000).toUInt8, tail 2, tail 1, tail 0]

/-- The bytes of a text, where a repair gives the bytes of a run that cannot be carried over. -/
def encode {ε : Type} (e : Encoding) (repair : Fault → List Char → Except ε (List UInt8)) :
    (fuel : Nat) → (position : Nat) → List Char → Except ε (List UInt8)
  | 0, _, _ | _, _, [] => .ok []
  | fuel + 1, position, c :: rest => do
    if c.toNat < e.bound then
      let first := if e = .utf8 then bytesOf c else [c.toNat.toUInt8]
      return first ++ (← encode e repair fuel (position + 1) rest)
    else
      let run := (c :: rest).takeWhile fun c => e.bound ≤ c.toNat
      let reason := "ordinal not in range(" ++ toString e.bound ++ ")"
      let first ← repair ⟨position, run.length, reason⟩ run
      return first ++ (← encode e repair fuel (position + run.length) ((c :: rest).drop run.length))

/-- Whether a byte may follow another that begins a character. -/
def mayFollow (lead next : UInt8) : Bool :=
  match lead with
  | 0xe0 => 0xa0 ≤ next && next < 0xc0
  | 0xed => 0x80 ≤ next && next < 0xa0
  | 0xf0 => 0x90 ≤ next && next < 0xc0
  | 0xf4 => 0x80 ≤ next && next < 0x90
  | _ => 0x80 ≤ next && next < 0xc0

/-- The number of bytes that a first byte asks for. -/
def lengthOf? (lead : UInt8) : Option Nat :=
  if lead < 0x80 then some 1
  else if 0xc2 ≤ lead && lead < 0xe0 then some 2
  else if 0xe0 ≤ lead && lead < 0xf0 then some 3
  else if 0xf0 ≤ lead && lead < 0xf5 then some 4
  else none

/-- The character at the front and the number of its bytes, or the fault there. -/
def front (position : Nat) (lead : UInt8) (rest : List UInt8) : Except Fault (Char × Nat) :=
  match lengthOf? lead with
  | none => .error ⟨position, 1, "invalid start byte"⟩
  | some 1 => .ok (Char.ofNat lead.toNat, 1)
  | some n =>
    let tail := rest.take (n - 1)
    let good := (tail.takeWhile fun b => 0x80 ≤ b && b < 0xc0).length
    let good := match tail with
      | b :: _ => if mayFollow lead b then good else 0
      | [] => 0
    if good = n - 1 then
      let first := match n with
        | 2 => lead.toNat - 0xc0
        | 3 => lead.toNat - 0xe0
        | _ => lead.toNat - 0xf0
      .ok (Char.ofNat (tail.foldl (fun m b => 64 * m + (b.toNat - 0x80)) first), n)
    else if good = tail.length then .error ⟨position, good + 1, "unexpected end of data"⟩
    else .error ⟨position, good + 1, "invalid continuation byte"⟩

/-- The text of bytes, where a repair gives the text of a run that cannot be carried over. -/
def decode {ε : Type} (e : Encoding) (repair : Fault → List UInt8 → Except ε (List Char)) :
    (fuel : Nat) → (position : Nat) → List UInt8 → Except ε (List Char)
  | 0, _, _ | _, _, [] => .ok []
  | fuel + 1, position, b :: rest => do
    let step : Except Fault (Char × Nat) :=
      match e with
      | .utf8 => front position b rest
      | e =>
        if b.toNat < e.bound then .ok (Char.ofNat b.toNat, 1)
        else .error ⟨position, 1, "ordinal not in range(128)"⟩
    match step with
    | .ok (c, n) => return c :: (← decode e repair fuel (position + n) ((b :: rest).drop n))
    | .error fault =>
      let first ← repair fault ((b :: rest).take fault.length)
      return first ++ (← decode e repair fuel (position + fault.length)
        ((b :: rest).drop fault.length))

end Encoding

end Longhand
