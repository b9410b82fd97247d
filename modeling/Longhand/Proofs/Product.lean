import Longhand.Numeral.Product
import Longhand.Proofs.Sum

/-!
Multiplication is exact and never fails (`Arithmetic.multiply_exact`). A product of texts in which
every addition reads its operands anew and every row is looked up in a table of multiples comes to
the product of numerals, for operands of any type (`Checked.multiply_eq`).
-/

namespace Longhand

namespace Numeral

theorem multiples_go_eq (s : DigitStrategy) (a m : Numeral) (n : Nat) :
    multiples.go s a n m = (List.range (n + 1)).map fun k => ofNat (m.value + k * a.value) := by
  induction n generalizing m with
  | zero => simp [multiples.go]
  | succ n ih =>
    have hshift : ∀ k, (m.add s a).value + k * a.value = m.value + (k + 1) * a.value := by
      intro k
      rw [value_add, Nat.succ_mul, Nat.add_assoc, Nat.add_comm a.value]
    rw [multiples.go, ih (m.add s a), List.range_succ_eq_map (n := n + 1), List.map_cons,
      List.map_map]
    simp only [hshift, Function.comp_def, Nat.succ_eq_add_one, Nat.zero_mul, Nat.add_zero,
      ofNat_value]

/-- The table holds every multiple in its place. -/
theorem multiples_eq (s : DigitStrategy) (a : Numeral) (n : Nat) :
    multiples s a n = (List.range (n + 1)).map fun k => ofNat (k * a.value) := by
  rw [multiples, multiples_go_eq]
  simp only [value_zero, Nat.zero_add]

theorem length_multiples (s : DigitStrategy) (a : Numeral) (n : Nat) :
    (multiples s a n).length = n + 1 := by
  rw [multiples_eq, List.length_map, List.length_range]

/-- The next multiple is the last one and the factor once more. -/
theorem multiples_succ (s : DigitStrategy) (a : Numeral) (n : Nat) :
    multiples s a (n + 1) = multiples s a n ++ [((multiples s a n).getLastD zero).add s a] := by
  rw [multiples_eq, multiples_eq, List.range_succ (n := n + 1), List.map_append]
  congr 2
  rw [List.range_succ, List.map_append, List.map_singleton, List.map_singleton,
    List.getLastD_concat]
  congr 1
  exact ext_value (by rw [value_ofNat, value_add, value_ofNat, Nat.succ_mul])

theorem multiply_eq (s : DigitStrategy) (a b : Numeral) :
    a.multiply s b = ofNat (a.value * b.value) :=
  ext_value (by rw [value_multiply, value_ofNat])

end Numeral

namespace Checked

/-- The multiples of a text up to the `n`-th, each the one before plus the text. -/
def multiples (settings : Settings) (a : String) : Nat → Except Error (List String)
  | 0 => .ok ["0"]
  | n + 1 => do
    let table ← multiples settings a n
    return table ++ [← add settings (.str (table.getLastD "0")) (.str a)]

/-- Adds one row to the running total: the multiple that the column's character counts, with a
zero for each column before. A row of zero is skipped. -/
def addRow (settings : Settings) (table : List String) (total : String) (column : Char × Nat) :
    Except Error String := do
  let d ← Digit.ofValue (.str (.singleton column.1))
  match table[d.val]? with
  | none => .error (.evaluation .position "list index out of range")
  | some row =>
    if row = "0" then return total
    else add settings (.str total) (.str (row ++ String.ofList (List.replicate column.2 '0')))

/-- The product of two texts without leading zeros, one row for each digit of the second. -/
def product (settings : Settings) (a b : String) : Except Error String :=
  if a = "0" ∨ b = "0" then .ok "0"
  else do
    let table ← multiples settings a 9
    b.toList.reverse.zipIdx.foldlM (addRow settings table) "0"

def multiply (settings : Settings) (a b : Value) : Except Error String := do
  product settings (← operand a) (← operand b)

/-- The table of texts holds the multiples as they are written. -/
theorem multiples_text (settings : Settings) (a : Numeral) (n : Nat) :
    multiples settings a.text n
      = .ok ((Numeral.multiples settings.digits a n).map Numeral.text) := by
  induction n with
  | zero => rfl
  | succ n ih =>
    rw [multiples, ih, Numeral.multiples_succ, List.map_append, List.map_singleton,
      ← Numeral.text_zero]
    simp only [bind, Except.bind, List.getLastD_map, add_text]
    rfl

/-- A row of texts is added as the row of numerals is, if the table reaches to its digit. -/
theorem addRow_text (settings : Settings) {table : List Numeral} (total : Numeral) (d : Digit)
    (n : Nat) (h : d.val < table.length) :
    addRow settings (table.map Numeral.text) total.text (d.toChar, n)
      = .ok (Numeral.addRow settings.digits table total (d, n)).text := by
  have hdigit : Digit.ofValue (.str (.singleton d.toChar)) = .ok d := Digit.ofValue_text d
  have hrow : table[d.val]? = some (table.getD d.val .zero) := by
    rw [List.getD_eq_getElem?_getD, List.getElem?_eq_getElem h]
    rfl
  rw [addRow, hdigit, Numeral.addRow]
  simp only [bind, Except.bind, List.getElem?_map, hrow, Option.map_some]
  generalize table.getD d.val .zero = row
  by_cases hz : row = .zero
  · rw [if_pos hz, hz, Numeral.text_zero, if_pos rfl]
    rfl
  · have hne : row.digits ++ List.replicate n .zero ≠ [] := List.append_ne_nil_of_left_ne_nil
      row.normal.1 _
    have hzeros : row.text ++ String.ofList (List.replicate n '0')
        = Digits.text (row.digits ++ List.replicate n .zero) := by
      rw [Digits.text, List.map_append, List.map_replicate, String.ofList_append]
      rfl
    rw [if_neg hz, if_neg (mt Numeral.text_eq_zero_iff.1 hz), hzeros, Numeral.text,
      add_digits settings total.normal.1 hne, Numeral.ofDigits_digits, Numeral.shift]

theorem foldlM_addRow (settings : Settings) {table : List Numeral} (hlen : table.length = 10)
    (total : Numeral) (ds : List Digit) (n : Nat) :
    ((ds.map Digit.toChar).zipIdx n).foldlM (addRow settings (table.map Numeral.text)) total.text
      = .ok ((ds.zipIdx n).foldl (Numeral.addRow settings.digits table) total).text := by
  induction ds generalizing total n with
  | nil => rfl
  | cons d ds ih =>
    rw [List.map_cons, List.zipIdx_cons, List.zipIdx_cons, List.foldlM_cons, List.foldl_cons,
      addRow_text settings total d n (Nat.lt_of_lt_of_eq d.isLt hlen.symm)]
    exact ih _ _

theorem product_text (settings : Settings) (a b : Numeral) :
    product settings a.text b.text = .ok (a.multiply settings.digits b).text := by
  rw [product, Numeral.multiply]
  simp only [Numeral.text_eq_zero_iff]
  split
  · rfl
  · have hdigits : b.text.toList.reverse = b.digits.reverse.map Digit.toChar := by
      rw [Numeral.text, Digits.toList_text, List.map_reverse]
    rw [multiples_text, hdigits, ← Numeral.text_zero]
    exact foldlM_addRow settings (Numeral.length_multiples settings.digits a 9) .zero _ 0

/-- The checks of a multiplication fail on its operands or not at all. -/
theorem multiply_eq (settings : Settings) (a b : Value) :
    multiply settings a b = (Arithmetic.multiply settings a b).map Numeral.text := by
  rw [multiply, operands_eq (product_text settings), Arithmetic.multiply, map_bind]
  rfl

end Checked

namespace Arithmetic

open DigitText (IsValid value)

/-- The product of two digit strings is the decimal text of the product of their numbers. Nothing
fails on the way, also with every check made in every call and every column. -/
theorem multiply_exact (settings : Settings) {a b : String} (ha : IsValid a) (hb : IsValid b) :
    (Arithmetic.multiply settings (.str a) (.str b)).map Numeral.text
      = .ok (Nat.repr (value a * value b)) ∧
    Checked.multiply settings (.str a) (.str b) = .ok (Nat.repr (value a * value b)) := by
  obtain ⟨m, hm, hma, -⟩ := ha.exists_numeral
  obtain ⟨n, hn, hnb, -⟩ := hb.exists_numeral
  have hrun : (Arithmetic.multiply settings (.str a) (.str b)).map Numeral.text
      = .ok (Nat.repr (value a * value b)) := by
    rw [Arithmetic.multiply, Arithmetic.operands, hm, hn, ← hma, ← hnb,
      ← Numeral.value_multiply settings.digits, ← Numeral.text_eq_repr]
    rfl
  exact ⟨hrun, (Checked.multiply_eq settings _ _).trans hrun⟩

/-- Zeros inside a factor are skipped, and zeros before one are not counted. -/
theorem multiply_exact_padded :
    IsValid "0205" ∧ IsValid "1009" ∧
    (Arithmetic.multiply { digits := .counting } (.str "0205") (.str "1009")).map Numeral.text
      = .ok "206845" ∧
    Checked.multiply { digits := .counting } (.str "0205") (.str "1009") = .ok "206845" :=
  ⟨by decide, by decide, multiply_exact _ (by decide) (by decide)⟩

end Arithmetic

end Longhand
