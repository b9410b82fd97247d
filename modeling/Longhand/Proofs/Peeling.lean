import Longhand.Arithmetic.Peeling
import Longhand.Proofs.Difference
import Longhand.Proofs.Sum

/-!
The recursions that peel one column after another off two texts, and the loops that run over the
digits of both from the right, make the same columns. A sum needs nothing else
(`DigitText.add_text`). A difference does if the subtrahend is not the longer text
(`DigitText.subtract?_text`). For a longer one the loop is never entered, while the recursion runs
on over the implicit zeros of the minuend; it ends with a borrow, because the first digit of the
subtrahend is not zero (`DigitText.subtract?_longer`). So sums, differences and refusals are the
same (`Arithmetic.loops_peel`), and no step of a recursion fails.
-/

namespace Longhand

namespace Digits

theorem text_cons (d : Digit) (ds : List Digit) : text (d :: ds) = d.text ++ text ds := by
  apply String.toList_inj.1
  rw [String.toList_append, toList_text, toList_text, List.map_cons, Digit.text,
    String.toList_singleton, List.singleton_append]

/-- A difference has a column for each digit of the minuend. -/
theorem ne_nil_of_subtractFrom {s : DigitStrategy} {xs ys ds : List Digit} {borrow : Bool}
    (hxs : xs ≠ []) (h : subtractFrom s xs ys borrow [] = some ds) : ds ≠ [] := by
  obtain ⟨left, digits, -, hlen, hdigits⟩ := Checked.subtractColumns_digits s xs ys borrow []
  rw [hdigits] at h
  have hpos := List.length_pos_iff.2 hxs
  cases left with
  | true => cases h
  | false =>
    cases h
    rw [List.length_nil, Nat.zero_add] at hlen
    exact List.length_pos_iff.1 (hlen ▸ hpos)

end Digits

/-- Something is taken away from nothing, so a borrow goes out. -/
theorem DigitStrategy.carry_subtract_zero (s : DigitStrategy) {y : Digit} (h : y ≠ .zero)
    (borrow : Bool) : (s.subtract .zero y borrow).carry = true := by
  have hy : 0 < y.val := Nat.pos_of_ne_zero fun h0 => h (Fin.ext h0)
  have hcolumn := s.subtract_value .zero y borrow
  cases hc : (s.subtract .zero y borrow).carry with
  | true => rfl
  | false =>
    rw [hc, Digit.val_zero, Bool.toNat_false] at hcolumn
    omega

namespace DigitText

/-! ### One step

A text that is being peeled is the text of digits given least significant digit first. -/

theorem last_text (ds : List Digit) (d : Digit) : last (Digits.text (ds ++ [d])) = .ok d := by
  have hlast : (Digits.text (ds ++ [d])).toList.getLast? = some d.toChar := by
    rw [Digits.toList_text, List.map_append, List.map_singleton, List.getLast?_concat]
  rw [last, hlast]
  simp only [Digit.ofChar?_toChar]

theorem dropLast_text (ds : List Digit) (d : Digit) :
    dropLast (Digits.text (ds ++ [d])) = .ok (Digits.text ds) := by
  have hlist : (Digits.text (ds ++ [d])).toList = ds.map Digit.toChar ++ [d.toChar] := by
    rw [Digits.toList_text, List.map_append, List.map_singleton]
  rw [dropLast, hlist, if_neg (List.append_ne_nil_of_right_ne_nil _ (List.cons_ne_nil _ _)),
    List.dropLast_concat]
  rfl

theorem toList_text_reverse_eq_nil {xs : List Digit} :
    (Digits.text xs.reverse).toList = [] ↔ xs = [] := by
  rw [Digits.toList_text, List.map_eq_nil_iff, List.reverse_eq_nil_iff]

theorem exhausted_iff {xs ys : List Digit} :
    (Digits.text xs.reverse).toList = [] ∧ (Digits.text ys.reverse).toList = []
      ↔ xs = [] ∧ ys = [] :=
  and_congr toList_text_reverse_eq_nil toList_text_reverse_eq_nil

/-- Peeling never fails on digits: it gives the next digit, or a zero if there are none left. -/
theorem peel_text (xs : List Digit) :
    peel (Digits.text xs.reverse) = .ok (xs.headD .zero, Digits.text xs.tail.reverse) := by
  cases xs with
  | nil => rfl
  | cons x xs =>
    rw [peel, if_neg (mt toList_text_reverse_eq_nil.1 (List.cons_ne_nil x xs)), List.reverse_cons,
      last_text, dropLast_text]
    rfl

variable (s : DigitStrategy)

theorem add_step {xs ys : List Digit} (h : ¬(xs = [] ∧ ys = [])) (carry : Bool)
    (acc : List Digit) :
    add s (Digits.text xs.reverse) (Digits.text ys.reverse) carry (Digits.text acc)
      = add s (Digits.text xs.tail.reverse) (Digits.text ys.tail.reverse)
          (s.add (xs.headD .zero) (ys.headD .zero) carry).carry
          (Digits.text ((s.add (xs.headD .zero) (ys.headD .zero) carry).digit :: acc)) := by
  rw [add, if_neg (mt exhausted_iff.1 h)]
  split
  · rename_i hx hy
    cases (peel_text xs).symm.trans hx
    cases (peel_text ys).symm.trans hy
    rw [Digits.text_cons]
  · rename_i hx
    cases (peel_text xs).symm.trans hx
  · rename_i hy
    cases (peel_text ys).symm.trans hy

theorem subtract?_step {xs ys : List Digit} (h : ¬(xs = [] ∧ ys = [])) (borrow : Bool)
    (acc : List Digit) :
    subtract? s (Digits.text xs.reverse) (Digits.text ys.reverse) borrow (Digits.text acc)
      = subtract? s (Digits.text xs.tail.reverse) (Digits.text ys.tail.reverse)
          (s.subtract (xs.headD .zero) (ys.headD .zero) borrow).carry
          (Digits.text ((s.subtract (xs.headD .zero) (ys.headD .zero) borrow).digit :: acc)) := by
  rw [subtract?, if_neg (mt exhausted_iff.1 h)]
  split
  · rename_i hx hy
    cases (peel_text xs).symm.trans hx
    cases (peel_text ys).symm.trans hy
    rw [Digits.text_cons]
  · rename_i hx
    cases (peel_text xs).symm.trans hx
  · rename_i hy
    cases (peel_text ys).symm.trans hy

/-! ### A run -/

/-- The recursion makes the columns of the loop, whichever text is exhausted first. -/
theorem add_text (xs ys : List Digit) (carry : Bool) (acc : List Digit) :
    add s (Digits.text xs.reverse) (Digits.text ys.reverse) carry (Digits.text acc)
      = .ok (Digits.text (Digits.addFrom s xs ys carry acc)) := by
  fun_induction Digits.addFrom s xs ys carry acc with
  | case1 acc =>
    rw [add, if_pos ⟨rfl, rfl⟩, if_pos rfl, Digits.text_cons]
  | case2 carry acc hc =>
    rw [add, if_pos ⟨rfl, rfl⟩, if_neg hc]
  | case3 x xs carry acc c ih =>
    rw [add_step s (fun h => List.cons_ne_nil x xs h.1)]
    exact ih
  | case4 y ys carry acc c ih =>
    rw [add_step s (fun h => List.cons_ne_nil y ys h.2)]
    exact ih
  | case5 x xs y ys carry acc c ih =>
    rw [add_step s (fun h => List.cons_ne_nil x xs h.1)]
    exact ih

/-- The recursion makes the columns of the loop if the subtrahend is not the longer text. -/
theorem subtract?_text {xs ys : List Digit} (hlen : ys.length ≤ xs.length) (borrow : Bool)
    (acc : List Digit) :
    subtract? s (Digits.text xs.reverse) (Digits.text ys.reverse) borrow (Digits.text acc)
      = .ok ((Digits.subtractFrom s xs ys borrow acc).map fun ds => strip (Digits.text ds)) := by
  induction xs generalizing ys borrow acc with
  | nil =>
    obtain rfl : ys = [] := List.eq_nil_of_length_eq_zero (Nat.le_zero.1 hlen)
    rw [subtract?, if_pos ⟨rfl, rfl⟩, Digits.subtractFrom]
    cases borrow <;> rfl
  | cons x xs ih =>
    have htail : ys.tail.length ≤ xs.length := by
      rw [List.length_tail]
      rw [List.length_cons] at hlen
      omega
    rw [subtract?_step s (fun h => List.cons_ne_nil x xs h.1), List.tail_cons, ih htail]
    cases ys <;> rfl

/-- The recursion ends with a borrow if the subtrahend is the longer text and its first digit is
not zero. The induction is over the subtrahend; the borrow that comes in is of no concern, because
the last column starts from an implicit zero and takes that digit away. -/
theorem subtract?_longer {xs ys : List Digit} (hlen : xs.length < ys.length)
    (hfirst : ys.getLast? ≠ some .zero) (borrow : Bool) (acc : List Digit) :
    subtract? s (Digits.text xs.reverse) (Digits.text ys.reverse) borrow (Digits.text acc)
      = .ok none := by
  induction ys generalizing xs borrow acc with
  | nil => exact absurd hlen (Nat.not_lt_zero _)
  | cons y ys ih =>
    rw [subtract?_step s (fun h => List.cons_ne_nil y ys h.2), List.tail_cons, List.headD_cons]
    rw [List.length_cons] at hlen
    cases ys with
    | nil =>
      obtain rfl : xs = [] := List.eq_nil_of_length_eq_zero (Nat.lt_one_iff.1 hlen)
      have hy : y ≠ .zero := fun h => hfirst (congrArg some h)
      rw [List.headD_nil, s.carry_subtract_zero hy, subtract?, if_pos ⟨rfl, rfl⟩, if_pos rfl]
    | cons z zs =>
      refine ih ?_ (by rwa [List.getLast?_cons_cons] at hfirst) _ _
      rw [List.length_tail]
      rw [List.length_cons] at hlen ⊢
      omega

/-! ### Numerals -/

theorem add_numeral (a b : Numeral) : add s a.text b.text false "" = .ok (a.add s b).text := by
  have h := add_text s a.digits.reverse b.digits.reverse false []
  rw [List.reverse_reverse, List.reverse_reverse] at h
  exact h

theorem subtract?_numeral (a b : Numeral) :
    subtract? s a.text b.text false "" = .ok ((a.subtract? s b).map Numeral.text) := by
  have htext (n : Numeral) : n.text = Digits.text n.digits.reverse.reverse := by
    rw [List.reverse_reverse]
    rfl
  rw [Numeral.subtract?, htext a, htext b]
  by_cases hlen : a.length < b.length
  · have hlen' : a.digits.reverse.length < b.digits.reverse.length := by
      rwa [List.length_reverse, List.length_reverse]
    have hfirst : b.digits.reverse.getLast? ≠ some .zero := fun hzero => by
      rw [List.getLast?_reverse] at hzero
      have hone : b.length = 1 := b.normal.2 hzero
      have hpos : 0 < a.length := List.length_pos_iff.2 a.normal.1
      omega
    rw [if_pos hlen]
    exact subtract?_longer s hlen' hfirst false []
  · have hlen' : b.digits.reverse.length ≤ a.digits.reverse.length := by
      rw [List.length_reverse, List.length_reverse]
      exact Nat.le_of_not_lt hlen
    have hstrip : ∀ ds ∈ Digits.subtractFrom s a.digits.reverse b.digits.reverse false [],
        strip (Digits.text ds) = (Numeral.text ∘ Numeral.ofDigits) ds := fun ds hds =>
      strip_text (Digits.ne_nil_of_subtractFrom (mt List.reverse_eq_nil_iff.1 a.normal.1) hds)
    rw [if_neg hlen, Option.map_map, ← Option.map_congr hstrip]
    exact subtract?_text s hlen' false []

end DigitText

namespace Numeral

variable {s : DigitStrategy} {a b : Numeral}

/-- What is left is the result, if no borrow is. -/
theorem subtract?_eq_some_iff {d : String} :
    (a.subtract? s b).map text = some d ↔ (a.subtract s b).map text = .ok d := by
  rw [subtract]
  cases a.subtract? s b with
  | none => exact iff_of_false (fun h => by cases h) (fun h => by cases h)
  | some r =>
    constructor
    · intro h
      exact congrArg Except.ok (Option.some.inj h)
    · intro h
      exact congrArg some (Except.ok.inj h)

/-- A borrow that is left over is reported with both numbers. -/
theorem subtract?_eq_none_iff_fails :
    (a.subtract? s b).map text = none ↔ Fails (a.subtract s b) .negativeResult
      ("Cannot subtract " ++ b.text ++ " from smaller number " ++ a.text) := by
  rw [Option.map_eq_none_iff, subtract?_eq_none_iff, fails_subtract_iff]

end Numeral

namespace Arithmetic

open DigitText (IsValid value strip)

/-- Two digit strings without their leading zeros, peeled column by column. No step of either
recursion fails. The sum is that of the loop over the digits of both; so is the difference, and a
borrow is left over exactly if that loop refuses the subtrahend as the larger number. The recursions
and the loops may each look their columns up or count them, and the loops may make every check in
every column. -/
theorem loops_peel (columns : DigitStrategy) (settings : Settings) {a b : String} (ha : IsValid a)
    (hb : IsValid b) :
    (∃ sum, DigitText.add columns (strip a) (strip b) false "" = .ok sum ∧
      (Arithmetic.add settings (.str a) (.str b)).map Numeral.text = .ok sum ∧
      Checked.add settings (.str a) (.str b) = .ok sum) ∧
    ∃ difference, DigitText.subtract? columns (strip a) (strip b) false "" = .ok difference ∧
      (∀ d, difference = some d ↔
        (Arithmetic.subtract settings (.str a) (.str b)).map Numeral.text = .ok d) ∧
      (difference = none ↔ Fails (Arithmetic.subtract settings (.str a) (.str b)) .negativeResult
        ("Cannot subtract " ++ strip b ++ " from smaller number " ++ strip a)) ∧
      Checked.subtract settings (.str a) (.str b)
        = (Arithmetic.subtract settings (.str a) (.str b)).map Numeral.text := by
  obtain ⟨m, hm, -, hmt⟩ := ha.exists_numeral
  obtain ⟨n, hn, -, hnt⟩ := hb.exists_numeral
  have hadd : (Arithmetic.add settings (.str a) (.str b)).map Numeral.text
      = .ok (m.add columns n).text := by
    rw [Arithmetic.add, operands_of_ofValue hm hn, Numeral.add_eq columns,
      ← Numeral.add_eq settings.digits]
    rfl
  have hsubtract : Arithmetic.subtract settings (.str a) (.str b) = m.subtract columns n := by
    rw [Numeral.subtract_eq columns, ← Numeral.subtract_eq settings.digits, Arithmetic.subtract,
      operands_of_ofValue hm hn]
    rfl
  rw [← hmt, ← hnt]
  refine ⟨⟨_, DigitText.add_numeral columns m n, hadd, (Checked.add_eq settings _ _).trans hadd⟩,
    _, DigitText.subtract?_numeral columns m n, ?_, ?_, Checked.subtract_eq settings _ _⟩
  · intro d
    rw [hsubtract]
    exact Numeral.subtract?_eq_some_iff
  · rw [hsubtract]
    exact Numeral.subtract?_eq_none_iff_fails

/-- The carry outlives both texts, and the borrow of a longer subtrahend is left over. -/
theorem loops_peel_past_end :
    IsValid "0999" ∧ IsValid "02" ∧
    DigitText.add .counting "999" "2" false "" = .ok "1001" ∧
    DigitText.subtract? .counting "999" "2" false "" = .ok (some "997") ∧
    DigitText.subtract? .table "2" "999" false "" = .ok none := by
  have ha : IsValid "0999" := by decide
  have hb : IsValid "02" := by decide
  have hcarry : (Arithmetic.add {} (.str "0999") (.str "02")).map Numeral.text = .ok "1001" := by
    show Except.ok (Numeral.add _ _ _).text = _
    rw [Numeral.text_eq_repr, Numeral.value_add]
    rfl
  obtain ⟨⟨sum, hsum, hadd, -⟩, difference, hdifference, hsome, -, -⟩ :=
    loops_peel .counting {} ha hb
  obtain ⟨-, refused, hrefused, -, hnone, -⟩ := loops_peel .table { digits := .counting } hb ha
  obtain rfl : sum = "1001" := Except.ok.inj (hadd.symm.trans hcarry)
  obtain rfl := (hsome "997").2 rfl
  obtain rfl := hnone.2 (fails_engine (.negativeResult "2" "999"))
  exact ⟨ha, hb, hsum, hdifference, hrefused⟩

end Arithmetic

end Longhand
