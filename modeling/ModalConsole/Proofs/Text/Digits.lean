import Mathlib.Tactic.Ring
import ModalConsole.Text.Digits

/-!
# Numerals stand for their numbers

* `digitsValue_append`: the value of a run of digits from those of its parts.
* **`digitsValue_decimal`**: the numeral of a number consists of digits (`isDigit_of_mem_decimal`)
  without a leading zero (`head?_decimal_ne_zero`) and has the number as its value.
  `digitsValue_paddedDecimal`, `length_paddedDecimal`: the same when it
  is filled up with zeros, to the width asked for if the number fits.
-/

namespace ModalConsole.Text

theorem ten_pow_pos (n : Nat) : 0 < 10 ^ n := Nat.pow_pos (by decide)

/-! ## Digits -/

theorem isDigit_digitChar : ∀ d < 10, (digitChar d).isDigit = true := by
  decide

theorem toNat_digitChar : ∀ d < 10, (digitChar d).toNat - '0'.toNat = d := by
  decide

/-- Digits are no capitals. -/
theorem toLower_of_isDigit {c : Char} (h : c.isDigit = true) : c.toLower = c := by
  simp only [Char.isDigit, Bool.and_eq_true, decide_eq_true_eq] at h
  unfold Char.toLower
  rw [dif_neg]
  rintro ⟨hcapital, -⟩
  exact absurd (UInt32.le_trans hcapital h.2) (by decide)

theorem foldl_appendDigit (value : Nat) (ds : List Char) :
    ds.foldl appendDigit value = value * 10 ^ ds.length + digitsValue ds := by
  induction ds generalizing value with
  | nil => simp [digitsValue]
  | cons d ds ih =>
    rw [digitsValue, List.foldl_cons, List.foldl_cons, ih, ih (appendDigit 0 d), List.length_cons]
    unfold appendDigit
    ring

theorem digitsValue_append (ds es : List Char) :
    digitsValue (ds ++ es) = digitsValue ds * 10 ^ es.length + digitsValue es := by
  rw [digitsValue, List.foldl_append, foldl_appendDigit]
  rfl

theorem digitsValue_digitChar {d : Nat} (h : d < 10) : digitsValue [digitChar d] = d := by
  simp only [digitsValue, List.foldl_cons, List.foldl_nil, appendDigit]
  rw [toNat_digitChar d h, Nat.mul_zero, Nat.zero_add]

theorem digitsValue_replicate_zero (n : Nat) : digitsValue (List.replicate n '0') = 0 := by
  induction n with
  | zero => rfl
  | succ n ih => rw [List.replicate_succ', digitsValue_append, ih]; rfl

theorem digitsValue_of_zeros {ds : List Char} (h : ∀ c ∈ ds, (c == '0') = true) :
    digitsValue ds = 0 := by
  rw [List.eq_replicate_of_mem fun c hc => beq_iff_eq.mp (h c hc)]
  exact digitsValue_replicate_zero _

/-! ## Numerals -/

theorem decimal_ne_nil (n : Nat) : decimal n ≠ [] := by
  rw [decimal]
  split_ifs <;> simp

theorem isDigit_of_mem_decimal (n : Nat) : ∀ c ∈ decimal n, c.isDigit = true := by
  induction n using Nat.strong_induction_on with
  | _ n ih =>
    rw [decimal]
    split_ifs with h
    · simpa using isDigit_digitChar n h
    · intro c hc
      rcases List.mem_append.mp hc with hc | hc
      · exact ih (n / 10) (by omega) c hc
      · obtain rfl := List.mem_singleton.mp hc
        exact isDigit_digitChar (n % 10) (by omega)

/-- **The value of a numeral is its number.** -/
theorem digitsValue_decimal (n : Nat) : digitsValue (decimal n) = n := by
  induction n using Nat.strong_induction_on with
  | _ n ih =>
    rw [decimal]
    split_ifs with h
    · exact digitsValue_digitChar h
    · rw [digitsValue_append, ih (n / 10) (by omega), digitsValue_digitChar (by omega),
        List.length_singleton]
      omega

theorem length_decimal_le {n width : Nat} (hwidth : 0 < width) (h : n < 10 ^ width) :
    (decimal n).length ≤ width := by
  induction width generalizing n with
  | zero => omega
  | succ width ih =>
    rw [decimal]
    split_ifs with hlt
    · exact hwidth
    · have hpos : 0 < width := by
        by_contra hzero
        obtain rfl : width = 0 := by omega
        omega
      have hle := ih (n := n / 10) hpos (by rw [pow_succ] at h; omega)
      rw [List.length_append, List.length_singleton]
      omega

/-! ## Numerals of a fixed width -/

theorem digitsValue_paddedDecimal (width n : Nat) : digitsValue (paddedDecimal width n) = n := by
  simp only [paddedDecimal]
  rw [digitsValue_append, digitsValue_replicate_zero, digitsValue_decimal, Nat.zero_mul,
    Nat.zero_add]

theorem length_paddedDecimal {width n : Nat} (hwidth : 0 < width) (h : n < 10 ^ width) :
    (paddedDecimal width n).length = width := by
  have hle := length_decimal_le hwidth h
  simp only [paddedDecimal, List.length_append, List.length_replicate]
  omega

theorem isDigit_of_mem_paddedDecimal (width n : Nat) :
    ∀ c ∈ paddedDecimal width n, c.isDigit = true := by
  intro c hc
  rcases List.mem_append.mp hc with hc | hc
  · obtain ⟨-, rfl⟩ := List.mem_replicate.mp hc
    rfl
  · exact isDigit_of_mem_decimal n c hc

end ModalConsole.Text
