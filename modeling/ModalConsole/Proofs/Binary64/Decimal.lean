import Mathlib.Tactic.Linarith
import ModalConsole.Binary64.Decimal
import ModalConsole.Proofs.Binary64.Rounding
import ModalConsole.Proofs.Text.Digits
import ModalConsole.Proofs.Text.Words

/-!
# The shortest text of a number reads back to it

* `Decimal.Same`: two decimals stand for the same number, whatever their exponents.
* `readDecimal_positional`: a decimal that is written positionally is read as the same number, also
  when padding zeros have been dropped.
* `ofDecimal_shortestDecimal`: the decimal that is written is nearest to the number it is written
  for.
* **`readChars_shortestChars`**: so every number reads back from its shortest text, infinities, NaN
  and both zeros included. `isNumberChar_of_mem_shortestChars`: what this text consists of.
-/

namespace ModalConsole

open Text

/-- Two decimals stand for the same number. -/
def Decimal.Same (d e : Decimal) : Prop :=
  d.digits * 10 ^ d.exponent.toNat * 10 ^ (-e.exponent).toNat =
    e.digits * 10 ^ e.exponent.toNat * 10 ^ (-d.exponent).toNat

namespace Binary64

theorem ofDecimal_congr {d e : Decimal} (h : d.Same e) (negative : Bool) :
    ofDecimal negative d = ofDecimal negative e := by
  unfold ofDecimal ofUnits
  simp only [Nat.pow_eq]
  rw [nearestRank_congr (ten_pow_pos _) (ten_pow_pos _)]
  unfold Decimal.Same at h
  linarith [congrArg (unitsOfOne * ·) h]

/-! ## Reading what is written positionally -/

theorem splitDigits_append {ds rest : List Char} (hds : ∀ c ∈ ds, c.isDigit = true)
    (hrest : rest.takeWhile Char.isDigit = []) : splitDigits (ds ++ rest) = (ds, rest) := by
  have hdrop := List.takeWhile_append_dropWhile (p := Char.isDigit) (l := rest)
  rw [hrest, List.nil_append] at hdrop
  rw [splitDigits, List.takeWhile_append_of_pos hds, List.dropWhile_append_of_pos hds, hrest, hdrop,
    List.append_nil]

theorem splitDigits_of_digits {ds : List Char} (hds : ∀ c ∈ ds, c.isDigit = true) :
    splitDigits ds = (ds, []) := by
  have hsplit := splitDigits_append hds (List.takeWhile_nil (p := Char.isDigit))
  rwa [List.append_nil] at hsplit

theorem readDecimal_whole {ds : List Char} (hne : ds ≠ []) (hds : ∀ c ∈ ds, c.isDigit = true) :
    readDecimal ds = some ⟨digitsValue ds, 0⟩ := by
  simp [readDecimal, splitDigits_of_digits hds, splitFraction, readScale, hne]

theorem readDecimal_fraction {whole fraction : List Char} (hne : whole ≠ [])
    (hwhole : ∀ c ∈ whole, c.isDigit = true) (hfraction : ∀ c ∈ fraction, c.isDigit = true) :
    readDecimal (whole ++ '.' :: fraction) =
      some ⟨digitsValue (whole ++ fraction), -fraction.length⟩ := by
  have hpoint : ('.' :: fraction).takeWhile Char.isDigit = [] := rfl
  simp [readDecimal, splitDigits_append hwhole hpoint, splitFraction,
    splitDigits_of_digits hfraction, readScale, hne]

/-- A fraction is read as the same number without the zeros at its end. -/
theorem readDecimal_fractionText {whole fraction : List Char} (hne : whole ≠ [])
    (hwhole : ∀ c ∈ whole, c.isDigit = true) (hfraction : ∀ c ∈ fraction, c.isDigit = true) :
    ∃ e, readDecimal (whole ++ fractionText fraction) = some e ∧
      e.Same ⟨digitsValue (whole ++ fraction), -fraction.length⟩ := by
  obtain ⟨zeros, hsplit, hzeros⟩ := exists_eq_dropEndWhile_append (· == '0') fraction
  have hvalue : digitsValue zeros = 0 := digitsValue_of_zeros hzeros
  have hlength := congrArg List.length hsplit
  unfold fractionText
  generalize dropEndWhile (· == '0') fraction = kept at hsplit hlength
  subst hsplit
  have hsum : digitsValue (whole ++ (kept ++ zeros)) =
      digitsValue (whole ++ kept) * 10 ^ zeros.length := by
    rw [← List.append_assoc, digitsValue_append _ zeros, hvalue, Nat.add_zero]
  have hpow : 10 ^ (kept ++ zeros).length = 10 ^ kept.length * 10 ^ zeros.length := by
    rw [List.length_append, pow_add]
  cases kept with
  | nil =>
    refine ⟨⟨digitsValue whole, 0⟩, by simpa using readDecimal_whole hne hwhole, ?_⟩
    rw [hsum]
    simp [Decimal.Same]
  | cons c kept =>
    have hkept : ∀ d ∈ c :: kept, d.isDigit = true :=
      fun d hd => hfraction d (List.mem_append_left _ hd)
    refine ⟨_, readDecimal_fraction hne hwhole hkept, ?_⟩
    rw [hsum]
    simp only [Decimal.Same, neg_neg, Int.toNat_natCast, hpow]
    simp only [Int.toNat_neg_natCast, pow_zero]
    ring

/-- **What is written positionally is read as the same number.** -/
theorem readDecimal_positional (d : Decimal) :
    ∃ e, readDecimal (positional d) = some e ∧ e.Same d := by
  rcases d with ⟨digits, exponent⟩
  simp only [positional, Nat.pow_eq]
  split_ifs with hexp
  · refine ⟨_, readDecimal_whole (decimal_ne_nil _) (isDigit_of_mem_decimal _), ?_⟩
    have hneg : (-exponent).toNat = 0 := by omega
    simp [Decimal.Same, digitsValue_decimal, hneg]
  · generalize hplaces : (-exponent).toNat = places
    have hpos : 0 < places := by omega
    have hlength := length_paddedDecimal hpos (Nat.mod_lt digits (ten_pow_pos _))
    obtain ⟨e, hread, hsame⟩ := readDecimal_fractionText (decimal_ne_nil (digits / 10 ^ places))
      (isDigit_of_mem_decimal _) (isDigit_of_mem_paddedDecimal places (digits % 10 ^ places))
    rw [digitsValue_append, digitsValue_decimal, digitsValue_paddedDecimal, hlength,
      Nat.div_add_mod', show -(places : Int) = exponent by omega] at hsame
    exact ⟨e, hread, hsame⟩

/-! ## The sign and the words -/

/-- What is written positionally starts with a digit. -/
theorem exists_positional_eq_cons (d : Decimal) :
    ∃ c rest, positional d = c :: rest ∧ c.isDigit = true := by
  have hdecimal : ∀ n, ∃ c rest, decimal n = c :: rest ∧ c.isDigit = true := by
    intro n
    obtain ⟨c, rest, hcons⟩ := List.exists_cons_of_ne_nil (decimal_ne_nil n)
    exact ⟨c, rest, hcons, isDigit_of_mem_decimal n c (hcons ▸ List.mem_cons_self)⟩
  simp only [positional]
  split_ifs
  · exact hdecimal _
  · obtain ⟨c, rest, hcons, hc⟩ := hdecimal (d.digits / Nat.pow 10 (-d.exponent).toNat)
    rw [hcons]
    exact ⟨c, _, rfl, hc⟩

theorem readUnsigned_positional (negative : Bool) (d : Decimal) :
    readUnsigned negative (positional d) = some (ofDecimal negative d) := by
  obtain ⟨c, rest, hcons, hc⟩ := exists_positional_eq_cons d
  obtain ⟨e, hread, hsame⟩ := readDecimal_positional d
  have hword : ∀ letter letters, letter.isDigit = false →
      (positional d).map Char.toLower ≠ letter :: letters := by
    intro letter letters hletter heq
    rw [hcons, List.map_cons, toLower_of_isDigit hc] at heq
    rw [← (List.cons.inj heq).1, hc] at hletter
    cases hletter
  simp only [readUnsigned, hword 'i' _ rfl, hword 'n' _ rfl, decide_false, Bool.or_self,
    Bool.false_eq_true, if_false, hread, Option.map_some, ofDecimal_congr hsame]

/-- A sign in front of a text that starts with no sign. -/
theorem readChars_signText (negative : Bool) {c : Char} {rest : List Char} (hminus : c ≠ '-')
    (hplus : c ≠ '+') :
    readChars (signText negative ++ c :: rest) = readUnsigned negative (c :: rest) := by
  cases negative with
  | true => rfl
  | false => simp [signText, readChars, hminus, hplus]

/-! ## The decimal that is written -/

theorem ofDecimal_of_decimalAt {rank : Fin (infinityRank + 1)} {exponent : Int} {d : Decimal}
    (h : decimalAt rank exponent = some d) : ofDecimal false d = signed false rank := by
  simp only [decimalAt] at h
  split_ifs at h <;> (obtain rfl := Option.some.inj h; assumption)

/-- A decimal whose last place divides the unit can stand for any number of units. -/
theorem ofDecimal_mul {factor : Nat} {exponent : Int} (hexponent : exponent ≤ 0)
    (hfactor : factor * unitsOfOne = Nat.pow 10 (-exponent).toNat) (n : Nat) :
    ofDecimal false ⟨n * factor, exponent⟩ = ofUnits false n 1 := by
  rw [ofDecimal, ofUnits, ofUnits, ← hfactor, show exponent.toNat = 0 by omega]
  have hpos : 0 < factor * unitsOfOne := by
    rw [hfactor, Nat.pow_eq]
    exact ten_pow_pos _
  rw [nearestRank_congr hpos Nat.one_pos]
  rw [show Nat.pow 10 0 = 1 from rfl]
  ring

theorem ofDecimal_exactDecimal (rank : Fin (infinityRank + 1)) :
    ofDecimal false (exactDecimal rank) = signed false rank := by
  rw [exactDecimal, ofDecimal_mul (by decide) (by decide +kernel), ofUnits, nearestRank_units]

/-- The decimal that is written for a magnitude is nearest to it. -/
theorem ofDecimal_shortestDecimal (rank : Fin (infinityRank + 1)) :
    ofDecimal false (shortestDecimal rank) = signed false rank := by
  simp only [shortestDecimal]
  cases hfound : (List.range 17).findSome? fun (n : Nat) =>
      decimalAt rank (scaleOf (units rank) - (n + 1)) with
  | none => exact ofDecimal_exactDecimal rank
  | some d =>
    obtain ⟨n, -, hn⟩ := List.exists_of_findSome?_eq_some hfound
    exact ofDecimal_of_decimalAt hn

theorem positional_zero : positional ⟨0, 0⟩ = ['0'] := by
  have hzero : decimal 0 = ['0'] := by
    rw [decimal, if_pos (by decide)]
    rfl
  simp [positional, hzero]

theorem ofDecimal_zero (negative : Bool) : ofDecimal negative ⟨0, 0⟩ = signed negative 0 := by
  simp [ofDecimal, ofUnits, nearestRank_zero]

/-- **Every number reads back from its shortest text.** -/
theorem readChars_shortestChars (x : Binary64) : readChars (shortestChars x) = some x := by
  cases x with
  | nan => rfl
  | signed negative rank =>
    simp only [shortestChars]
    split_ifs with hinf hzero
    · obtain rfl : rank = Fin.last infinityRank := Fin.ext hinf
      rw [readChars_signText negative (by decide) (by decide)]
      rfl
    · obtain rfl : rank = 0 := Fin.ext hzero
      have hread := readUnsigned_positional negative ⟨0, 0⟩
      rw [positional_zero, ofDecimal_zero] at hread
      rw [readChars_signText negative (by decide) (by decide), hread]
    · obtain ⟨c, rest, hcons, hc⟩ := exists_positional_eq_cons (shortestDecimal rank)
      have hsigned : ofDecimal negative (shortestDecimal rank) = signed negative rank := by
        have hrank := ofDecimal_shortestDecimal rank
        simp only [ofDecimal, ofUnits, signed.injEq, true_and] at hrank ⊢
        exact hrank
      rw [hcons, readChars_signText negative, ← hcons, readUnsigned_positional, hsigned]
      · rintro rfl
        cases hc
      · rintro rfl
        cases hc

/-! ## What the shortest text consists of -/

/-- Is the character a digit, a sign, a point or a letter of the words for what is no number? -/
def isNumberChar (c : Char) : Bool :=
  c.isDigit || ['-', '.', 'i', 'n', 'f', 'N', 'a'].contains c

theorem isNumberChar_of_isDigit {c : Char} (h : c.isDigit = true) : isNumberChar c = true := by
  rw [isNumberChar, h, Bool.true_or]

theorem isNumberChar_of_mem_fractionText {fraction : List Char}
    (h : ∀ c ∈ fraction, c.isDigit = true) :
    ∀ c ∈ fractionText fraction, isNumberChar c = true := by
  obtain ⟨zeros, hsplit, -⟩ := exists_eq_dropEndWhile_append (· == '0') fraction
  unfold fractionText
  generalize dropEndWhile (· == '0') fraction = kept at hsplit
  subst hsplit
  cases kept with
  | nil => simp
  | cons d kept =>
    intro c hc
    rcases List.mem_cons.mp hc with rfl | hc
    · decide
    · exact isNumberChar_of_isDigit (h c (List.mem_append_left _ hc))

theorem isNumberChar_of_mem_positional (d : Decimal) :
    ∀ c ∈ positional d, isNumberChar c = true := by
  intro c hc
  simp only [positional] at hc
  split_ifs at hc
  · exact isNumberChar_of_isDigit (isDigit_of_mem_decimal _ c hc)
  · rcases List.mem_append.mp hc with hc | hc
    · exact isNumberChar_of_isDigit (isDigit_of_mem_decimal _ c hc)
    · exact isNumberChar_of_mem_fractionText (isDigit_of_mem_paddedDecimal _ _) c hc

theorem isNumberChar_of_mem_shortestChars (x : Binary64) :
    ∀ c ∈ shortestChars x, isNumberChar c = true := by
  intro c hc
  cases x with
  | nan =>
    have hnan : ['N', 'a', 'N'].all isNumberChar = true := by decide
    exact List.all_eq_true.mp hnan c hc
  | signed negative rank =>
    rcases List.mem_append.mp hc with hc | hc
    · have hsign : ∀ negative, (signText negative).all isNumberChar = true := by decide
      exact List.all_eq_true.mp (hsign negative) c hc
    · have hinfinity : ['i', 'n', 'f'].all isNumberChar = true := by decide
      have hzero : ['0'].all isNumberChar = true := by decide
      split_ifs at hc
      · exact List.all_eq_true.mp hinfinity c hc
      · exact List.all_eq_true.mp hzero c hc
      · exact isNumberChar_of_mem_positional _ c hc

/-- The characters of numbers are no blanks. -/
theorem isBlank_of_isNumberChar {c : Char} (h : isNumberChar c = true) : isBlank c = false := by
  rcases Bool.or_eq_true _ _ ▸ h with h | h
  · simp only [Char.isDigit, Bool.and_eq_true, decide_eq_true_eq, ge_iff_le,
      UInt32.le_iff_toNat_le] at h
    have hlow : 48 ≤ c.toNat := h.1
    have hhigh : c.toNat ≤ 57 := h.2
    simp only [isBlank, Bool.or_eq_false_iff, Bool.and_eq_false_iff, decide_eq_false_iff_not,
      beq_eq_false_iff_ne]
    omega
  · have hletters : ['-', '.', 'i', 'n', 'f', 'N', 'a'].any isBlank = false := by decide
    exact Bool.not_eq_true _ ▸ List.any_eq_false.mp hletters c (List.contains_iff_mem.mp h)

end Binary64

end ModalConsole
