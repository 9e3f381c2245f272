import MetricsScript.Text.Decimal

/-!
# Numerals that are read and printed

A numeral is a run of digits with its value.  The decimal digits of a number are read as that
number, and they begin with a zero only if the number is zero.
-/

namespace MetricsScript
namespace Text

theorem numeral?_eq_some_iff {cs : List Char} {n : Nat} :
    numeral? cs = some n ↔ cs ≠ [] ∧ (∀ c ∈ cs, isDigit c = true) ∧ digitsValue cs = n := by
  simp [numeral?, and_assoc]

theorem isDigit_of_mem_toDigits {n : Nat} {c : Char} (h : c ∈ Nat.toDigits 10 n) :
    isDigit c = true := by
  have hdigit := Nat.isDigit_of_mem_toDigits (b := 10) (by decide) (by decide) h
  simpa [Char.isDigit, isDigit, Char.le_def] using hdigit

theorem digitsValue_toDigits (n : Nat) : digitsValue (Nat.toDigits 10 n) = n :=
  Nat.ofDigitChars_ten_toDigits

theorem numeral?_toDigits (n : Nat) : numeral? (Nat.toDigits 10 n) = some n :=
  numeral?_eq_some_iff.mpr
    ⟨Nat.toDigits_ne_nil, fun _ => isDigit_of_mem_toDigits, digitsValue_toDigits n⟩

/-- The first digit is a zero only where it is the only one. -/
theorem toDigits_eq_of_head?_eq_zero {n : Nat} (h : (Nat.toDigits 10 n).head? = some '0') :
    Nat.toDigits 10 n = ['0'] := by
  induction n using Nat.strongRecOn with
  | _ n ih =>
    by_cases hn : n < 10
    · rw [Nat.toDigits_of_lt_base hn] at h ⊢
      rw [Option.some.inj h]
    · have hle : 10 ≤ n := Nat.le_of_not_lt hn
      have hlt : n / 10 < n := by omega
      obtain ⟨first, more, hfirst⟩ :=
        List.exists_cons_of_ne_nil (Nat.toDigits_ne_nil (b := 10) (n := n / 10))
      rw [Nat.toDigits_of_base_le (by decide) hle, hfirst, List.cons_append] at h
      -- The leading digits would be a single zero, but they make up a number that is not zero.
      have hzero := ih (n / 10) hlt (by rw [hfirst]; exact h)
      have hvalue := digitsValue_toDigits (n / 10)
      rw [hzero] at hvalue
      have hpos : n / 10 = 0 := hvalue.symm
      omega

theorem toList_toString_int (i : Int) :
    (toString i).toList =
      if 0 ≤ i then Nat.toDigits 10 i.toNat else '-' :: Nat.toDigits 10 (-i).toNat := by
  rw [Int.toString_eq_repr, Int.repr_eq_if]
  split
  · exact Nat.toList_repr
  · rw [String.toList_append, Nat.toList_repr]
    rfl

theorem eq_minus_or_isDigit_of_mem_toString {i : Int} {c : Char} (h : c ∈ (toString i).toList) :
    c = '-' ∨ isDigit c = true := by
  rw [toList_toString_int] at h
  split at h
  · exact .inr (isDigit_of_mem_toDigits h)
  · exact (List.mem_cons.mp h).imp_right isDigit_of_mem_toDigits

/-- Text that starts with a digit has no sign. -/
theorem signedNumeral?_of_isDigit {cs : List Char} (h : ∀ c ∈ cs, isDigit c = true) :
    signedNumeral? cs = (numeral? cs).map Int.ofNat := by
  unfold signedNumeral?
  split
  · exact absurd (h '+' List.mem_cons_self) (by decide)
  · exact absurd (h '-' List.mem_cons_self) (by decide)
  · rfl

theorem signedNumeral?_toString (i : Int) : signedNumeral? (toString i).toList = some i := by
  rw [toList_toString_int]
  split
  · next hnonneg =>
      rw [signedNumeral?_of_isDigit fun _ => isDigit_of_mem_toDigits, numeral?_toDigits,
        Option.map_some, Int.ofNat_eq_natCast, Int.toNat_of_nonneg hnonneg]
  · next hneg =>
      have hvalue : -Int.ofNat (-i).toNat = i := by
        rw [Int.ofNat_eq_natCast, Int.toNat_of_nonneg (by omega), Int.neg_neg]
      rw [signedNumeral?, numeral?_toDigits, Option.map_some, hvalue]

end Text
end MetricsScript
