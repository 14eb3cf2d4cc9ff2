/-!
Decimal numerals without a sign or with a leading minus, the way every report writes its numbers.
-/

namespace LintReport.Text

def decimal (n : Nat) : String :=
  String.ofList (Nat.toDigits 10 n)

def signedDecimal : Int → String
  | .ofNat n => decimal n
  | .negSucc n => "-" ++ decimal (n + 1)

theorem toList_decimal (n : Nat) : (decimal n).toList = Nat.toDigits 10 n :=
  String.toList_ofList

theorem eq_zero_of_head?_toDigits {n : Nat} (h : (Nat.toDigits 10 n).head? = some '0') : n = 0 := by
  induction n using Nat.strongRecOn with
  | ind n ih =>
    rw [Nat.toDigits_eq_if (by decide)] at h
    split at h
    · simpa using h
    · rw [List.head?_append, Option.or_of_isSome (by simp)] at h
      have hquotient : n / 10 = 0 := ih (n / 10) (by omega) h
      omega

/-- A numeral is a digit with more of them behind it, none if that digit is a zero. -/
theorem toDigits_eq_cons (n : Nat) :
    ∃ c digits, Nat.toDigits 10 n = c :: digits ∧ (∀ d ∈ c :: digits, d.isDigit = true) ∧
      (c = '0' → digits = []) := by
  obtain ⟨c, digits, hdigits⟩ := List.exists_cons_of_ne_nil (Nat.toDigits_ne_nil (n := n) (b := 10))
  refine ⟨c, digits, hdigits, ?_, ?_⟩
  · intro d hd
    exact Nat.isDigit_of_mem_toDigits (by decide) (by decide) (hdigits ▸ hd)
  · rintro rfl
    have hzero : n = 0 := eq_zero_of_head?_toDigits (by rw [hdigits]; rfl)
    rw [hzero, Nat.toDigits_zero] at hdigits
    exact (List.cons.inj hdigits).2.symm

end LintReport.Text
