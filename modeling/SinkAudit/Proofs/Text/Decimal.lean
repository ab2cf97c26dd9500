import SinkAudit.Json.Token

/-!
# Decimal numerals

What is written for a natural number: digits only, no leading zero, and the value of the digits is
the number again.

* `isDigit_of_mem_toString`, `toList_toString_ne_nil`: the shape of a numeral.
* `decimal_toString`: reading undoes writing, so different numbers have different numerals.
* `isWhole_toString`: a numeral is the whole part of a JSON number.
-/

namespace SinkAudit

namespace Decimal

/-- The characters of a numeral are the digits in base ten. -/
theorem toList_toString (n : Nat) : (toString n).toList = Nat.toDigits 10 n := by
  rw [Nat.toString_eq_ofList_toDigits, String.toList_ofList]

theorem toList_toString_ne_nil (n : Nat) : (toString n).toList ≠ [] := by
  rw [toList_toString]
  exact Nat.toDigits_ne_nil

theorem isDigit_of_mem_toString {n : Nat} {c : Char} (h : c ∈ (toString n).toList) :
    c.isDigit = true := by
  rw [toList_toString] at h
  exact Nat.isDigit_of_mem_toDigits (by decide) (by decide) h

/-- A character that is no digit is in no numeral. -/
theorem ne_of_mem_toString {n : Nat} {c d : Char} (h : c ∈ (toString n).toList)
    (hd : d.isDigit = false) : c ≠ d := by
  rintro rfl
  exact absurd ((isDigit_of_mem_toString h).symm.trans hd) (by decide)

/-- The value of a numeral is its number. -/
theorem decimal_toString (n : Nat) : decimal (toString n).toList = n := by
  rw [toList_toString]
  have h := Nat.ofDigitChars_ten_toDigits (n := n)
  rwa [Nat.ofDigitChars_eq_foldl] at h

/-- Different numbers have different numerals. -/
theorem toString_injective {m n : Nat} (h : (toString m).toList = (toString n).toList) :
    m = n := by
  rw [← decimal_toString m, h, decimal_toString n]

/-! ## The first digit -/

/-- A positive number does not begin with a zero. -/
theorem head?_toDigits_ne_zero (n : Nat) (hn : 0 < n) : (Nat.toDigits 10 n).head? ≠ some '0' := by
  induction n using Nat.strongRecOn with
  | ind n ih =>
    by_cases h : n < 10
    · rw [Nat.toDigits_of_lt_base h, List.head?_cons]
      have hall : ∀ k : Fin 10, 0 < k.val → k.val.digitChar ≠ '0' := by decide
      intro he
      exact hall ⟨n, h⟩ hn (Option.some.inj he)
    · rw [Nat.toDigits_of_base_le (by decide) (by omega), List.head?_append]
      have hrec := ih (n / 10) (by omega) (by omega)
      cases hd : Nat.toDigits 10 (n / 10) with
      | nil => exact absurd hd Nat.toDigits_ne_nil
      | cons d ds =>
        rw [hd] at hrec
        exact hrec

/-- A numeral has no leading zero, unless it is a zero alone. -/
theorem isWhole_toString (n : Nat) : isWhole (toString n).toList = true := by
  rcases Nat.eq_zero_or_pos n with rfl | hn
  · rw [toList_toString]
    rfl
  · have hhead := head?_toDigits_ne_zero n hn
    have hne : Nat.toDigits 10 n ≠ [] := Nat.toDigits_ne_nil
    rw [toList_toString]
    cases hd : Nat.toDigits 10 n with
    | nil => exact absurd hd hne
    | cons d ds =>
      rw [hd, List.head?_cons] at hhead
      have hd0 : d ≠ '0' := fun he => hhead (congrArg some he)
      unfold isWhole
      split
      · rename_i he
        exact absurd he (List.cons_ne_nil _ _)
      · rfl
      · rename_i he
        exact absurd (List.cons.inj he).1 hd0
      · rfl

end Decimal

end SinkAudit
