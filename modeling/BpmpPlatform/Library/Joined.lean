import Mathlib

/-! # Numbered names

Names of the form text, separator, number: the separator does not occur among the digits, so the last one
splits the name.
-/
namespace BpmpPlatform.Joined
variable {sep : Char} {n m : Nat} {a b : List Char}

theorem toString_toList (n : Nat) : (toString n).toList = Nat.toDigits 10 n := by
  simp [ToString.toString, Nat.repr]

theorem toString_injective (h : toString n = toString m) : n = m := by
  have hdi := congrArg String.toList h
  rw [toString_toList, toString_toList] at hdi
  calc n = Nat.ofDigitChars 10 (Nat.toDigits 10 n) 0 := Nat.ofDigitChars_ten_toDigits.symm
    _ = Nat.ofDigitChars 10 (Nat.toDigits 10 m) 0 := by rw [hdi]
    _ = m := Nat.ofDigitChars_ten_toDigits

theorem not_mem_toString (h : sep.isDigit = false) (n : Nat) : sep ∉ (toString n).toList := by
  intro hmem
  rw [toString_toList] at hmem
  have hdi := Nat.isDigit_of_mem_toDigits (by decide) (by decide) hmem
  rw [h] at hdi
  cases hdi

theorem append_inj {c d : List Char} (hc : sep ∉ c) (hd : sep ∉ d) (h : a ++ sep :: c = b ++ sep :: d) :
    a = b ∧ c = d := by
  rcases List.append_eq_append_iff.mp h with ⟨l,rfl,hl⟩ | ⟨l,rfl,hl⟩
  · cases l with
    | nil => simpa using hl
    | cons =>
      simp only [List.cons_append, List.cons.injEq] at hl
      exact absurd (by rw [hl.2]; simp) hc
  · cases l with
    | nil => simpa using hl.symm
    | cons =>
      simp only [List.cons_append, List.cons.injEq] at hl
      exact absurd (by rw [hl.2]; simp) hd

theorem numbered_inj (sep : Char) (h : sep.isDigit = false)
    (heq : a ++ sep :: (toString n).toList = b ++ sep :: (toString m).toList) : a = b ∧ n = m := by
  obtain ⟨ht,hn⟩ := append_inj (not_mem_toString h n) (not_mem_toString h m) heq
  exact ⟨ht,toString_injective (String.toList_inj.mp hn)⟩

end BpmpPlatform.Joined
