import Almanac.Text.Blank

/-! Facts about ASCII characters, checked one by one.

There are 128 of them and ten digits among them, so that what is decided for each holds of all
(`of_ascii`, `isDigit_cases`). -/
namespace Almanac.Text

theorem of_ascii {P : Char → Prop} (h : ∀ n < 128, P (Char.ofNat n)) {c : Char}
    (ascii : c.toNat < 128) : P c := by
  rw [← Char.ofNat_toNat c]
  exact h c.toNat ascii

theorem isDigit_ascii {c : Char} (h : c.isDigit = true) : c.toNat < 128 := by
  have := (Char.isDigit_iff_toNat.1 h).2
  have : '9'.toNat = 57 := rfl
  omega

/-- The digits, one by one. -/
theorem isDigit_cases {P : Char → Prop} (h : ∀ n < 128, (Char.ofNat n).isDigit = true →
    P (Char.ofNat n)) {c : Char} (digit : c.isDigit = true) : P c :=
  of_ascii (P := fun c => c.isDigit = true → P c) h (isDigit_ascii digit) digit

theorem isBlank_of_isDigit {c : Char} (h : c.isDigit = true) : isBlank c = false :=
  isDigit_cases (P := fun c => isBlank c = false) (by decide) h

end Almanac.Text
