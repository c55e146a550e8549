import CoverControl.Decoder
import CoverControl.Proofs.Binary64.Operations
import Mathlib.Data.List.TakeWhile

/-!
# Integers as numerals

The decimal text of an integer is a numeral without a fraction or an exponent. Nothing is trimmed from
it, since neither a digit nor a minus sign is blank, and the number it is read as is the binary number
nearest to the integer.
-/

namespace CoverControl

open Binary64

seal unitsPerOne unitsLimit

/-! ### Blanks -/

namespace Text

theorem not_isBlank_of_isDigit {c : Char} (h : c.isDigit = true) : isBlank c = false := by
  have hrange : 48 ≤ c.toNat ∧ c.toNat ≤ 57 := by
    simpa [Char.isDigit, UInt32.le_iff_toNat_le] using h
  simp [isBlank, inRanges, blankRanges]
  omega

/-- A text of blanks only. -/
def Blank (cs : List Char) : Prop := ∀ c ∈ cs, isBlank c = true

/-- A text without a blank. -/
def Solid (cs : List Char) : Prop := ∀ c ∈ cs, isBlank c = false

theorem blank_takeWhile (cs : List Char) : Blank (cs.takeWhile isBlank) := fun _ h => List.mem_takeWhile_imp h

theorem blank_reverse {cs : List Char} : Blank cs.reverse ↔ Blank cs := by simp [Blank]

theorem solid_reverse {cs : List Char} : Solid cs.reverse ↔ Solid cs := by simp [Solid]

theorem dropWhile_solid {cs : List Char} (h : Solid cs) : cs.dropWhile isBlank = cs := by
  cases cs with
  | nil => rfl
  | cons c cs => exact List.dropWhile_cons_of_neg (by simp [h c (by simp)])

/-- Only blanks are taken off. -/
theorem exists_blanks (cs : List Char) : ∃ front back, Blank front ∧ Blank back ∧
    cs = front ++ (trim cs ++ back) := by
  refine ⟨cs.takeWhile isBlank, ((cs.dropWhile isBlank).reverse.takeWhile isBlank).reverse,
    blank_takeWhile cs, blank_reverse.2 (blank_takeWhile _), ?_⟩
  rw [trim, ← List.reverse_append, List.takeWhile_append_dropWhile, List.reverse_reverse,
    List.takeWhile_append_dropWhile]

theorem trim_surrounded {front cs back : List Char} (hfront : Blank front) (h : Solid cs) (hback : Blank back) :
    trim (front ++ (cs ++ back)) = cs := by
  rw [trim, List.dropWhile_append_of_pos hfront]
  cases cs with
  | nil =>
    rw [List.nil_append, List.dropWhile_eq_nil_iff.2 hback]
    rfl
  | cons c cs =>
    have hc : ¬isBlank c = true := by simp [h c (by simp)]
    rw [List.cons_append, List.dropWhile_cons_of_neg hc, ← List.cons_append, List.reverse_append,
      List.dropWhile_append_of_pos (blank_reverse.2 hback), dropWhile_solid (solid_reverse.2 h),
      List.reverse_reverse]

theorem trim_eq_self {cs : List Char} (h : Solid cs) : trim cs = cs := by
  have hnone : Blank [] := by simp [Blank]
  simpa using trim_surrounded hnone h hnone

end Text

/-! ### Digits -/

namespace Decimal

theorem ofDigits_toDigits (n : Nat) : ofDigits (Nat.toDigits 10 n) = n := by
  have hfold : ofDigits (Nat.toDigits 10 n) = Nat.ofDigitChars 10 (Nat.toDigits 10 n) 0 := by
    rw [Nat.ofDigitChars_eq_foldl]; rfl
  rw [hfold, Nat.ofDigitChars_ten_toDigits]

theorem splitSign_of_isDigit {c : Char} {cs : List Char} (h : c.isDigit = true) :
    splitSign (c :: cs) = (false, c :: cs) := by
  unfold splitSign
  split
  · rename_i heq; cases heq; cases h
  · rename_i heq; cases heq; cases h
  · rfl

/-- Behind its sign, a row of digits is a whole numeral. -/
theorem read?_of_digits {negative : Bool} {cs ds : List Char} (hsign : splitSign cs = (negative, ds))
    (hne : ds ≠ []) (hdigits : ∀ c ∈ ds, c.isDigit = true) :
    read? cs = some ⟨negative, ofDigits ds, 0⟩ := by
  have hwhole : ds.takeWhile Char.isDigit = ds := List.takeWhile_eq_self_iff.2 hdigits
  have hrest : ds.dropWhile Char.isDigit = [] := List.dropWhile_eq_nil_iff.2 hdigits
  simp [read?, hsign, hwhole, hrest, splitFraction, readExponent?, hne]

theorem isDigit_of_mem_toDigits {n : Nat} {c : Char} (h : c ∈ Nat.toDigits 10 n) : c.isDigit = true :=
  Nat.isDigit_of_mem_toDigits (by decide) (by decide) h

theorem toList_toString (i : ℤ) : (toString i).toList =
    if i < 0 then '-' :: Nat.toDigits 10 i.natAbs else Nat.toDigits 10 i.natAbs := by
  rw [Int.toString_eq_repr, Int.repr_eq_if]
  by_cases hi : 0 ≤ i
  · rw [if_pos hi, if_neg (not_lt.2 hi), Nat.toList_repr, show i.toNat = i.natAbs by omega]
  · rw [if_neg hi, if_pos (not_le.1 hi), String.toList_append, Nat.toList_repr,
      show (-i).toNat = i.natAbs by omega]
    rfl

theorem splitSign_toString (i : ℤ) :
    splitSign (toString i).toList = (decide (i < 0), Nat.toDigits 10 i.natAbs) := by
  rw [toList_toString]
  split
  · rw [decide_eq_true ‹i < 0›]; rfl
  · rw [decide_eq_false ‹¬i < 0›]
    cases hcs : Nat.toDigits 10 i.natAbs with
    | nil => exact absurd hcs Nat.toDigits_ne_nil
    | cons c cs =>
      have hmem : c ∈ Nat.toDigits 10 i.natAbs := by simp [hcs]
      exact splitSign_of_isDigit (isDigit_of_mem_toDigits hmem)

theorem solid_toString (i : ℤ) : Text.Solid (toString i).toList := by
  intro c h
  rw [toList_toString] at h
  split at h
  · rcases List.mem_cons.1 h with rfl | h
    · decide
    · exact Text.not_isBlank_of_isDigit (isDigit_of_mem_toDigits h)
  · exact Text.not_isBlank_of_isDigit (isDigit_of_mem_toDigits h)

theorem read?_toString (i : ℤ) :
    read? (Text.trim (toString i).toList) = some ⟨decide (i < 0), i.natAbs, 0⟩ := by
  rw [Text.trim_eq_self (solid_toString i),
    read?_of_digits (splitSign_toString i) Nat.toDigits_ne_nil fun c => isDigit_of_mem_toDigits,
    ofDigits_toDigits]

theorem toString_inj {i j : ℤ} : toString i = toString j ↔ i = j := by
  refine ⟨fun h => ?_, congrArg toString⟩
  have hread := read?_toString i
  rw [h, read?_toString j, Option.some.injEq, Decimal.mk.injEq, decide_eq_decide] at hread
  omega

theorem toBinary64_whole (i : ℤ) : toBinary64 ⟨decide (i < 0), i.natAbs, 0⟩ = ofInt i := by
  by_cases hi : i = 0
  · subst hi
    simp [toBinary64, ofInt, ofQuotient_eq, roundUnits_zero Nat.one_pos, unitsLimit_pos]
  · simp [toBinary64, ofInt, hi]

end Decimal

/-- An integer that is printed is read back as the binary number nearest to it. -/
theorem Decoder.number_toString {i : ℤ} {q : ℚ} (h : (ofInt i).Holds q) :
    number (toString i) = .ok (ofInt i) := by
  obtain ⟨negative, units, heq, -⟩ := h
  rw [number, Decimal.number?, Decimal.read?_toString, Option.map_some, Decimal.toBinary64_whole, heq]
  rfl

end CoverControl
