import CoverControl.Proofs.Numerals

/-!
# The grammar of numerals

`Numeral` tells which texts are numerals and what they stand for, part by part, and `Decimal.read?` reads
just these (`read?_eq_some_iff`). The parts do not run into each other: no digit stands at the front of what
follows a row of digits, and no point at the front of an exponent.
-/

namespace CoverControl.Decimal

/-! ### The parts -/

def Digits (cs : List Char) : Prop := ∀ c ∈ cs, c.isDigit = true

/-- An optional sign, and whether it is a minus. -/
inductive Sign : List Char → Bool → Prop
  | absent : Sign [] false
  | plus : Sign ['+'] false
  | minus : Sign ['-'] true

/-- An optional point, and the digits behind it. -/
inductive Fraction : List Char → List Char → Prop
  | absent : Fraction [] []
  | point {ds : List Char} (h : Digits ds) : Fraction ('.' :: ds) ds

/-- An optional exponent, and its value. -/
inductive Exponent : List Char → ℤ → Prop
  | absent : Exponent [] 0
  | present {mark : Char} {sign ds : List Char} {negative : Bool} (hmark : mark = 'e' ∨ mark = 'E')
      (hsign : Sign sign negative) (hdigits : Digits ds) (hsome : ds ≠ []) :
      Exponent (mark :: (sign ++ ds)) (if negative then -(ofDigits ds : ℤ) else ofDigits ds)

/-- The numerals: before the exponent there is a digit, before the point or behind it. -/
inductive Numeral : List Char → Decimal → Prop
  | intro {sign whole fraction places exponent : List Char} {negative : Bool} {e : ℤ}
      (hsign : Sign sign negative) (hwhole : Digits whole) (hfraction : Fraction fraction places)
      (hexponent : Exponent exponent e) (hsome : whole ++ places ≠ []) :
      Numeral (sign ++ (whole ++ (fraction ++ exponent)))
        ⟨negative, ofDigits (whole ++ places), e - places.length⟩

/-! ### Reading a part -/

variable {cs ds rest sign whole fraction places exponent : List Char} {negative : Bool} {e : ℤ} {d : Decimal}

theorem digits_takeWhile (cs : List Char) : Digits (cs.takeWhile Char.isDigit) := fun _ h =>
  List.mem_takeWhile_imp h

theorem span_digits (hds : Digits ds) (hrest : ∀ c ∈ rest.head?, c.isDigit = false) :
    (ds ++ rest).takeWhile Char.isDigit = ds ∧ (ds ++ rest).dropWhile Char.isDigit = rest := by
  have hstop : rest.takeWhile Char.isDigit = [] ∧ rest.dropWhile Char.isDigit = rest := by
    cases rest with
    | nil => exact ⟨rfl, rfl⟩
    | cons c rest =>
      have hc : c.isDigit = false := hrest c rfl
      simp [hc]
  rw [List.takeWhile_append_of_pos hds, List.dropWhile_append_of_pos hds, hstop.1, hstop.2, List.append_nil]
  exact ⟨rfl, rfl⟩

theorem exists_sign (cs : List Char) :
    ∃ sign, Sign sign (splitSign cs).1 ∧ cs = sign ++ (splitSign cs).2 := by
  unfold splitSign
  split
  · exact ⟨_, .minus, rfl⟩
  · exact ⟨_, .plus, rfl⟩
  · exact ⟨_, .absent, rfl⟩

theorem Sign.split (h : Sign sign negative) (hrest : splitSign rest = (false, rest)) :
    splitSign (sign ++ rest) = (negative, rest) := by
  cases h with
  | absent => exact hrest
  | plus => rfl
  | minus => rfl

theorem splitSign_of_digits (hds : Digits ds) (hsome : ds ≠ []) (rest : List Char) :
    splitSign (ds ++ rest) = (false, ds ++ rest) := by
  cases ds with
  | nil => exact absurd rfl hsome
  | cons c ds => exact splitSign_of_isDigit (hds c (by simp))

theorem exists_fraction (cs : List Char) :
    ∃ fraction, Fraction fraction (splitFraction cs).1 ∧ cs = fraction ++ (splitFraction cs).2 := by
  unfold splitFraction
  split
  · rename_i cs
    refine ⟨_, .point (digits_takeWhile cs), ?_⟩
    rw [List.cons_append, List.takeWhile_append_dropWhile]
  · exact ⟨_, .absent, rfl⟩

theorem Exponent.head (h : Exponent exponent e) :
    ∀ c ∈ exponent.head?, c.isDigit = false ∧ c ≠ '.' := by
  intro c hc
  cases h with
  | absent => cases hc
  | present hmark =>
    obtain rfl := Option.some.inj hc
    rcases hmark with rfl | rfl <;> decide

theorem Fraction.split (h : Fraction fraction places) (hexponent : Exponent exponent e) :
    splitFraction (fraction ++ exponent) = (places, exponent) := by
  cases h with
  | absent =>
    unfold splitFraction
    split
    · rename_i rest heq
      rw [List.nil_append] at heq
      exact absurd rfl (hexponent.head '.' (by simp [heq])).2
    · rfl
  | point hplaces =>
    obtain ⟨htake, hdrop⟩ := span_digits hplaces fun c hc => (hexponent.head c hc).1
    rw [List.cons_append, splitFraction, htake, hdrop]

theorem readExponent?_eq_some_iff : readExponent? cs = some e ↔ Exponent cs e := by
  constructor
  · intro h
    cases cs with
    | nil =>
      cases h
      exact .absent
    | cons mark cs =>
      obtain ⟨sign, hsign, hcs⟩ := exists_sign cs
      simp only [readExponent?] at h
      generalize splitSign cs = parts at h hsign hcs
      obtain ⟨⟨hmark, hsome, hdigits⟩, h⟩ := Option.ite_none_right_eq_some.1 h
      cases h
      rw [hcs]
      exact .present hmark hsign (by simpa [Digits] using hdigits) hsome
  · intro h
    cases h with
    | absent => rfl
    | present hmark hsign hdigits hsome =>
      have hsplit := splitSign_of_digits hdigits hsome []
      rw [List.append_nil] at hsplit
      simp only [readExponent?, hsign.split hsplit]
      rw [if_pos ⟨hmark, hsome, List.all_eq_true.2 hdigits⟩]

/-! ### Reading a numeral -/

theorem Numeral.read? (h : Numeral cs d) : read? cs = some d := by
  obtain @⟨sign, whole, fraction, places, exponent, negative, e, hsign, hwhole, hfraction, hexponent,
    hsome⟩ := h
  have hbody : splitSign (whole ++ (fraction ++ exponent)) = (false, whole ++ (fraction ++ exponent)) := by
    by_cases hempty : whole = []
    · cases hfraction with
      | absent => exact absurd (by simp [hempty]) hsome
      | point => rw [hempty]; rfl
    · exact splitSign_of_digits hwhole hempty _
  have hrest : ∀ c ∈ (fraction ++ exponent).head?, c.isDigit = false := by
    cases hfraction with
    | absent => exact fun c hc => (hexponent.head c hc).1
    | point => rintro c ⟨⟩; rfl
  obtain ⟨htake, hdrop⟩ := span_digits hwhole hrest
  have hread := readExponent?_eq_some_iff.2 hexponent
  have hneither : ¬(whole = [] ∧ places = []) := by simpa using hsome
  simp only [Decimal.read?, hsign.split hbody, htake, hdrop, hfraction.split hexponent, if_neg hneither,
    hread, Option.map_some]

theorem numeral_of_read? (h : read? cs = some d) : Numeral cs d := by
  obtain ⟨sign, hsign, hcs⟩ := exists_sign cs
  simp only [read?] at h
  generalize splitSign cs = parts at h hsign hcs
  obtain ⟨fraction, hfraction, hrest⟩ := exists_fraction (parts.2.dropWhile Char.isDigit)
  generalize splitFraction (parts.2.dropWhile Char.isDigit) = behind at h hfraction hrest
  obtain ⟨hsome, h⟩ := Option.ite_none_left_eq_some.1 h
  obtain ⟨e, he, rfl⟩ := Option.map_eq_some_iff.1 h
  have htext : cs = sign ++ (parts.2.takeWhile Char.isDigit ++ (fraction ++ behind.2)) := by
    rw [← hrest, List.takeWhile_append_dropWhile, ← hcs]
  rw [htext]
  refine .intro hsign (digits_takeWhile _) hfraction (readExponent?_eq_some_iff.1 he) ?_
  rwa [ne_eq, List.append_eq_nil_iff]

theorem read?_eq_some_iff : read? cs = some d ↔ Numeral cs d :=
  ⟨numeral_of_read?, Numeral.read?⟩

end CoverControl.Decimal
