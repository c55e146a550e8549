import CoverControl.Json.Reader
import CoverControl.Proofs.Binary64.Rounded
import CoverControl.Proofs.Config
import CoverControl.Proofs.Json.Object

/-!
# What is read from a JSON text

Every value that a text holds is regular (`regular_of_parse`). The only way to break that would be a
NaN, and a numeral is never read as one: its significand is multiplied or divided by a power of ten
that is neither zero nor infinite.
-/

namespace CoverControl.Json

open Binary64

seal unitsPerOne unitsLimit

/-! ### Numbers -/

section
variable {x y : Binary64}

theorem isNaN_ofQuotient (negative : Bool) (num den : Nat) :
    (ofQuotient negative num den).isNaN = false := by
  rw [ofQuotient_eq]
  split <;> rfl

theorem isNaN_neg : x.neg.isNaN = x.isNaN := by cases x <;> rfl

theorem eq_self_of_not_isNaN (h : x.isNaN = false) : x.eq x = true := by
  cases x with
  | nan => cases h
  | infinite | finite => exact beq_self_eq_true _

/-- Neither zero nor infinite. -/
def Proper (x : Binary64) : Prop := ∃ units, 0 < units ∧ x = .finite false units

theorem isNaN_div (hx : x.isNaN = false) (hy : Proper y) : (x.div y).isNaN = false := by
  obtain ⟨units, hpos, rfl⟩ := hy
  cases x with
  | nan => cases hx
  | infinite => rfl
  | finite negative num =>
    rw [div, if_neg hpos.ne']
    exact isNaN_ofQuotient ..

theorem isNaN_mul (hx : x.isNaN = false) (hy : Proper y) : (x.mul y).isNaN = false := by
  obtain ⟨units, hpos, rfl⟩ := hy
  cases x with
  | nan => cases hx
  | infinite => rw [mul, if_neg hpos.ne']; rfl
  | finite negative num => exact isNaN_ofQuotient ..

end

namespace Numeral

theorem proper_powerOfTen {exponent : Nat} (h : exponent ≤ 308) : Proper (powerOfTen exponent) := by
  have hone : roundUnits unitsPerOne 1 = unitsPerOne := by
    simpa using roundUnits_representable Nat.one_pos (representable_ones (m := 1) (by decide))
  have hpower : 10 ^ exponent < (2 ^ 54 - 1) * 2 ^ 970 :=
    Nat.lt_of_le_of_lt (Nat.pow_le_pow_right (by decide) h) (by decide +kernel)
  have hpos : 1 ≤ 10 ^ exponent := Nat.pow_pos (by decide)
  -- rounding stays between one and the largest finite number
  have hlow : unitsPerOne ≤ roundUnits (10 ^ exponent * unitsPerOne) 1 := by
    calc unitsPerOne = roundUnits unitsPerOne 1 := hone.symm
      _ ≤ roundUnits (10 ^ exponent * unitsPerOne) 1 :=
        roundUnits_mono Nat.one_pos Nat.one_pos (Nat.mul_le_mul_right 1 (Nat.le_mul_of_pos_left _ hpos))
  have hhigh : roundUnits (10 ^ exponent * unitsPerOne) 1 < unitsLimit := by
    rw [roundUnits_lt_unitsLimit_iff Nat.one_pos, Nat.mul_one, ← Nat.mul_assoc]
    exact Nat.mul_lt_mul_of_pos_right hpower unitsPerOne_pos
  refine ⟨_, Nat.lt_of_lt_of_le unitsPerOne_pos hlow, ?_⟩
  show ofQuotient false (10 ^ exponent * unitsPerOne) 1 = _
  rw [ofQuotient_eq, if_pos hhigh]

theorem isNaN_scaleDown {x : Binary64} {exponent : Nat} (h : x.isNaN = false) :
    (scaleDown x exponent).isNaN = false := by
  fun_induction scaleDown x exponent with
  | case1 x exponent hsmall => exact isNaN_div h (proper_powerOfTen hsmall)
  | case2 x exponent _ _ => exact h
  | case3 x exponent _ _ ih => exact ih (isNaN_div h (proper_powerOfTen (Nat.le_refl 308)))

theorem isNaN_of_magnitude {significand : Nat} {exponent : Int} {x : Binary64}
    (h : magnitude significand exponent = .ok x) : x.isNaN = false := by
  have hwhole : (ofInt significand).isNaN = false := isNaN_ofQuotient ..
  unfold magnitude at h
  dsimp only at h
  split at h
  · cases h; exact isNaN_scaleDown hwhole
  split at h
  · rename_i hlarge
    split at h
    · cases h
    · cases h
      exact isNaN_mul hwhole (proper_powerOfTen (Int.toNat_le.2 hlarge))
  split at h
  · cases h; exact hwhole
  · cases h

theorem same_signed {negative : Bool} {x : Binary64} (h : x.isNaN = false) :
    (signed negative x).same (signed negative x) = true := by
  refine eq_self_of_not_isNaN ?_
  split
  · rw [isNaN_neg]; exact h
  · exact h

end Numeral

/-! ### Readers -/

/-- What a reader returns has a property. -/
def Reader.Yields {α : Type} (read : Reader α) (P : α → Prop) : Prop :=
  ∀ {cs a rest}, read cs = .ok (a, rest) → P a

namespace Numeral
variable (negative : Bool) (significand dropped : Nat) (exponent : Int)

/-- A number that equals itself. -/
def Regular (number : Number) : Prop := number.same number = true

theorem yields_readExponent :
    Reader.Yields (readExponent negative significand exponent) Regular := by
  intro cs number rest h
  unfold readExponent at h
  dsimp only at h
  split at h
  · cases h
  split at h
  · split at h
    · cases h
    · cases h; exact same_signed rfl
  · obtain ⟨x, hmagnitude, heq⟩ := map_eq_ok.1 h
    cases heq
    exact same_signed (isNaN_of_magnitude hmagnitude)

theorem yields_readTail : Reader.Yields (readTail negative significand exponent) Regular := by
  intro cs number rest h
  unfold readTail at h
  split at h
  · exact yields_readExponent _ _ _ h
  · exact yields_readExponent _ _ _ h
  · obtain ⟨x, hmagnitude, heq⟩ := map_eq_ok.1 h
    cases heq
    exact same_signed (isNaN_of_magnitude hmagnitude)

theorem yields_readFraction :
    Reader.Yields (readFraction negative significand dropped) Regular := by
  intro cs number rest h
  unfold readFraction at h
  dsimp only at h
  split at h
  · cases h
  · exact yields_readTail _ _ _ h

theorem regular_ofInteger : Regular (ofInteger negative significand) := by
  unfold ofInteger
  split
  · split
    · exact same_signed (isNaN_ofQuotient ..)
    · exact beq_self_eq_true _
  · exact beq_self_eq_true _

theorem yields_read : Reader.Yields (read negative) Regular := by
  intro cs number rest h
  unfold read at h
  dsimp only at h
  split at h
  · cases h
  · cases h
  split at h
  · exact yields_readFraction _ _ _ h
  · exact yields_readTail _ _ _ h
  · exact yields_readTail _ _ _ h
  split at h
  · cases h; exact regular_ofInteger _ _
  · exact yields_readTail _ _ _ h

end Numeral

section
variable {α : Type} {read : Reader α} {P : α → Prop}

theorem yields_readItems (h : Reader.Yields read P) (bound : Nat) (first : Bool) :
    Reader.Yields (readItems read bound first) fun items => ∀ item ∈ items, P item := by
  induction bound generalizing first with
  | zero => exact nofun
  | succ bound ih =>
    intro cs items rest hread
    rw [readItems] at hread
    obtain ⟨next, -, hread⟩ := bind_eq_ok.1 hread
    cases next with
    | closed cs => cases hread; exact nofun
    | element cs =>
      obtain ⟨⟨item, cs⟩, hitem, hread⟩ := bind_eq_ok.1 hread
      obtain ⟨⟨items, cs⟩, hitems, hread⟩ := bind_eq_ok.1 hread
      cases hread
      exact List.forall_mem_cons.2 ⟨h hitem, ih false hitems⟩

theorem yields_readFields (h : Reader.Yields read P) (bound : Nat) (first : Bool) :
    Reader.Yields (readFields read bound first) fun fields => ∀ field ∈ fields, P field.2 := by
  induction bound generalizing first with
  | zero => exact nofun
  | succ bound ih =>
    intro cs fields rest hread
    rw [readFields] at hread
    obtain ⟨next, -, hread⟩ := bind_eq_ok.1 hread
    cases next with
    | closed cs => cases hread; exact nofun
    | element cs =>
      obtain ⟨⟨key, cs⟩, -, hread⟩ := bind_eq_ok.1 hread
      obtain ⟨cs, -, hread⟩ := bind_eq_ok.1 hread
      obtain ⟨⟨value, cs⟩, hvalue, hread⟩ := bind_eq_ok.1 hread
      obtain ⟨⟨fields, cs⟩, hfields, hread⟩ := bind_eq_ok.1 hread
      cases hread
      exact List.forall_mem_cons.2 ⟨h hvalue, ih false hfields⟩

end

theorem yields_readValue (depth : Nat) : Reader.Yields (readValue depth) Value.Regular := by
  induction depth using Nat.strongRecOn with
  | ind depth ih =>
    intro cs value rest h
    unfold readValue at h
    split at h
    · cases h
    · obtain ⟨cs, -, heq⟩ := map_eq_ok.1 h
      cases heq; rfl
    · obtain ⟨cs, -, heq⟩ := map_eq_ok.1 h
      cases heq; rfl
    · obtain ⟨cs, -, heq⟩ := map_eq_ok.1 h
      cases heq; rfl
    · obtain ⟨⟨text, cs⟩, -, heq⟩ := map_eq_ok.1 h
      cases heq; exact beq_self_eq_true text
    · obtain ⟨⟨number, cs⟩, hnumber, heq⟩ := map_eq_ok.1 h
      cases heq; exact Numeral.yields_read _ hnumber
    · cases depth with
      | zero => cases h
      | succ depth =>
        obtain ⟨⟨items, cs⟩, hitems, heq⟩ := map_eq_ok.1 h
        cases heq
        have hall := yields_readItems (ih depth (Nat.lt_succ_self depth)) _ _ hitems
        exact sameItems_self fun item hmem => (hall item hmem).same
    · cases depth with
      | zero => cases h
      | succ depth =>
        obtain ⟨⟨fields, cs⟩, hfields, heq⟩ := map_eq_ok.1 h
        cases heq
        have hall := yields_readFields (ih depth (Nat.lt_succ_self depth)) _ _ hfields
        exact Object.regular_ofList fun field hmem => (hall field hmem).same
    · split at h
      · obtain ⟨⟨number, cs⟩, hnumber, heq⟩ := map_eq_ok.1 h
        cases heq; exact Numeral.yields_read _ hnumber
      · cases h

theorem regular_of_parse {text : String} {value : Value} (h : Value.parse text = .ok value) :
    value.Regular := by
  obtain ⟨⟨value', cs⟩, hread, h⟩ := bind_eq_ok.1 h
  dsimp only at h
  split at h
  · cases h; exact yields_readValue depthLimit hread
  · cases h

end CoverControl.Json
