import CoverControl.Binary64
import Mathlib.Tactic.Linarith
import Mathlib.Tactic.Ring

/-!
# Rounding magnitudes

Every operation on binary numbers rounds an exact quotient of naturals to a number of units
(`roundUnits`). The rounding is monotone (`roundUnits_mono`), so it depends on the quotient only and
not on the fraction that stands for it (`roundUnits_congr`); it leaves representable magnitudes alone
(`roundUnits_representable`) and yields no others (`representable_roundUnits`), and it is off by at most
half the spacing (`roundUnits_error`). It reaches a power of two from halfway below it on
(`roundUnits_lt_iff`).

Monotony is clear as long as both quotients are rounded to multiples of the same spacing. Otherwise a
power of two lies between them that is a multiple of both spacings, and neither rounding passes it.
-/

namespace CoverControl.Binary64

/-! ### The nearest whole number -/

/-- The whole number nearest to `num / den`, a tie going to the even one. -/
def nearest (num den : Nat) : Nat :=
  if 2 * (num % den) < den ∨ 2 * (num % den) = den ∧ num / den % 2 = 0 then num / den
  else num / den + 1

variable {num num' den den' k step : Nat}

theorem nearestMultiple_eq : nearestMultiple num den step = nearest num (den * step) * step := by
  unfold nearestMultiple nearest
  dsimp only
  split <;> rfl

theorem nearest_le (hden : 0 < den) (h : num ≤ k * den) : nearest num den ≤ k := by
  have hdiv := Nat.div_add_mod num den
  have hq : num / den ≤ k := Nat.div_le_of_le_mul (by rwa [Nat.mul_comm])
  unfold nearest
  split
  · exact hq
  · rename_i hup
    by_contra hlt
    have heq : num / den = k := by omega
    rw [heq, Nat.mul_comm] at hdiv
    omega

theorem le_nearest (hden : 0 < den) (h : k * den ≤ num) : k ≤ nearest num den := by
  have hq : k ≤ num / den := (Nat.le_div_iff_mul_le hden).2 h
  unfold nearest
  split <;> omega

theorem nearest_error (num : Nat) (hden : 0 < den) :
    2 * (nearest num den * den) ≤ 2 * num + den ∧ 2 * num ≤ 2 * (nearest num den * den) + den := by
  have hdiv := Nat.div_add_mod num den
  have hmod := Nat.mod_lt num hden
  rw [Nat.mul_comm] at hdiv
  unfold nearest
  split
  · omega
  · rw [Nat.add_mul, Nat.one_mul]
    omega

/-- Quotients compare as fractions do, crosswise. -/
theorem div_le_div_of_cross (hden : 0 < den) (hden' : 0 < den') (h : num * den' ≤ num' * den) :
    num / den ≤ num' / den' := by
  rw [Nat.le_div_iff_mul_le hden']
  refine Nat.le_of_mul_le_mul_right (Nat.le_trans ?_ h) hden
  calc num / den * den' * den = num / den * den * den' := Nat.mul_right_comm ..
    _ ≤ num * den' := Nat.mul_le_mul_right _ (Nat.div_mul_le_self num den)

theorem nearest_mono (hden : 0 < den) (hden' : 0 < den') (h : num * den' ≤ num' * den) :
    nearest num den ≤ nearest num' den' := by
  have hdiv := Nat.div_add_mod num den
  have hdiv' := Nat.div_add_mod num' den'
  have hmod := Nat.mod_lt num hden
  have hq := div_le_div_of_cross hden hden' h
  rcases Nat.lt_or_ge (num / den) (num' / den') with hlt | hge
  · refine Nat.le_trans (?_ : _ ≤ num / den + 1) (Nat.le_trans hlt (le_nearest hden' (Nat.div_mul_le_self ..)))
    unfold nearest
    split <;> omega
  · -- the whole parts agree, so the remainders decide, as fractions of their denominators
    have heq : num / den = num' / den' := Nat.le_antisymm hq hge
    have hrest : num % den * den' ≤ num' % den' * den := by
      rw [← hdiv, ← hdiv', ← heq, Nat.add_mul, Nat.add_mul] at h
      have hwhole : den * (num / den) * den' = den' * (num / den) * den := by ring
      omega
    unfold nearest
    rw [← heq]
    split
    · split <;> omega
    · rename_i hup
      have hhalf : den ≤ 2 * (num % den) := by omega
      have hhalf' : den' ≤ 2 * (num' % den') := by
        refine Nat.le_of_mul_le_mul_right (?_ : _ * den ≤ _ * den) hden
        nlinarith
      rw [if_neg]
      rintro (hlt' | ⟨htie', heven⟩)
      · omega
      · have htie : 2 * (num % den) ≠ den := fun htie => hup (.inr ⟨htie, heven⟩)
        have hmore : den + 1 ≤ 2 * (num % den) := by omega
        nlinarith

/-! ### The spacing -/

theorem spacing_pos (units : Nat) : 0 < spacing units := Nat.two_pow_pos _

theorem log2_mono {a b : Nat} (h : a ≤ b) : a.log2 ≤ b.log2 := by
  by_cases ha : a = 0
  · rw [ha]; exact Nat.zero_le _
  · have hb : b ≠ 0 := by omega
    exact (Nat.le_log2 hb).2 (Nat.le_trans (Nat.log2_self_le ha) h)

theorem spacing_dvd {a b : Nat} (h : a ≤ b) : spacing a ∣ spacing b :=
  Nat.pow_dvd_pow 2 (Nat.sub_le_sub_right (log2_mono h) 52)

/-- Above the least spacing, 53 significant bits are kept. -/
theorem spacing_le (units : Nat) : 2 ^ 52 * spacing units ≤ units + 2 ^ 52 := by
  rcases Nat.lt_or_ge units.log2 52 with hlow | hhigh
  · have hone : spacing units = 1 := by
      show 2 ^ (units.log2 - 52) = 1
      rw [Nat.sub_eq_zero_of_le (Nat.le_of_lt hlow), Nat.pow_zero]
    omega
  · have hne : units ≠ 0 := by rintro rfl; simp at hhigh
    have hself := Nat.log2_self_le hne
    have hpow : 2 ^ 52 * spacing units = 2 ^ units.log2 := by
      show 2 ^ 52 * 2 ^ (units.log2 - 52) = _
      rw [← Nat.pow_add]; congr 1; omega
    omega

/-! ### Rounding -/

/-- The representable number of units nearest to `num / den`. -/
def roundUnits (num den : Nat) : Nat := nearestMultiple num den (spacing (num / den))

theorem ofQuotient_eq (negative : Bool) : ofQuotient negative num den =
    if roundUnits num den < unitsLimit then .finite negative (roundUnits num den)
    else .infinite negative := rfl

theorem roundUnits_eq : roundUnits num den =
    nearest num (den * spacing (num / den)) * spacing (num / den) := nearestMultiple_eq

/-- A magnitude that rounding leaves alone. -/
def Representable (units : Nat) : Prop := spacing units ∣ units

theorem roundUnits_representable {units : Nat} (hden : 0 < den) (h : Representable units) :
    roundUnits (units * den) den = units := by
  obtain ⟨k, hk⟩ := h
  have hdiv : units * den / den = units := Nat.mul_div_cancel _ hden
  have hexact : units * den = k * (den * spacing units) := by
    conv_lhs => rw [hk]
    ring
  have hpos : 0 < den * spacing units := Nat.mul_pos hden (spacing_pos _)
  have hnearest : nearest (units * den) (den * spacing units) = k :=
    Nat.le_antisymm (nearest_le hpos (Nat.le_of_eq hexact)) (le_nearest hpos (Nat.le_of_eq hexact.symm))
  rw [roundUnits_eq, hdiv, hnearest, Nat.mul_comm, ← hk]

theorem roundUnits_mono (hden : 0 < den) (hden' : 0 < den') (h : num * den' ≤ num' * den) :
    roundUnits num den ≤ roundUnits num' den' := by
  have hle := div_le_div_of_cross hden hden' h
  have hs := spacing_pos (num / den)
  have hs' := spacing_pos (num' / den')
  rw [roundUnits_eq, roundUnits_eq]
  by_cases hsame : spacing (num / den) = spacing (num' / den')
  · rw [hsame] at hs ⊢
    refine Nat.mul_le_mul_right _ (nearest_mono (Nat.mul_pos hden hs) (Nat.mul_pos hden' hs) ?_)
    calc num * (den' * spacing (num' / den')) = num * den' * spacing (num' / den') := by ring
      _ ≤ num' * den * spacing (num' / den') := Nat.mul_le_mul_right _ h
      _ = num' * (den * spacing (num' / den')) := by ring
  · -- the first power of two in the binade of the larger quotient separates the two
    have hlog : (num / den).log2 < (num' / den').log2 ∧ 52 ≤ (num' / den').log2 := by
      have hmono := log2_mono hle
      have hne : (num / den).log2 - 52 ≠ (num' / den').log2 - 52 := fun heq =>
        hsame (congrArg (Nat.pow 2) heq)
      omega
    have hne' : num' / den' ≠ 0 := by intro hzero; rw [hzero] at hlog; simp at hlog
    have hdvd' : spacing (num' / den') ∣ 2 ^ (num' / den').log2 := Nat.pow_dvd_pow 2 (Nat.sub_le ..)
    obtain ⟨b, hb⟩ := Nat.dvd_trans (spacing_dvd hle) hdvd'
    obtain ⟨b', hb'⟩ := hdvd'
    have hbelow : num ≤ 2 ^ (num' / den').log2 * den := by
      have hlt : num / den < 2 ^ (num' / den').log2 :=
        Nat.lt_of_lt_of_le Nat.lt_log2_self (Nat.pow_le_pow_right (by decide) hlog.1)
      exact Nat.le_of_lt ((Nat.div_lt_iff_lt_mul hden).1 hlt)
    have habove : 2 ^ (num' / den').log2 * den' ≤ num' :=
      (Nat.le_div_iff_mul_le hden').1 (Nat.log2_self_le hne')
    calc nearest num (den * spacing (num / den)) * spacing (num / den)
        ≤ b * spacing (num / den) := by
          refine Nat.mul_le_mul_right _ (nearest_le (Nat.mul_pos hden hs) ?_)
          rw [hb] at hbelow
          linarith
      _ = 2 ^ (num' / den').log2 := by rw [Nat.mul_comm, ← hb]
      _ = b' * spacing (num' / den') := by rw [Nat.mul_comm, ← hb']
      _ ≤ nearest num' (den' * spacing (num' / den')) * spacing (num' / den') := by
          refine Nat.mul_le_mul_right _ (le_nearest (Nat.mul_pos hden' hs') ?_)
          rw [hb'] at habove
          linarith

/-- Rounding depends on the quotient only. -/
theorem roundUnits_congr (hden : 0 < den) (hden' : 0 < den') (h : num * den' = num' * den) :
    roundUnits num den = roundUnits num' den' :=
  Nat.le_antisymm (roundUnits_mono hden hden' (Nat.le_of_eq h))
    (roundUnits_mono hden' hden (Nat.le_of_eq h.symm))

theorem roundUnits_error (num : Nat) (hden : 0 < den) :
    2 * (roundUnits num den * den) ≤ 2 * num + den * spacing (num / den) ∧
    2 * num ≤ 2 * (roundUnits num den * den) + den * spacing (num / den) := by
  have herror := nearest_error num (Nat.mul_pos hden (spacing_pos (num / den)))
  have hmul : roundUnits num den * den =
      nearest num (den * spacing (num / den)) * (den * spacing (num / den)) := by
    rw [roundUnits_eq]; ring
  rwa [hmul]

theorem representable_two_pow (k : Nat) : Representable (2 ^ k) := by
  show 2 ^ ((2 ^ k).log2 - 52) ∣ 2 ^ k
  rw [Nat.log2_two_pow]
  exact Nat.pow_dvd_pow 2 (Nat.sub_le ..)

/-- Multiples of a power of two are representable if they have at most 53 bits beyond it. -/
theorem representable_mul_two_pow {m : Nat} (h : m < 2 ^ 53) (k : Nat) : Representable (m * 2 ^ k) := by
  by_cases hm : m = 0
  · rw [hm, Nat.zero_mul]; exact Nat.dvd_zero _
  · have hpos : m * 2 ^ k ≠ 0 := Nat.mul_ne_zero hm (Nat.two_pow_pos k).ne'
    have hlt : (m * 2 ^ k).log2 < 53 + k := by
      rw [Nat.log2_lt hpos, Nat.pow_add]
      exact Nat.mul_lt_mul_of_pos_right h (Nat.two_pow_pos k)
    have hdvd : 2 ^ ((m * 2 ^ k).log2 - 52) ∣ 2 ^ k := Nat.pow_dvd_pow 2 (by omega)
    exact Nat.dvd_trans hdvd (Nat.dvd_mul_left ..)

/-- What rounding yields is representable: it has at most 53 bits beyond the spacing, or it is the next
power of two. -/
theorem representable_roundUnits (num : Nat) (hden : 0 < den) : Representable (roundUnits num den) := by
  have hpos : 0 < den * spacing (num / den) := Nat.mul_pos hden (spacing_pos _)
  have hbits : num ≤ 2 ^ 53 * (den * spacing (num / den)) := by
    have hlog : num / den < 2 ^ 53 * spacing (num / den) :=
      calc num / den < 2 ^ ((num / den).log2 + 1) := Nat.lt_log2_self
        _ ≤ 2 ^ (53 + ((num / den).log2 - 52)) := Nat.pow_le_pow_right (by decide) (by omega)
        _ = 2 ^ 53 * spacing (num / den) := Nat.pow_add 2 53 _
    have hlt := (Nat.div_lt_iff_lt_mul hden).1 hlog
    linarith
  rw [roundUnits_eq]
  rcases (nearest_le hpos hbits).lt_or_eq with hlt | heq
  · exact representable_mul_two_pow hlt _
  · rw [heq]
    show Representable (2 ^ 53 * 2 ^ ((num / den).log2 - 52))
    rw [← Nat.pow_add]
    exact representable_two_pow _

/-! ### Small and large quotients -/

/-- Less than half a unit is rounded to none. -/
theorem roundUnits_of_lt_half (h : 2 * num < den) : roundUnits num den = 0 := by
  have hdiv : num / den = 0 := Nat.div_eq_of_lt (by omega)
  have hspacing : spacing 0 = 1 := rfl
  have hdown : 2 * (num % den) < den := by rwa [Nat.mod_eq_of_lt (by omega)]
  rw [roundUnits_eq, hdiv, hspacing, Nat.mul_one, Nat.mul_one, nearest, if_pos (.inl hdown), hdiv]

theorem spacing_eq {units : Nat} (hlow : 2 ^ (53 + k) ≤ units) (hhigh : units < 2 ^ (54 + k)) :
    spacing units = 2 ^ (k + 1) := by
  have hne : units ≠ 0 := (Nat.lt_of_lt_of_le (Nat.two_pow_pos _) hlow).ne'
  have hlog : units.log2 = 53 + k := by
    have hle := (Nat.le_log2 hne).2 hlow
    have hlt := (Nat.log2_lt hne).2 hhigh
    omega
  show 2 ^ (units.log2 - 52) = _
  rw [hlog]
  congr 1
  omega

theorem spacing_halfway (k : Nat) : spacing ((2 ^ 54 - 1) * 2 ^ k) = 2 * 2 ^ k := by
  have hpos := Nat.two_pow_pos k
  rw [spacing_eq (k := k) (by rw [Nat.pow_add]; omega) (by rw [Nat.pow_add]; omega), Nat.pow_succ']

/-- Halfway between the largest number of 53 bits and the next power of two, that power is the even one. -/
theorem roundUnits_halfway (k : Nat) : roundUnits ((2 ^ 54 - 1) * 2 ^ k) 1 = 2 ^ 54 * 2 ^ k := by
  have hpos := Nat.two_pow_pos k
  have hsplit : (2 ^ 54 - 1) * 2 ^ k = 2 * 2 ^ k * (2 ^ 53 - 1) + 2 ^ k := by omega
  have hdiv : (2 ^ 54 - 1) * 2 ^ k / (2 * 2 ^ k) = 2 ^ 53 - 1 := by
    rw [hsplit, Nat.mul_add_div (by omega), Nat.div_eq_of_lt (by omega), Nat.add_zero]
  have hmod : (2 ^ 54 - 1) * 2 ^ k % (2 * 2 ^ k) = 2 ^ k := by
    rw [hsplit, Nat.mul_add_mod, Nat.mod_eq_of_lt (by omega)]
  rw [roundUnits_eq, Nat.div_one, spacing_halfway, Nat.one_mul, nearest, hdiv, hmod, if_neg (by omega)]
  omega

/-- The quotients that are rounded to less than a power of two are those below the halfway point. -/
theorem roundUnits_lt_iff (hden : 0 < den) :
    roundUnits num den < 2 ^ 54 * 2 ^ k ↔ num < (2 ^ 54 - 1) * 2 ^ k * den := by
  constructor
  · intro hlt
    by_contra hge
    have hmono : roundUnits ((2 ^ 54 - 1) * 2 ^ k) 1 ≤ roundUnits num den :=
      roundUnits_mono Nat.one_pos hden (by omega)
    rw [roundUnits_halfway] at hmono
    omega
  · intro hlt
    have hdiv : num / den ≤ (2 ^ 54 - 1) * 2 ^ k := ((Nat.div_lt_iff_lt_mul hden).2 hlt).le
    have hspacing : spacing (num / den) ≤ 2 * 2 ^ k := by
      rw [← spacing_halfway]
      exact Nat.le_of_dvd (spacing_pos _) (spacing_dvd hdiv)
    have herror := (roundUnits_error num hden).1
    have hhalf : den * spacing (num / den) ≤ 2 * (2 ^ k * den) := by
      calc den * spacing (num / den) ≤ den * (2 * 2 ^ k) := Nat.mul_le_mul_left den hspacing
        _ = 2 * (2 ^ k * den) := by ring
    refine lt_of_mul_lt_mul_right (?_ : _ * den < _ * den) den.zero_le
    rw [Nat.mul_assoc] at hlt ⊢
    omega

end CoverControl.Binary64
