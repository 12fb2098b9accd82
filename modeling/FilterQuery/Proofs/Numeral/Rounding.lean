import FilterQuery.Numeral.Double
import Mathlib.Order.MinMax
import Mathlib.Tactic.SplitIfs

namespace FilterQuery.Double

attribute [local instance (high + 1)] instPowNat

theorem roundQuotient_mul (hk : 0 < k) (num den : Nat) :
    roundQuotient (k * num) (k * den) = roundQuotient num den := by
  have hd : k * num / (k * den) = num / den := Nat.mul_div_mul_left _ _ hk
  have hm : k * num % (k * den) = k * (num % den) := Nat.mul_mod_mul_left ..
  have hl (a b : Nat) : k * a < k * b ↔ a < b := Nat.mul_lt_mul_left hk
  simp only [roundQuotient, hd, hm, Nat.mul_left_comm 2 k, gt_iff_lt, hl]

theorem nearestRank_mul (hk : 0 < k) (num den : Nat) :
    nearestRank (k * num) (k * den) = nearestRank num den := by
  simp only [nearestRank, Nat.mul_div_mul_left num den hk, Nat.mul_assoc, roundQuotient_mul hk]

theorem roundQuotient_mul_self (hk : 0 < k) (n : Nat) : roundQuotient (n * k) k = n := by
  simp [roundQuotient, Nat.mul_div_cancel n hk, hk]

-- From the second binade on, the significand has 53 digits.
theorem significand_bounds (h : scale rank ≠ 0) :
    2 ^ (52 : Nat) ≤ significand rank ∧ significand rank < 2 ^ (53 : Nat) := by
  have hr := Nat.div_add_mod rank (2 ^ (52 : Nat))
  have hm := Nat.mod_lt rank (Nat.two_pow_pos 52)
  simp only [significand, scale] at *
  omega

theorem significand_lt (rank : Nat) : significand rank < 2 ^ (53 : Nat) := by
  cases Nat.eq_zero_or_pos (scale rank)
  case inl h =>
    simp only [significand, scale] at *
    omega
  case inr h => exact (significand_bounds (Nat.ne_of_gt h)).2

theorem scale_add_significand (rank : Nat) : scale rank * 2 ^ (52 : Nat) + significand rank = rank := by
  have hr := Nat.div_mul_le_self rank (2 ^ (52 : Nat))
  simp only [significand, scale]
  omega

-- The scale can be told from the number.
theorem log2_units (rank : Nat) : Nat.log2 (units rank) - 52 = scale rank := by
  cases Nat.decEq (scale rank) 0
  case isTrue h =>
    have hu : units rank < 2 ^ (53 : Nat) := by simpa [units, h] using significand_lt rank
    cases Nat.decEq (units rank) 0
    case isTrue h₀  => simp [h, h₀]
    case isFalse h₀ =>
      have := (Nat.log2_lt h₀).mpr hu
      omega
  case isFalse h =>
    have ⟨hl, hu⟩ := significand_bounds h
    have hp := Nat.two_pow_pos (scale rank)
    have hlog : (units rank).log2 = 52 + scale rank := by
      refine (Nat.log2_eq_iff ?nonzero).mpr ⟨?lower, ?upper⟩
      case nonzero => exact Nat.ne_of_gt <| Nat.mul_pos (by omega) hp
      case lower   => exact Nat.pow_add .. ▸ Nat.mul_le_mul_right _ hl
      case upper =>
        rw [Nat.add_right_comm, Nat.pow_add]
        exact Nat.mul_lt_mul_of_pos_right hu hp
    rw [hlog, Nat.add_sub_cancel_left]

theorem nearestRank_units (h : rank < infinityRank) : nearestRank (units rank) 1 = rank := by
  have hs := scale_add_significand rank
  have hq := roundQuotient_mul_self (Nat.two_pow_pos (scale rank)) (significand rank)
  simp only [nearestRank, Nat.div_one, log2_units, Nat.one_mul]
  rw [units, hq, hs]
  exact Nat.min_eq_right (Nat.le_of_lt h)

-- A quotient half way between two integers goes to the even one.
theorem roundQuotient_le_iff (hd : 0 < den) :
    roundQuotient num den ≤ n ↔
      2 * num < (2 * n + 1) * den ∨ 2 * num = (2 * n + 1) * den ∧ n % 2 = 0 := by
  have hr := Nat.mod_lt num hd
  have hq := Nat.div_add_mod num den
  have hn : (2 * n + 1) * den = 2 * (den * n) + den := by
    rw [Nat.add_mul, Nat.one_mul, Nat.mul_assoc, Nat.mul_comm n]
  simp only [roundQuotient]
  generalize num / den = q at *
  generalize num % den = r at *
  rcases Nat.lt_trichotomy q n with h | h | h
  case inl =>
    have := Nat.mul_le_mul_left den h
    rw [Nat.mul_succ] at this
    split_ifs <;> omega
  case inr.inl =>
    subst h
    split_ifs <;> omega
  case inr.inr =>
    have := Nat.mul_le_mul_left den h
    rw [Nat.mul_succ] at this
    split_ifs <;> omega

theorem le_roundQuotient (hd : 0 < den) (h : n * den ≤ num) : n ≤ roundQuotient num den := by
  have hq := (Nat.le_div_iff_mul_le hd).mpr h
  simp only [roundQuotient]
  split_ifs <;> omega

-- The numbers of one scale are equally spaced, and so is the first of the next scale.
theorem units_add_units (rank : Nat) :
    units rank + units (rank + 1) = (2 * significand rank + 1) * 2 ^ scale rank := by
  have hs := scale_add_significand rank
  have hs' := scale_add_significand (rank + 1)
  have hu : units (rank + 1) = (significand rank + 1) * 2 ^ scale rank := by
    cases Nat.decEq (scale (rank + 1)) (scale rank)
    case isTrue h =>
      have : significand (rank + 1) = significand rank + 1 := by rw [h] at hs'; omega
      rw [units, h, this]
    case isFalse h =>
      have hn : scale (rank + 1) = scale rank + 1 ∧ significand (rank + 1) = 2 ^ (52 : Nat) ∧
          significand rank + 1 = 2 ^ (53 : Nat) := by
        simp only [scale, significand] at *
        omega
      rw [units, hn.1, hn.2.1, hn.2.2]
      omega
  rw [hu, units, ← Nat.add_mul]
  congr 1
  omega

-- The binade of a quotient.
theorem quotient_bounds (hd : 0 < den) (hs : Nat.log2 (num / den) - 52 = s) :
    num < 2 ^ (53 : Nat) * (den * 2 ^ s) ∧ (s ≠ 0 → 2 ^ (52 : Nat) * (den * 2 ^ s) ≤ num) := by
  have hp (n : Nat) : 2 ^ n * (den * 2 ^ s) = 2 ^ (s + n) * den := by
    rw [Nat.pow_add, Nat.mul_comm (2 ^ s), Nat.mul_assoc, Nat.mul_comm den]
  rw [hp, hp]
  refine ⟨(Nat.div_lt_iff_lt_mul hd).mp ?upper, fun h₀ => (Nat.le_div_iff_mul_le hd).mp ?lower⟩
  case upper =>
    have hl : num / den < 2 ^ ((num / den).log2 + 1) := Nat.lt_log2_self
    exact Nat.lt_of_lt_of_le hl <| Nat.pow_le_pow_right (by decide) (by omega)
  case lower =>
    have hne : num / den ≠ 0 := by
      intro h
      exact h₀ <| by rw [← hs, h]; rfl
    have he : s + 52 = (num / den).log2 := by omega
    exact he ▸ Nat.log2_self_le hne

theorem double_le_of_lt {s t : Nat} (h : s < t) (den : Nat) : 2 * (den * 2 ^ s) ≤ den * 2 ^ t := by
  rw [Nat.mul_left_comm, ← Nat.pow_succ']
  exact Nat.mul_le_mul_left den <| Nat.pow_le_pow_right (by decide) h

-- A quotient goes to a rank or below it just if it does not lie behind the middle between the number of this
-- rank and the next one; the middle goes to the even rank.
theorem nearestRank_le_iff (hd : 0 < den) (hr : rank < infinityRank) :
    nearestRank num den ≤ rank ↔
      2 * num < (units rank + units (rank + 1)) * den ∨
      2 * num = (units rank + units (rank + 1)) * den ∧ rank % 2 = 0 := by
  generalize hs : Nat.log2 (num / den) - 52 = s
  have ⟨hu, hl⟩ := quotient_bounds hd hs
  have hds : 0 < den * 2 ^ s := Nat.mul_pos hd (Nat.two_pow_pos s)
  have hq (n : Nat) := @roundQuotient_le_iff _ num n hds
  have hsum := scale_add_significand rank
  have hn : nearestRank num den ≤ rank ↔ s * 2 ^ (52 : Nat) + roundQuotient num (den * 2 ^ s) ≤ rank := by
    rw [nearestRank, hs, min_le_iff]
    exact or_iff_right (Nat.not_le_of_lt hr)
  rw [hn, units_add_units, Nat.mul_assoc, Nat.mul_comm _ den]
  -- only in its own scale a quotient is near to the middle
  rcases Nat.lt_trichotomy s (scale rank) with h | h | h
  case inl =>
    have hg := (significand_bounds (Nat.ne_of_gt (Nat.zero_lt_of_lt h))).1
    have hr : roundQuotient num (den * 2 ^ s) ≤ 2 ^ (53 : Nat) := (hq _).mpr (by omega)
    have hm : 2 ^ (53 : Nat) * (den * 2 ^ scale rank) ≤ (2 * significand rank + 1) * (den * 2 ^ scale rank) :=
      Nat.mul_le_mul_right _ (by omega)
    have := double_le_of_lt h den
    exact iff_of_true (by omega) (.inl (by omega))
  case inr.inl =>
    have hp : rank % 2 = significand rank % 2 := by omega
    rw [hp, ← h, ← hq]
    omega
  case inr.inr =>
    have hl := hl (Nat.ne_of_gt (Nat.zero_lt_of_lt h))
    have hg := significand_lt rank
    have hr := le_roundQuotient hds hl
    have hm : (2 * significand rank + 1) * (den * 2 ^ scale rank) < 2 ^ (54 : Nat) * (den * 2 ^ scale rank) :=
      Nat.mul_lt_mul_of_pos_right (by omega) <| Nat.mul_pos hd (Nat.two_pow_pos _)
    have := double_le_of_lt h den
    exact iff_of_false (by omega) (by omega)

theorem nearestRank_mono (hd : 0 < den) (h : num ≤ num') : nearestRank num den ≤ nearestRank num' den := by
  cases Nat.lt_or_ge (nearestRank num' den) infinityRank
  case inl hr =>
    have := (nearestRank_le_iff hd hr).mp (Nat.le_refl _)
    exact (nearestRank_le_iff hd hr).mpr (by omega)
  case inr hr => exact Nat.le_trans (nearestRank_le_infinityRank ..) hr

end FilterQuery.Double
