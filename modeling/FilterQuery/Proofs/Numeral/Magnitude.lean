import FilterQuery.Proofs.Numeral.RoundTrip

namespace FilterQuery

attribute [local instance (high + 1)] instPowNat

namespace Numeral

-- The digits of a numeral without sign as one number, and how many of them stand behind the point.
def unscaled (cs : List Char) : Nat × Nat :=
  let fraction := (Double.splitFraction (cs.dropWhile Char.isDigit)).1
  (natOfDigits (cs.takeWhile Char.isDigit ++ fraction), fraction.length)

-- The numerals from half way between the greatest finite number and 2 ^ 1024 on.
def Overflows (cs : List Char) : Prop :=
  let (digits, places) := unscaled (splitSign cs).2
  (2 ^ (1024 : Nat) - 2 ^ (970 : Nat)) * 10 ^ places ≤ digits

instance : DecidablePred Overflows :=
  fun _ => inferInstanceAs (Decidable (_ ≤ _))

theorem unscaled_whole (hw : isDigits ws) : unscaled ws = (natOfDigits ws, 0) := by
  have hd := (isDigits_iff.mp hw).2
  simp [unscaled, Double.splitFraction, List.takeWhile_eq_self_iff.mpr hd, List.dropWhile_eq_nil_iff.mpr hd]

theorem unscaled_point (hw : isDigits ws) (hf : isDigits fs) :
    unscaled (ws ++ '.' :: fs) = (natOfDigits (ws ++ fs), fs.length) := by
  have hd := (isDigits_iff.mp hw).2
  have ht := List.takeWhile_eq_self_iff.mpr (isDigits_iff.mp hf).2
  have hp : '.'.isDigit = false := rfl
  simp [unscaled, Double.splitFraction, List.takeWhile_append_of_pos hd, List.dropWhile_append_of_pos hd, ht, hp]

-- The integers that are exact.
def Fits (n : Int) : Prop :=
  -2 ^ (63 : Nat) ≤ n ∧ n < 2 ^ (63 : Nat)

instance : DecidablePred Fits :=
  fun _ => inferInstanceAs (Decidable (_ ∧ _))

theorem int64?_eq_some_iff : int64? text = some n ↔ int? text.toList = some n ∧ Fits n := by
  simp [int64?, Option.filter_eq_some_iff, Fits]

theorem int?_toString (n : Int) : int? (toString n).toList = some n := by
  have hd (k : Nat) : natOfDigits (Nat.toDigits 10 k) = k := Nat.ofDigitChars_ten_toDigits
  rw [Int.toString_eq_repr, Int.repr_eq_if]
  split
  case isTrue h =>
    rw [Nat.toList_repr, int?, splitSign_plain (.whole (isDigits_toDigits _))]
    simp [isDigits_toDigits, hd]
    omega
  case isFalse h =>
    rw [String.toList_append, Nat.toList_repr]
    simp [int?, splitSign, isDigits_toDigits, hd]
    omega

theorem Signed.plain (h : Signed cs) : Plain (splitSign cs).2 := by
  cases h
  case plus h  => rwa [splitSign_plain h]
  case minus h => exact h

theorem unscaled_of_int? (h : int? cs = some n) : unscaled (splitSign cs).2 = (n.natAbs, 0) := by
  simp only [int?] at h
  split at h <;> cases h
  case isTrue hd => rw [unscaled_whole hd]; split <;> simp

theorem natAbs_le_of_fits (h : Fits n) : n.natAbs ≤ 2 ^ (63 : Nat) := by
  simp only [Fits] at h
  omega

theorem le_natAbs_of_not_fits (h : ¬Fits n) : 2 ^ (63 : Nat) ≤ n.natAbs := by
  simp only [Fits] at h
  omega

theorem not_overflows_of_fits (hi : int? cs = some n) (h : Fits n) : ¬Overflows cs := by
  have hl : 2 ^ (63 : Nat) < 2 ^ (1024 : Nat) - 2 ^ (970 : Nat) := by decide +kernel
  simp only [Overflows, unscaled_of_int? hi, Nat.pow_zero, Nat.mul_one]
  exact Nat.not_le_of_lt <| Nat.lt_of_le_of_lt (natAbs_le_of_fits h) hl

end Numeral

namespace Double

open Numeral

theorem one_pos : 0 < one := by
  decide +kernel

-- The rank of the number nearest to a plain numeral.
def rankOf (cs : List Char) : Nat :=
  nearestRank ((unscaled cs).1 * one) (10 ^ (unscaled cs).2)

theorem rankOf_le_infinityRank (cs : List Char) : rankOf cs ≤ infinityRank :=
  nearestRank_le_infinityRank ..

theorem readDecimal?_plain (h : Plain cs) (negative : Bool) :
    readDecimal? negative cs = some (.signed negative (rankOf cs) (rankOf_le_infinityRank cs)) := by
  have hr (n k : Nat) : Decimal.rank ⟨n, 0 - k⟩ = nearestRank (n * one) (10 ^ k) := by
    simpa using Decimal.rank_sub n 0 k
  cases h
  case whole hw =>
    have hs := (Decimal.spelled_whole hw).value negative
    simp only [hs, rankOf, unscaled_whole hw, ← hr]
    rfl
  case point hw hf =>
    have hs := (Decimal.spelled_point hw hf).value negative
    simp only [hs, rankOf, unscaled_point hw hf, ← hr]

theorem read?_signed (h : Signed cs) :
    read? (.ofList cs) =
      some (.signed (splitSign cs).1 (rankOf (splitSign cs).2) (rankOf_le_infinityRank _)) := by
  cases h
  case plus h  => rw [read?_plus h, readDecimal?_plain h]; simp only [splitSign_plain h]
  case minus h => exact (read?_minus h).trans <| readDecimal?_plain h true

theorem rankOf_lt_iff (cs : List Char) :
    rankOf cs < infinityRank ↔ (unscaled cs).1 < (2 ^ (1024 : Nat) - 2 ^ (970 : Nat)) * 10 ^ (unscaled cs).2 := by
  -- the last finite rank is odd
  have hp : (infinityRank - 1) % 2 ≠ 0 := by decide +kernel
  have hlt : infinityRank - 1 < infinityRank := by decide +kernel
  have hu : units (infinityRank - 1) + units (infinityRank - 1 + 1) =
      2 * ((2 ^ (1024 : Nat) - 2 ^ (970 : Nat)) * one) := by
    decide +kernel
  have hd : 0 < 10 ^ (unscaled cs).2 := Nat.pow_pos (by decide)
  rw [rankOf, ← Nat.le_sub_one_iff_lt (Nat.zero_lt_of_lt hlt), nearestRank_le_iff hd hlt, hu]
  generalize 2 ^ (1024 : Nat) - 2 ^ (970 : Nat) = limit
  rw [Nat.mul_assoc, Nat.mul_right_comm limit]
  simp only [hp, and_false, or_false]
  rw [Nat.mul_lt_mul_left (by decide), Nat.mul_lt_mul_right one_pos]

theorem rankOf_lt_iff_not_overflows : rankOf (splitSign cs).2 < infinityRank ↔ ¬Overflows cs := by
  simp only [rankOf_lt_iff, Overflows, Nat.not_le]

theorem rankOf_of_overflows (h : Overflows cs) : rankOf (splitSign cs).2 = infinityRank :=
  Nat.le_antisymm (rankOf_le_infinityRank _) <| Nat.le_of_not_lt fun hlt => rankOf_lt_iff_not_overflows.mp hlt h

theorem eq_of_not_isFinite {x : Double} (h : x.isFinite = false) :
    x = .nan ∨ ∃ negative, x = .signed negative infinityRank (Nat.le_refl _) := by
  cases x
  case nan => exact .inl rfl
  case signed negative rank hr =>
    have hr : rank = infinityRank := Nat.le_antisymm hr <| by simpa [isFinite] using h
    subst hr
    exact .inr ⟨negative, rfl⟩

theorem toText_infinite (negative : Bool) :
    toText (.signed negative infinityRank (Nat.le_refl _)) = if negative then "-inf" else "inf" := by
  cases negative <;> simp [toText, Layout.text]

theorem isFinite_read?_iff (h : Signed cs) (hx : read? (.ofList cs) = some x) : x.isFinite ↔ ¬Overflows cs := by
  rw [read?_signed h] at hx
  cases hx
  simp only [isFinite, decide_eq_true_eq, rankOf_lt_iff_not_overflows]

theorem read?_of_int? (h : Signed cs) (hi : int? cs = some n) :
    read? (.ofList cs) = some (.signed (splitSign cs).1 (nearestRank (n.natAbs * one) 1)
      (nearestRank_le_infinityRank ..)) := by
  rw [read?_signed h]
  simp only [rankOf, unscaled_of_int? hi, Nat.pow_zero]

theorem nearestRank_integer_mono (h : m ≤ n) : nearestRank (m * one) 1 ≤ nearestRank (n * one) 1 :=
  nearestRank_mono (by decide) <| Nat.mul_le_mul_right one h

theorem magnitude_limit :
    Layout.plain.magnitude (nearestRank (2 ^ (63 : Nat) * one) 1) = "9223372036854776000".toList := by
  decide +kernel

theorem toString_ne_toText (hm : Fits m) (hn : ¬Fits n) (hs : Signed cs) (hi : int? cs = some n)
    (hx : read? (.ofList cs) = some x) (hf : x.isFinite) : toString m ≠ x.toText := by
  intro he
  have hxm := read?_of_int? (signed_toString m) (int?_toString m)
  have hxn := read?_of_int? hs hi
  rw [String.ofList_toList, (congrArg read? he).trans (read?_toText hf)] at hxm
  rw [hx] at hxn
  cases hxm
  -- both round to the limit, which is written in another way
  have hl : nearestRank (m.natAbs * one) 1 = nearestRank (2 ^ (63 : Nat) * one) 1 := by
    have hle := nearestRank_integer_mono (natAbs_le_of_fits hm)
    have hge := nearestRank_integer_mono (le_natAbs_of_not_fits hn)
    simp only [Option.some.injEq, signed.injEq] at hxn
    omega
  have hlt : nearestRank (2 ^ (63 : Nat) * one) 1 < infinityRank := by decide +kernel
  have ht : ∀ negative : Bool, int? (String.ofList
      ((if negative then ['-'] else []) ++ "9223372036854776000".toList)).toList =
      some (if negative then -9223372036854776000 else 9223372036854776000) := by decide +kernel
  have hi := int?_toString m
  rw [he, toText_eq (hl.trans_lt hlt), hl, magnitude_limit, ht, Option.some.injEq] at hi
  have := natAbs_le_of_fits hm
  split at hi <;> omega

end Double
end FilterQuery
