import FilterQuery.Numeral.Shortest
import FilterQuery.Proofs.Numeral.Plain
import FilterQuery.Proofs.Numeral.Rounding

namespace FilterQuery.Double

attribute [local instance (high + 1)] instPowNat

open Numeral

-- The rank of the number nearest to a decimal.
def Decimal.rank (d : Decimal) : Nat :=
  nearestRank (d.digits * one * 10 ^ d.exponent.toNat) (10 ^ (-d.exponent).toNat)

-- The exponent may be taken apart in any way.
theorem Decimal.rank_sub (n a b : Nat) :
    rank ⟨n, (a : Int) - b⟩ = nearestRank (n * one * 10 ^ a) (10 ^ b) := by
  simp only [rank]
  cases Nat.le_total b a
  case inl h =>
    have ⟨c, hc⟩ := Nat.exists_eq_add_of_le h
    have ht : ((a : Int) - b).toNat = c := by omega
    have hn : (-((a : Int) - b)).toNat = 0 := by omega
    have := nearestRank_mul (Nat.pow_pos (by decide : 0 < 10) : 0 < 10 ^ b) (n * one * 10 ^ c) 1
    rw [ht, hn, hc, Nat.pow_add, Nat.pow_zero, ← this, Nat.mul_one, Nat.mul_left_comm]
  case inr h =>
    have ⟨c, hc⟩ := Nat.exists_eq_add_of_le h
    have ht : ((a : Int) - b).toNat = 0 := by omega
    have hn : (-((a : Int) - b)).toNat = c := by omega
    have := nearestRank_mul (Nat.pow_pos (by decide : 0 < 10) : 0 < 10 ^ a) (n * one) (10 ^ c)
    rw [ht, hn, hc, Nat.pow_add, Nat.pow_zero, Nat.mul_one, ← this, Nat.mul_comm (10 ^ a)]

theorem Decimal.rank_shift (n : Nat) (e : Int) : rank ⟨10 * n, e⟩ = rank ⟨n, e + 1⟩ := by
  have he := Int.toNat_sub_toNat_neg e
  have he' : e + 1 = (e.toNat + 1 : Nat) - ((-e).toNat : Int) := by omega
  have hn : 10 * n * one * 10 ^ e.toNat = n * one * 10 ^ (e.toNat + 1) := by
    rw [Nat.pow_succ, Nat.mul_assoc 10, Nat.mul_comm 10, Nat.mul_right_comm, Nat.mul_assoc]
  rw [he', rank_sub, ← hn, ← rank_sub, he]

namespace Shortest

theorem stripZeros_rank (digits : Nat) (exponent : Int) :
    (stripZeros digits exponent).rank = Decimal.rank ⟨digits, exponent⟩ := by
  rw [stripZeros]
  split
  case isTrue h =>
    rw [stripZeros_rank, ← Decimal.rank_shift, Nat.mul_div_cancel' (Nat.dvd_of_mod_eq_zero h.2)]
  case isFalse => rfl
termination_by digits
decreasing_by omega

theorem rank_of_readsBack (h : readsBack rank count power) :
    Decimal.rank ⟨count, (power : Int) - places⟩ = rank := by
  rw [Decimal.rank_sub, Nat.mul_right_comm]
  exact eq_of_beq h

theorem nearer_eq (tie : Tie) (rank count power : Nat) :
    nearer tie rank count power = count ∨ nearer tie rank count power = count + 1 := by
  have hm := Nat.mod_two_eq_zero_or_one count
  simp only [nearer]
  split
  case isTrue => exact .inl rfl
  case isFalse =>
    split
    case isTrue  => exact .inr rfl
    case isFalse => cases tie <;> simp [hm]

theorem onGrid?_rank (h : onGrid? tie rank power = some d) : d.rank = rank := by
  simp only [onGrid?, Option.map_eq_some_iff] at h
  obtain ⟨count, hc, hd⟩ := h
  subst hd
  apply rank_of_readsBack
  cases h₁ : readsBack rank (scaled rank / 10 ^ power) power <;>
    cases h₂ : readsBack rank (scaled rank / 10 ^ power + 1) power <;> simp only [h₁, h₂] at hc
  case true.true =>
    rw [← Option.some.inj hc]
    cases nearer_eq tie rank (scaled rank / 10 ^ power) power
    case inl h => exact h.symm ▸ h₁
    case inr h => exact h.symm ▸ h₂
  case true.false  => exact Option.some.inj hc ▸ h₁
  case false.true  => exact Option.some.inj hc ▸ h₂
  case false.false => cases hc

theorem rank_of_binary {n : Nat} (hn : one = 2 ^ n) (count : Nat) :
    Decimal.rank ⟨count * 5 ^ n, (0 : Nat) - (n : Int)⟩ = nearestRank count 1 := by
  have ht : 5 ^ n * 2 ^ n = 10 ^ n := (Nat.mul_pow 5 2 n).symm
  have hp : 0 < 10 ^ n := Nat.pow_pos (by decide)
  rw [Decimal.rank_sub, hn, Nat.pow_zero, Nat.mul_one, Nat.mul_assoc, ht, Nat.mul_comm]
  simpa using nearestRank_mul hp count 1

theorem exact_rank (h : rank < infinityRank) : (exact rank).rank = rank :=
  (rank_of_binary rfl (units rank)).trans <| nearestRank_units h

theorem decimal_rank (tie : Tie) (h : rank < infinityRank) : (decimal tie rank).rank = rank := by
  simp only [decimal, stripZeros_rank]
  generalize hf : List.findSome? _ _ = found
  cases found
  case none   => exact exact_rank h
  case some d =>
    have ⟨_, _, hd⟩ := List.exists_of_findSome?_eq_some hf
    exact onGrid?_rank hd

end Shortest

theorem ofDecimal_eq (hl : -((digits.length : Int) + 330) ≤ exponent) (hu : exponent ≤ 330) :
    ofDecimal negative digits exponent = .signed negative
      (Decimal.rank ⟨natOfDigits digits, exponent⟩) (nearestRank_le_infinityRank ..) := by
  have he : max (-((digits.length : Int) + 330)) (min exponent 330) = exponent := by omega
  simp only [ofDecimal, he, Decimal.rank]

-- `cs` is a plain numeral, and it is read as the number nearest to `d`.
structure Decimal.Spelled (d : Decimal) (cs : List Char) : Prop where
  plain : Plain cs
  value : ∀ negative, readDecimal? negative cs =
    some (.signed negative d.rank (nearestRank_le_infinityRank ..))

namespace Decimal

theorem spelled_whole (hw : isDigits ws) : Spelled ⟨natOfDigits ws, 0⟩ ws where
  plain := .whole hw
  value _ := by
    rw [readDecimal?_whole hw, ofDecimal_eq]
    case hl => omega
    case hu => decide

theorem spelled_point (hw : isDigits ws) (hf : isDigits fs) :
    Spelled ⟨natOfDigits (ws ++ fs), 0 - fs.length⟩ (ws ++ '.' :: fs) where
  plain := .point hw hf
  value _ := by
    rw [readDecimal?_point hw hf, ofDecimal_eq]
    case hl => rw [List.length_append]; omega
    case hu => omega

-- Zeros behind the digits take the place of the exponent.
theorem rank_zeros (n k : Nat) : rank ⟨10 ^ k * n, 0⟩ = rank ⟨n, k⟩ := by
  induction k generalizing n
  case zero      => rw [Nat.pow_zero, Nat.one_mul]; rfl
  case succ k ih => rw [Nat.pow_succ, Nat.mul_assoc, ih, rank_shift]; rfl

theorem rank_zero (e : Int) : rank ⟨0, e⟩ = 0 := by
  simp [rank, nearestRank, roundQuotient]

end Decimal

namespace Layout

theorem isDigit_of_mem_zeros (n : Nat) : ∀ c ∈ zeros n, c.isDigit :=
  fun _ hc => List.eq_of_mem_replicate hc ▸ rfl

theorem natOfDigits_zeros_append (n : Nat) (ds : List Char) :
    natOfDigits (zeros n ++ ds) = natOfDigits ds := by
  simp [natOfDigits, zeros, Nat.ofDigitChars_append]

theorem natOfDigits_append_zeros (ds : List Char) (n : Nat) :
    natOfDigits (ds ++ zeros n) = 10 ^ n * natOfDigits ds := by
  simp [natOfDigits, zeros, Nat.ofDigitChars_append]

theorem spelled_before (hd : isDigits ds) (n : Nat) :
    Decimal.Spelled ⟨natOfDigits ds, 0 - (zeros n ++ ds).length⟩ ('0' :: '.' :: (zeros n ++ ds)) := by
  have hz : isDigits (zeros 1) := rfl
  have hs := Decimal.spelled_point hz (isDigits_append_of_right (isDigit_of_mem_zeros n) hd)
  rwa [natOfDigits_zeros_append, natOfDigits_zeros_append] at hs

theorem spelled_among (hd : isDigits ds) (h₀ : 0 < n) (hn : n < ds.length) :
    Decimal.Spelled ⟨natOfDigits ds, 0 - (ds.drop n).length⟩ (ds.take n ++ '.' :: ds.drop n) := by
  have ⟨hne, hall⟩ := isDigits_iff.mp hd
  have hw : isDigits (ds.take n) :=
    isDigits_iff.mpr ⟨by simp [hne]; omega, fun c hc => hall c (List.mem_of_mem_take hc)⟩
  have hf : isDigits (ds.drop n) :=
    isDigits_iff.mpr ⟨by simp; omega, fun c hc => hall c (List.mem_of_mem_drop hc)⟩
  have hs := Decimal.spelled_point hw hf
  rwa [List.take_append_drop] at hs

theorem spelled_behind (hd : isDigits ds) (n : Nat) :
    Decimal.Spelled ⟨natOfDigits ds, n⟩ (ds ++ zeros n) := by
  have hs := Decimal.spelled_whole (isDigits_append hd (isDigit_of_mem_zeros n))
  rw [natOfDigits_append_zeros] at hs
  exact ⟨hs.plain, fun negative => by simp only [hs.value, Decimal.rank_zeros]⟩

theorem positionalDigits_spelled (n : Nat) (e : Int) :
    Decimal.Spelled ⟨n, e⟩ (plain.positionalDigits (Nat.toDigits 10 n)
      ((Nat.toDigits 10 n).length + e)) := by
  have hd := isDigits_toDigits n
  have hn : natOfDigits (Nat.toDigits 10 n) = n := Nat.ofDigitChars_ten_toDigits
  generalize Nat.toDigits 10 n = ds at *
  subst hn
  simp only [positionalDigits]
  split
  case isTrue h =>
    have hs := spelled_before hd (-((ds.length : Int) + e)).toNat
    have he : 0 - ((zeros (-((ds.length : Int) + e)).toNat ++ ds).length : Int) = e := by
      simp [zeros]
      omega
    rwa [he] at hs
  case isFalse h =>
    generalize hp : ((ds.length : Int) + e).toNat = p
    split
    case isTrue h' =>
      have he : 0 - ((ds.drop p).length : Int) = e := by simp; omega
      have hs := spelled_among hd (by omega : 0 < p) (by omega)
      rwa [he] at hs
    case isFalse h' =>
      have he : ((p - ds.length : Nat) : Int) = e := by omega
      have hs := spelled_behind hd (p - ds.length)
      rw [he] at hs
      simpa [plain] using hs

theorem magnitude_zero_spelled : Decimal.Spelled ⟨0, 0⟩ (plain.magnitude 0) :=
  have hz : isDigits ['0'] := rfl
  Decimal.spelled_whole hz

-- `d` is a variable so that nothing evaluates the search for the digits.
theorem magnitude_spelled_of_ne_zero (h : rank ≠ 0) (hd : Shortest.decimal .up rank = d) :
    d.Spelled (plain.magnitude rank) := by
  have hm : plain.magnitude rank = plain.positionalDigits (Nat.toDigits 10 d.digits)
      ((Nat.toDigits 10 d.digits).length + d.exponent) := by
    subst hd
    simp [magnitude, h, plain]
  rw [hm]
  exact positionalDigits_spelled ..

theorem magnitude_spelled (h : rank < infinityRank) :
    ∃ d, Decimal.Spelled d (plain.magnitude rank) ∧ d.rank = rank := by
  cases Nat.decEq rank 0
  case isTrue h₀  => exact h₀ ▸ ⟨_, magnitude_zero_spelled, Decimal.rank_zero 0⟩
  case isFalse h₀ => exact ⟨_, magnitude_spelled_of_ne_zero h₀ rfl, Shortest.decimal_rank .up h⟩

end Layout

theorem toText_eq (h : rank < infinityRank) (hr : rank ≤ infinityRank) :
    toText (.signed negative rank hr) =
      .ofList ((if negative then ['-'] else []) ++ Layout.plain.magnitude rank) := by
  cases negative <;> simp [toText, Layout.text, h]

theorem signed_toText {x : Double} (h : x.isFinite) : Signed x.toText.toList := by
  cases x
  case nan => cases h
  case signed negative rank hr =>
    have hf : rank < infinityRank := by simpa [isFinite] using h
    obtain ⟨_, hs, _⟩ := Layout.magnitude_spelled hf
    rw [toText_eq hf, String.toList_ofList]
    cases negative
    case false => exact .plus hs.plain
    case true  => exact .minus hs.plain

theorem read?_toText {x : Double} (h : x.isFinite) : read? x.toText = some x := by
  cases x
  case nan => cases h
  case signed negative rank hr =>
    have hf : rank < infinityRank := by simpa [isFinite] using h
    obtain ⟨_, hs, hd⟩ := Layout.magnitude_spelled hf
    rw [toText_eq hf]
    cases negative
    case false => exact (read?_plus hs.plain).trans <| (hs.value false).trans <| by simp only [hd]
    case true  => exact (read?_minus hs.plain).trans <| (hs.value true).trans <| by simp only [hd]

end FilterQuery.Double
