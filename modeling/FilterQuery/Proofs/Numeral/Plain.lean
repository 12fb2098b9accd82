import FilterQuery.Numeral.Reading
import Mathlib.Data.List.TakeWhile

namespace FilterQuery

namespace Numeral

inductive Plain : List Char → Prop
  | whole (hw : isDigits ws) : Plain ws
  | point (hw : isDigits ws) (hf : isDigits fs) : Plain (ws ++ '.' :: fs)

inductive Signed : List Char → Prop
  | plus (h : Plain cs) : Signed cs
  | minus (h : Plain cs) : Signed ('-' :: cs)

theorem isDigits_iff : isDigits cs ↔ cs ≠ [] ∧ ∀ c ∈ cs, c.isDigit := by
  simp [isDigits]

theorem isDigits_append (hw : isDigits ws) (hf : ∀ c ∈ fs, c.isDigit) : isDigits (ws ++ fs) := by
  have ⟨hn, hd⟩ := isDigits_iff.mp hw
  exact isDigits_iff.mpr
    ⟨List.append_ne_nil_of_left_ne_nil hn _, List.forall_mem_append.mpr ⟨hd, hf⟩⟩

theorem isDigits_append_of_right (hw : ∀ c ∈ ws, c.isDigit) (hf : isDigits fs) :
    isDigits (ws ++ fs) := by
  have ⟨hn, hd⟩ := isDigits_iff.mp hf
  exact isDigits_iff.mpr
    ⟨List.append_ne_nil_of_right_ne_nil _ hn, List.forall_mem_append.mpr ⟨hw, hd⟩⟩

theorem isDigits_toDigits (n : Nat) : isDigits (Nat.toDigits 10 n) :=
  isDigits_iff.mpr ⟨Nat.toDigits_ne_nil, fun _ => Nat.isDigit_of_mem_toDigits (by decide) (by decide)⟩

theorem Plain.head_digit (h : Plain cs) : ∃ d ds, cs = d :: ds ∧ d.isDigit := by
  cases h
  case whole hw =>
    have ⟨hn, hd⟩ := isDigits_iff.mp hw
    have ⟨d, ds, hc⟩ := List.exists_cons_of_ne_nil hn
    exact ⟨d, ds, hc, hd d (hc ▸ List.mem_cons_self ..)⟩
  case point ws fs hw _ =>
    have ⟨hn, hd⟩ := isDigits_iff.mp hw
    have ⟨d, ds, hc⟩ := List.exists_cons_of_ne_nil hn
    exact ⟨d, ds ++ '.' :: fs, by rw [hc]; rfl, hd d (hc ▸ List.mem_cons_self ..)⟩

theorem exists_last_digit (h : isDigits cs) : ∃ ds d, cs = ds ++ [d] ∧ d.isDigit := by
  have ⟨hn, hd⟩ := isDigits_iff.mp h
  exact ⟨cs.dropLast, cs.getLast hn, (List.dropLast_concat_getLast hn).symm, hd _ (List.getLast_mem hn)⟩

theorem Plain.last_digit (h : Plain cs) : ∃ ds d, cs = ds ++ [d] ∧ d.isDigit := by
  cases h
  case whole hw => exact exists_last_digit hw
  case point ws fs _ hf =>
    have ⟨ds, d, hc, hd⟩ := exists_last_digit hf
    exact ⟨ws ++ '.' :: ds, d, by simp [hc], hd⟩

theorem Signed.last_digit (h : Signed cs) : ∃ ds d, cs = ds ++ [d] ∧ d.isDigit := by
  cases h
  case plus h => exact h.last_digit
  case minus h =>
    have ⟨ds, d, hc, hd⟩ := h.last_digit
    exact ⟨'-' :: ds, d, by simp [hc], hd⟩

theorem signed_toString (n : Int) : Signed (toString n).toList := by
  rw [Int.toString_eq_repr, Int.repr_eq_if]
  split
  case isTrue  => exact Nat.toList_repr ▸ .plus (.whole (isDigits_toDigits _))
  case isFalse =>
    rw [String.toList_append, Nat.toList_repr]
    exact .minus (.whole (isDigits_toDigits _))

theorem splitSign_plain (h : Plain cs) : splitSign cs = (false, cs) := by
  have ⟨d, ds, hc, hd⟩ := h.head_digit
  subst hc
  simp only [splitSign]
  split <;> first | rfl | (cases ‹_›; exact absurd hd (by decide))

end Numeral

namespace Double

open Numeral

theorem toLower_of_isDigit {c : Char} (h : c.isDigit) : c.toLower = c := by
  refine dif_neg fun ⟨hl, _⟩ => ?_
  have hr : c.val ≤ '9'.val := by simp_all [Char.isDigit]
  exact absurd (UInt32.le_trans hl hr) (by decide)

-- Infinity and what is no number are spelled by letters.
theorem lower_plain_ne (h : Plain cs) (hw : word.toList.head?.all (!·.isDigit)) :
    String.ofList (cs.map Char.toLower) ≠ word := by
  have ⟨d, ds, hc, hd⟩ := h.head_digit
  intro he
  rw [hc, List.map_cons, toLower_of_isDigit hd] at he
  simp [← he, hd] at hw

theorem read?_plus (h : Plain cs) : read? (.ofList cs) = readDecimal? false cs := by
  simp [read?, splitSign_plain h, lower_plain_ne h]

theorem read?_minus (h : Plain cs) : read? (.ofList ('-' :: cs)) = readDecimal? true cs := by
  simp [read?, splitSign, lower_plain_ne h]

theorem readDecimal?_whole (hw : isDigits ws) :
    readDecimal? negative ws = some (ofDecimal negative ws 0) := by
  have ⟨hn, hd⟩ := isDigits_iff.mp hw
  have ht : ws.takeWhile Char.isDigit = ws := List.takeWhile_eq_self_iff.mpr hd
  have hr : ws.dropWhile Char.isDigit = [] := List.dropWhile_eq_nil_iff.mpr hd
  simp [readDecimal?, splitFraction, exponent?, ht, hr, hn]

theorem readDecimal?_point (hw : isDigits ws) (hf : isDigits fs) :
    readDecimal? negative (ws ++ '.' :: fs) =
      some (ofDecimal negative (ws ++ fs) (0 - fs.length)) := by
  have ⟨hn, hd⟩ := isDigits_iff.mp hw
  have ⟨_, hd'⟩ := isDigits_iff.mp hf
  have ht : fs.takeWhile Char.isDigit = fs := List.takeWhile_eq_self_iff.mpr hd'
  have hr : fs.dropWhile Char.isDigit = [] := List.dropWhile_eq_nil_iff.mpr hd'
  have hp : '.'.isDigit = false := rfl
  simp [readDecimal?, splitFraction, exponent?, List.takeWhile_append_of_pos hd,
    List.dropWhile_append_of_pos hd, ht, hr, hn, hp]

theorem exists_readDecimal? (h : Plain cs) (negative : Bool) : ∃ x, readDecimal? negative cs = some x := by
  cases h
  case whole hw    => exact ⟨_, readDecimal?_whole hw⟩
  case point hw hf => exact ⟨_, readDecimal?_point hw hf⟩

theorem exists_read? (h : Signed cs) : ∃ x, read? (.ofList cs) = some x := by
  cases h
  case plus h  => exact read?_plus h ▸ exists_readDecimal? h false
  case minus h => exact read?_minus h ▸ exists_readDecimal? h true

end Double
end FilterQuery
