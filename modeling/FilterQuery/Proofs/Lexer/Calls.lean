import FilterQuery.Proofs.Lexer.LongestMatch

namespace FilterQuery

namespace Lexer

open Text (size)

-- What a call gives, if it gives anything.
abbrev Item := Except ParseError Token

-- Whether the calls after it give nothing.
def Item.isLast : Item → Bool
  | .ok t => t.kind = .eol
  | .error _ => true

-- The lexer after that many calls.
def afterCalls (l : Lexer) : Nat → Lexer
  | 0 => l
  | n + 1 => (l.afterCalls n).next.2

-- What a call gives at the text `cs` with `start` bytes before it, and how it splits the text.
inductive Call : Nat → List Char → Item → List Char → List Char → Prop
  | eol : Call start [] (.ok (.endAt start)) [] []
  | gap (hc : isGap c) : Call (start + size [c]) cs item used left → Call start (c :: cs) item (c :: used) left
  | lexeme (hs : scan c cs = .lexeme kind text left) :
    Call start (c :: cs) (.ok ⟨kind, start, start + size text⟩) text left
  | fault (hc : ¬isGap c) (hs : scan c cs = .fault cause skipped culprit)
    (ht : skipped ++ culprit ++ left = c :: cs) :
    Call start (c :: cs) (.error ⟨cause, start + size skipped, start + size skipped + size culprit⟩)
      (skipped ++ culprit) left

theorem exists_call (start : Nat) (cs : List Char) : ∃ item used left, Call start cs item used left := by
  induction cs generalizing start
  case nil => exact ⟨_, _, _, .eol⟩
  case cons c cs ih =>
    by_cases hc : isGap c
    case pos =>
      have ⟨item, used, left, h⟩ := ih (start + size [c])
      exact ⟨item, c :: used, left, .gap hc h⟩
    case neg =>
      cases hs : scan c cs
      case lexeme => exact ⟨_, _, _, .lexeme hs⟩
      case fault =>
        have ⟨left, ht⟩ := (scan_fault hs).inText
        exact ⟨_, _, left, .fault hc hs ht⟩

theorem kind_ne_eol_of_scan (h : scan c cs = .lexeme kind text left) : kind ≠ .eol :=
  fun he => (he ▸ scan_lexed h : Lexed .eol)

namespace Call

theorem split (h : Call start cs item used left) : used ++ left = cs := by
  induction h
  case eol       => rfl
  case gap ih    => exact congrArg _ ih
  case lexeme hs => exact scan_append hs
  case fault ht  => exact ht

theorem next (h : Call start cs item used left) :
    Lexer.next ⟨cs, start, false⟩ = (some item, ⟨left, start + size used, item.isLast⟩) := by
  induction h
  case eol => rfl
  case gap hc _ ih =>
    rw [next_gap hc, ih]
    simp [Nat.add_assoc]
  case lexeme start hs =>
    rw [next_lexeme start hs]
    simp [Item.isLast, kind_ne_eol_of_scan hs]
  case fault skipped culprit left start hc hs ht =>
    have hd : (skipped ++ culprit ++ left).drop (skipped.length + culprit.length) = left := by
      rw [← List.length_append, List.drop_left]
    rw [next_fault start hc hs, ← ht, hd]
    simp [Item.isLast, Nat.add_assoc]

-- Only the end of the text can be found without reading anything.
theorem used_ne_nil (h : Call start cs item used left) (hl : item.isLast = false) : used ≠ [] := by
  cases h
  case eol       => cases hl
  case gap       => exact nofun
  case lexeme hs => exact scan_text_ne_nil hs
  case fault     => cases hl

-- The last item is the end of the text or an error.
theorem eq_last (h : Call start cs item used left) (hl : item.isLast) :
    item = .ok (.endAt (start + size cs)) ∨ ∃ error, item = .error error := by
  induction h
  case eol       => exact .inl rfl
  case gap ih    => simpa [Nat.add_assoc] using ih hl
  case lexeme hs => exact absurd (of_decide_eq_true hl) (kind_ne_eol_of_scan hs)
  case fault     => exact .inr ⟨_, rfl⟩

end Call

theorem next_finished {l : Lexer} (h : l.finished) : l.next = (none, l) :=
  if_pos h

-- A token uses up some of the text.
theorem offset_lt_next {l : Lexer} (h : l.next.1 = some (.ok t)) (ht : t.kind ≠ .eol) :
    l.offset < l.next.2.offset := by
  cases hf : l.finished
  case true => cases (congrArg Prod.fst (next_finished hf)).symm.trans h
  case false =>
    obtain ⟨cs, start, finished⟩ := l
    cases hf
    have ⟨item, used, left, hc⟩ := exists_call start cs
    rw [hc.next] at h ⊢
    cases h
    exact Nat.lt_add_of_pos_right <| size_pos <| hc.used_ne_nil (decide_eq_false ht)

theorem afterCalls_succ (l : Lexer) (n : Nat) : l.afterCalls (n + 1) = l.next.2.afterCalls n := by
  induction n
  case zero    => rfl
  case succ ih => rw [afterCalls, ih, afterCalls]

theorem afterCalls_finished {l : Lexer} (h : l.finished) (n : Nat) : l.afterCalls n = l := by
  induction n
  case zero    => rfl
  case succ ih => rw [afterCalls, ih, next_finished h]

-- What the calls give at the text `cs` with `start` bytes before it: some tokens and a last item, in this order.
structure Gives (start : Nat) (cs : List Char) (ts : List Token) (last : Item) : Prop where
  length_le : ts.length ≤ cs.length
  kind_ne   : ∀ t ∈ ts, t.kind ≠ .eol
  last_eq   : last = .ok (.endAt (start + size cs)) ∨ ∃ error, last = .error error
  calls     : ∀ n, (afterCalls ⟨cs, start, false⟩ n).next.1 = (ts.map .ok ++ [last])[n]?

namespace Gives

theorem single (h : Call start cs item used left) (hl : item.isLast) : Gives start cs [] item where
  length_le := Nat.zero_le _
  kind_ne _ := nofun
  last_eq   := h.eq_last hl
  calls n   := by
    cases n
    case zero => exact congrArg Prod.fst h.next
    case succ =>
      rw [afterCalls_succ, h.next, afterCalls_finished hl, next_finished hl]
      rfl

theorem cons (h : Call start cs (.ok t) used left) (ht : t.kind ≠ .eol)
    (hg : Gives (start + size used) left ts last) : Gives start cs (t :: ts) last where
  length_le := by
    have hl := List.length_pos_iff.mpr (h.used_ne_nil (decide_eq_false ht))
    have hs := congrArg List.length h.split
    have := hg.length_le
    simp only [List.length_append, List.length_cons] at hs ⊢
    omega
  kind_ne := List.forall_mem_cons.mpr ⟨ht, hg.kind_ne⟩
  last_eq := by
    rw [← h.split, Text.size_append, ← Nat.add_assoc]
    exact hg.last_eq
  calls n := by
    cases n
    case zero => exact congrArg Prod.fst h.next
    case succ n =>
      have hf : Item.isLast (.ok t) = false := decide_eq_false ht
      rw [afterCalls_succ, h.next, hf]
      exact hg.calls n

end Gives

-- Induction on the length, since a call may use up any part of the text.
theorem exists_gives (start : Nat) (cs : List Char) : ∃ ts last, Gives start cs ts last := by
  generalize hn : cs.length = n
  induction n using Nat.strongRecOn generalizing start cs
  case ind n ih =>
    have ⟨item, used, left, h⟩ := exists_call start cs
    cases hl : item.isLast
    case true => exact ⟨[], item, .single h hl⟩
    case false =>
      cases item
      case error => cases hl
      case ok t =>
        have hu := List.length_pos_iff.mpr (h.used_ne_nil hl)
        have hs := congrArg List.length h.split
        rw [List.length_append] at hs
        have ⟨ts, last, hg⟩ := ih left.length (by omega) (start + size used) left rfl
        exact ⟨t :: ts, last, hg.cons h (of_decide_eq_false hl)⟩

end Lexer
end FilterQuery
