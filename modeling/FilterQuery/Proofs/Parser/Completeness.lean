import FilterQuery.Proofs.Grammar.Spelled
import FilterQuery.Proofs.Parser.Outcome

namespace FilterQuery

open Grammar

-- What a chain starts with is part of what it makes up.
theorem Grammar.Derives.tail_left (h : Derives context (.tail op left) ts e) :
    left.accessors ⊆ e.accessors ∧ left.nesting ≤ e.nesting := by
  generalize hx : Symbol.tail op left = x at h
  induction h generalizing left <;> cases hx
  case done => exact ⟨List.Subset.refl _, Nat.le_refl _⟩
  case more ih =>
    have ⟨ha, hn⟩ := ih rfl
    exact ⟨(List.append_subset.mp ha).1, Nat.le_trans (Nat.le_max_left ..) hn⟩

namespace Parser.State

-- The tokens of these kinds lead from one state to the other, whatever their spans are.
inductive Follows (context : Option Context) : State → List Token.Kind → State → Prop
  | refl : Follows context s [] s
  | step (next : Span → State) (ha : ∀ span, s.Advance context ⟨kind, span⟩ (next span))
    (hf : ∀ span, Follows context (next span) us s') : Follows context s (kind :: us) s'

namespace Follows

theorem next (ha : ∀ span, Advance context s ⟨kind, span⟩ s₁) (h : Follows context s₁ us s') :
    Follows context s (kind :: us) s' :=
  .step (fun _ => s₁) ha (fun _ => h)

theorem trans (h₁ : Follows context s₁ us s₂) (h₂ : Follows context s₂ vs s₃) :
    Follows context s₁ (us ++ vs) s₃ := by
  induction h₁
  case refl              => exact h₂
  case step next ha _ ih => exact .step next ha (fun span => ih span h₂)

theorem reads (h : Follows context s us s') (ht : ts.map Token.kind = us) :
    Reads context s ts s' := by
  induction h generalizing ts
  case refl =>
    cases List.map_eq_nil_iff.mp ht
    exact .refl
  case step ha _ ih =>
    cases ts <;> cases ht
    exact .step (ha _) (ih _ rfl)

end Follows

-- Behind the operand `e` of OR, with `left` before it.
def behind (s : State) (left : Option Expr) (e : Expr) : State :=
  { s with mode := .operandEnd e, group := { disjunct := left } }

variable {s : State}

theorem follows_field (context : Option Context) (hm : s.mode = .operand) (h : Field us left)
    (hf : left.Finite) :
    ∃ m : Mode, m.FieldRead left ∧ Follows context s us { s with mode := m } := by
  cases h
  case name => exact ⟨_, .name, .next (fun _ => .identifier hm) .refl⟩
  case key name raw =>
    refine ⟨_, .index, .next (fun _ => .identifier hm) ?_⟩
    refine .step _ (fun _ => .openIndex rfl) fun span => ?_
    exact .next (fun _ => .index rfl rfl) <| .next (fun _ => .closeIndex rfl) .refl
  case number text x name hx =>
    have hi : readIndex (.number text) = .ok (.number x) := by
      simp [readIndex, hx, Option.filter, hf x rfl]
    refine ⟨_, .index, .next (fun _ => .identifier hm) ?_⟩
    refine .step _ (fun _ => .openIndex rfl) fun span => ?_
    exact .next (fun _ => .index rfl hi) <| .next (fun _ => .closeIndex rfl) .refl

-- An item of a list is read, with `values` before it.
inductive AtItem (left : Accessor) (bracket : Nat) : List Value → Mode → Prop
  | first : AtItem left bracket [] (.firstItem left bracket)
  | next : AtItem left bracket values (.item left bracket values)

theorem advance_item (span : Span) (hm : AtItem left bracket values s.mode) (hv : Literal context kind v) :
    s.Advance context ⟨kind, span⟩ { s with mode := .itemEnd left bracket (values ++ [v]) } := by
  generalize e : s.mode = m at hm
  cases hm
  case first => exact .firstItem e (value?_eq_some_iff.mpr hv)
  case next  => exact .item e (value?_eq_some_iff.mpr hv)

theorem follows_items (hm : AtItem left bracket values s.mode) (hi : items ≠ [])
    (hv : List.Forall₂ (Literal context) items vs) :
    Follows context s (items.intersperse .comma)
      { s with mode := .itemEnd left bracket (values ++ vs) } := by
  induction hv generalizing s values
  case nil => contradiction
  case cons kind v items vs hv hvs ih =>
    have ha (span : Span) := advance_item span hm hv
    cases hvs
    case nil => exact .next ha .refl
    case cons hv' hvs' =>
      refine .next ha <| .next (fun _ => .comma rfl) ?_
      simpa using ih (s := { s with mode := .item left bracket (values ++ [v]) }) .next (by simp)

theorem follows_list (hm : s.mode = .listStart left)
    (hv : List.Forall₂ (Literal context) items values) :
    Follows context s (.openBracket :: (items.intersperse .comma ++ [.closeBracket]))
      (s.complete (.membership left values)) := by
  refine .step _ (fun _ => .openList hm) fun span => ?_
  cases hv
  case nil => exact .next (fun _ => .closeEmpty rfl) .refl
  case cons hv hvs =>
    have hi := follows_items (s := { s with mode := .firstItem left span.start }) .first
      (List.cons_ne_nil _ _) (.cons hv hvs)
    exact hi.trans <| .next (fun _ => .closeList rfl) .refl

theorem negate_not (e : Expr) (n : Nat) : negate (.not e) n = .not (negate e n) := by
  induction n
  case zero      => rfl
  case succ n ih => rw [negate, ih, negate]

theorem complete_not (s : State) (e : Expr) :
    complete { s with group := { s.group with negations := s.group.negations + 1 }
                      depth := s.depth + 1 } e = s.complete (.not e) := by
  simp [complete, Group.conjunction, negate_not, negate]

theorem complete_eq_behind (hg : s.group = { disjunct := left, conjunct := conjunct }) (e : Expr) :
    s.complete e = s.behind left (join .and conjunct e) := by
  simp [complete, behind, Group.conjunction, hg, negate]

-- Where the tokens of each symbol lead from `s`, if they spell `e`.
def Completes (context : Option Context) (s : State) (us : List Token.Kind) (e : Expr) :
    Symbol → Prop
  | .chain .or =>
    s.mode = .operand → s.group = {} →
      ∃ left operand, join .or left operand = e ∧ Follows context s us (s.behind left operand)
  | .chain .and =>
    ∀ left, s.mode = .operand → s.group = { disjunct := left } → Follows context s us (s.behind left e)
  | .tail .or e₀ =>
    ∀ left₀ operand₀, join .or left₀ operand₀ = e₀ →
      ∃ left operand, join .or left operand = e ∧
        Follows context (s.behind left₀ operand₀) us (s.behind left operand)
  | .tail .and e₀ => ∀ left, Follows context (s.behind left e₀) us (s.behind left e)
  | .negation | .primary => s.mode = .operand → Follows context s us (s.complete e)

namespace Completes

theorem chain (h₁ : s.Completes context ts left (.operand op))
    (h₂ : s.Completes context us e (.tail op left)) :
    s.Completes context (ts ++ us) e (.chain op) := by
  cases op
  case or =>
    intro hm hg
    have ⟨left', operand, he, h₂⟩ := h₂ none left rfl
    exact ⟨left', operand, he, (h₁ none hm hg).trans h₂⟩
  case and =>
    intro left₀ hm hg
    exact (complete_eq_behind hg _ ▸ h₁ hm).trans (h₂ left₀)

theorem done : s.Completes context [] e (.tail op e) := by
  cases op
  case or  => exact fun left operand he => ⟨left, operand, he, .refl⟩
  case and => exact fun _ => .refl

theorem more (h₁ : ∀ s₁ : State, s₁.depth = s.depth → s₁.Completes context ts right (.operand op))
    (h₂ : s.Completes context us e (.tail op (.binary left op right))) :
    s.Completes context (.connective op :: (ts ++ us)) e (.tail op left) := by
  cases op
  case or =>
    rintro left₀ operand₀ rfl
    let s₁ : State :=
      { s with mode := .operand, group := { disjunct := some (join .or left₀ operand₀) } }
    have ⟨left', operand, he, h₂⟩ := h₂ (some _) right rfl
    have h := (h₁ s₁ rfl _ rfl rfl).trans h₂
    exact ⟨left', operand, he, .next (fun _ => .connective rfl) h⟩
  case and =>
    intro left₀
    let s₁ : State :=
      { s with mode := .operand, group := { disjunct := left₀, conjunct := some left } }
    have h := (complete_eq_behind (s := s₁) rfl right ▸ h₁ s₁ rfl rfl).trans (h₂ left₀)
    exact .next (fun _ => .connective rfl) h

theorem not (hd : s.depth < maxDepth)
    (h : ∀ s₁ : State, s₁.depth = s.depth + 1 → s₁.Completes context ts e .negation) :
    s.Completes context (.not :: ts) (.not e) .negation := by
  intro hm
  exact .next (fun _ => .not hm hd) (complete_not s e ▸ h _ rfl hm)

theorem paren (hd : s.depth < maxDepth)
    (h : ∀ s₁ : State, s₁.depth = s.depth + 1 → s₁.Completes context ts e (.chain .or)) :
    s.Completes context (.openParen :: (ts ++ [.closeParen])) (.paren e) .primary := by
  intro hm
  refine .step _ (fun _ => .openParen hm hd) fun span => ?_
  let s₁ : State :=
    { s with group := {}, outer := (span.start, s.group) :: s.outer, depth := s.depth + 1 }
  have ⟨left, operand, he, hf⟩ := h s₁ rfl hm rfl
  subst he
  exact hf.trans <| .next (fun _ => .closeParen rfl rfl) .refl

theorem condition (h : Field ts left) (hf : left.Finite) (hv : Literal context kind v) :
    s.Completes context (ts ++ [.comparison op, kind]) (.condition left op v) .primary := by
  intro hm
  have ⟨m, hr, h⟩ := follows_field context hm h hf
  have hv := value?_eq_some_iff.mpr hv
  exact h.trans <| .next (fun _ => .comparison hr) <| .next (fun _ => .value rfl hv) .refl

theorem membership (h : Field ts left) (hf : left.Finite)
    (hv : List.Forall₂ (Literal context) items values) :
    s.Completes context
      (ts ++ .membership :: .openBracket :: (items.intersperse .comma ++ [.closeBracket]))
      (.membership left values) .primary := by
  intro hm
  have ⟨m, hr, h⟩ := follows_field context hm h hf
  exact h.trans <| .next (fun _ => .membership hr) <| follows_list rfl hv

end Completes

theorem completes (h : Derives context x us e) (hf : e.Finite)
    (hn : s.depth + e.nesting ≤ maxDepth) : s.Completes context us e x := by
  induction h generalizing s
  case chain ht ih₁ ih₂ =>
    have ⟨ha, hl⟩ := ht.tail_left
    exact .chain (ih₁ (fun a h => hf a <| ha h) (by omega)) (ih₂ hf hn)
  case done => exact .done
  case more ht ih₁ ih₂ =>
    have ⟨ha, hl⟩ := ht.tail_left
    have hr := Nat.le_trans (Nat.le_max_right ..) hl
    refine .more (fun s₁ hs => ?_) (ih₂ hf hn)
    exact ih₁ (fun a h => hf a <| ha <| List.mem_append_right _ h) (by omega)
  case not ih =>
    simp only [Expr.nesting] at hn
    exact .not (by omega) fun s₁ hs => ih hf (by omega)
  case primary ih => exact ih hf hn
  case paren ih =>
    simp only [Expr.nesting] at hn
    exact .paren (by omega) fun s₁ hs => ih hf (by omega)
  case boolean          => exact fun hm => .next (fun _ => .boolean hm) .refl
  case condition h hv   => exact .condition h (hf _ <| List.mem_singleton_self _) hv
  case membership h hv  => exact .membership h (hf _ <| List.mem_singleton_self _) hv

-- The converse of `Accepts.spelled`.
theorem accepts_of_spelled (h : Spelled context 0 (.chain .or) us e) (ht : ts.map Token.kind = us)
    (hv : ∀ t ∈ vs.head?, t.kind = .eol) : Accepts context {} (ts ++ vs) e := by
  have ⟨left, operand, he, hf⟩ := completes (s := {}) h.derives h.finite h.shallow rfl rfl
  exact ⟨ts, vs, _, rfl, hv, hf.reads ht, rfl, operand, rfl, he⟩
end Parser.State
end FilterQuery
