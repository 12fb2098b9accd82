import FilterQuery.Sql.Lowering
import Mathlib.Data.List.Forall2

namespace FilterQuery.Sql

-- Values with their literals.
def Literals : List Value → List Literal → Prop :=
  List.Forall₂ fun v l => literal v = .ok l

inductive Lowers (table : Table) : Expr → Predicate → Prop
  | compare (hk : right.kind ≠ .null) (hr : relation? op = some relation) (hl : literal right = .ok l) :
    Lowers table (.condition { field } op right) (.compare (table.column field) relation l)
  | contains (hk : right.kind ≠ .null) (hf : right.kind ≠ .function) :
    Lowers table (.condition { field } .contains right)
      (.like (table.column field) (containsPattern right.text))
  | isNull (hk : right.kind = .null) :
    Lowers table (.condition { field } .eq right) (.isNull (table.column field))
  | isNotNull (hk : right.kind = .null) :
    Lowers table (.condition { field } .neq right) (.isNotNull (table.column field))
  | amongNothing : Lowers table (.membership { field } []) (.constant false)
  | amongNull (hv : values ≠ []) (hn : ∀ v ∈ values, v.kind = .null) :
    Lowers table (.membership { field } values) (.isNull (table.column field))
  | among (hv : values ≠ []) (hn : ∀ v ∈ values, v.kind ≠ .null) (hl : Literals values ls) :
    Lowers table (.membership { field } values) (.among (table.column field) ls)
  | amongOrNull (hn : ∃ v ∈ values, v.kind = .null)
    (hl : Literals (values.filter (·.kind ≠ .null)) ls) (hne : ls ≠ []) :
    Lowers table (.membership { field } values)
      (.binary (.among (table.column field) ls) .or (.isNull (table.column field)))
  | binary : Lowers table left p → Lowers table right q →
    Lowers table (.binary left op right) (.binary p op q)
  | not : Lowers table e p → Lowers table (.not e) (.not p)
  | paren : Lowers table e p → Lowers table (.paren e) p
  | boolean : Lowers table (.boolean b) (.constant b)

variable {table : Table}

theorem bind_eq_ok_iff {x : Except ε α} {f : α → Except ε β} :
    x >>= f = .ok b ↔ ∃ a, x = .ok a ∧ f a = .ok b := by
  cases x <;> simp [bind, Except.bind]

theorem pure_eq_ok_iff {a b : α} : (pure a : Except ε α) = .ok b ↔ a = b := by
  simp [pure, Except.pure]

theorem mapM_literal_eq_ok_iff : values.mapM literal = .ok ls ↔ Literals values ls := by
  induction values generalizing ls
  case nil     => simp [Literals, pure, Except.pure, eq_comm]
  case cons ih =>
    simp only [Literals, List.mapM_cons, bind_eq_ok_iff, pure_eq_ok_iff, ih, List.forall₂_cons_left_iff,
      exists_and_left, @eq_comm _ ls]

theorem kind_ne_null_of_literal (h : literal v = .ok l) : v.kind ≠ .null := by
  intro hk
  simp [literal, hk] at h

theorem Literals.eq_nil_iff (h : Literals values ls) : values = [] ↔ ls = [] := by
  cases h <;> simp

theorem exists_literals_iff : (∃ ls, Literals values ls) ↔ ∀ v ∈ values, ∃ l, literal v = .ok l := by
  induction values
  case nil     => simp [Literals]
  case cons ih => simp [← ih, Literals, List.forall₂_cons_left_iff]

theorem column_eq_ok_iff :
    column table accessor = .ok name ↔
      ∃ field, accessor = { field } ∧ name = table.column field := by
  obtain ⟨field, index⟩ := accessor
  cases index <;> simp [column, eq_comm]

theorem comparison_eq_ok_iff :
    comparison table left op right = .ok p ↔ Lowers table (.condition left op right) p := by
  simp only [comparison, bind_eq_ok_iff, column_eq_ok_iff]
  constructor
  case mp =>
    intro ⟨_, ⟨field, hl, hn⟩, h⟩
    subst hl hn
    split at h
    case isTrue hk =>
      cases op <;> cases h
      case eq  => exact .isNull hk
      case neq => exact .isNotNull hk
    case isFalse hk =>
      cases hr : relation? op <;> simp only [hr] at h
      case none =>
        split at h
        case isTrue => cases h
        case isFalse hf =>
          cases op <;> cases hr
          cases h
          exact .contains hk hf
      case some =>
        have ⟨l, hl, h⟩ := bind_eq_ok_iff.mp h
        cases h
        exact .compare hk hr hl
  case mpr =>
    intro h
    cases h
    case compare hk hr hl => exact ⟨_, ⟨_, rfl, rfl⟩, by simp [hk, hr, hl]⟩
    case contains hk hf   => exact ⟨_, ⟨_, rfl, rfl⟩, by simp [hk, hf, relation?, pure_eq_ok_iff]⟩
    case isNull hk        => exact ⟨_, ⟨_, rfl, rfl⟩, by simp [hk, pure_eq_ok_iff]⟩
    case isNotNull hk     => exact ⟨_, ⟨_, rfl, rfl⟩, by simp [hk, pure_eq_ok_iff]⟩

theorem membership_eq_ok_iff :
    membership table left values = .ok p ↔ Lowers table (.membership left values) p := by
  simp only [membership, bind_eq_ok_iff, column_eq_ok_iff, mapM_literal_eq_ok_iff, pure_eq_ok_iff]
  constructor
  case mp =>
    intro ⟨_, ⟨field, hl, hn⟩, ls, hs, h⟩
    subst hl hn
    cases ls <;> cases hn : values.any (·.kind = .null) <;> simp only [hn] at h <;> subst h
    case nil.false =>
      have hn : ∀ v ∈ values, v.kind ≠ .null := by simpa using hn
      rw [List.filter_eq_self.mpr fun v hv => by simpa using hn v hv] at hs
      exact hs.eq_nil_iff.mpr rfl ▸ .amongNothing
    case nil.true =>
      have hs : ∀ v ∈ values, v.kind = .null := by simpa using hs.eq_nil_iff.mpr rfl
      refine .amongNull ?_ hs
      rintro rfl
      exact nomatch hn
    case cons.false =>
      have hn : ∀ v ∈ values, v.kind ≠ .null := by simpa using hn
      rw [List.filter_eq_self.mpr fun v hv => by simpa using hn v hv] at hs
      exact .among (fun h => nomatch hs.eq_nil_iff.mp h) hn hs
    case cons.true =>
      have hn : ∃ v ∈ values, v.kind = .null := by simpa using hn
      exact .amongOrNull hn hs nofun
  case mpr =>
    intro h
    cases h
    all_goals refine ⟨_, ⟨_, rfl, rfl⟩, ?_⟩
    case amongNothing => exact ⟨[], .nil, rfl⟩
    case amongNull hv hn =>
      have hf : values.filter (·.kind ≠ .null) = [] := by simpa using hn
      have ha : values.any (·.kind = .null) := by
        have ⟨v, hv⟩ := List.exists_mem_of_ne_nil _ hv
        simpa using ⟨v, hv, hn v hv⟩
      exact ⟨[], hf ▸ .nil, by rw [ha]⟩
    case among hv hn hl =>
      have hf : values.filter (·.kind ≠ .null) = values := by simpa using hn
      have ha : values.any (·.kind = .null) = false := by simpa using hn
      have hne := hv ∘ hl.eq_nil_iff.mpr
      exact ⟨_, hf ▸ hl, by simp only [ha]⟩
    case amongOrNull hne hn hl =>
      have ha : values.any (·.kind = .null) := by simpa using hn
      exact ⟨_, hl, by simp only [ha]⟩

-- Whether a membership becomes a condition does not depend on the order of its values.
theorem exists_membership_eq_ok_iff :
    (∃ p, membership table left values = .ok p) ↔
      (∃ name, column table left = .ok name) ∧
        ∀ v ∈ values, v.kind ≠ .null → ∃ l, literal v = .ok l := by
  have hl := @exists_literals_iff (values.filter (·.kind ≠ .null))
  simp only [List.mem_filter, decide_eq_true_eq, and_imp] at hl
  simp only [membership, bind_eq_ok_iff, pure_eq_ok_iff, mapM_literal_eq_ok_iff, ← hl]
  constructor
  case mp  => intro ⟨_, name, hn, ls, hs, _⟩; exact ⟨⟨name, hn⟩, ls, hs⟩
  case mpr => intro ⟨⟨name, hn⟩, ls, hs⟩; exact ⟨_, name, hn, ls, hs, rfl⟩

theorem toPredicate_eq_ok_iff : toPredicate table e = .ok p ↔ Lowers table e p := by
  induction e generalizing p
  case condition => exact comparison_eq_ok_iff
  case membership => exact membership_eq_ok_iff
  case binary ihl ihr =>
    simp only [toPredicate, bind_eq_ok_iff, pure_eq_ok_iff, ihl, ihr]
    constructor
    case mp  => intro ⟨_, hl, _, hr, h⟩; exact h ▸ .binary hl hr
    case mpr => intro (.binary hl hr); exact ⟨_, hl, _, hr, rfl⟩
  case not ih =>
    simp only [toPredicate, bind_eq_ok_iff, pure_eq_ok_iff, ih]
    constructor
    case mp  => intro ⟨_, h, hp⟩; exact hp ▸ .not h
    case mpr => intro (.not h); exact ⟨_, h, rfl⟩
  case paren ih => exact ih.trans ⟨.paren, fun (.paren h) => h⟩
  case boolean =>
    simp only [toPredicate, Except.ok.injEq]
    constructor
    case mp  => exact fun h => h ▸ .boolean
    case mpr => exact fun (.boolean) => rfl

namespace Lowers

theorem unique (h : Lowers table e p) (h' : Lowers table e q) : p = q :=
  Except.ok.inj <| (toPredicate_eq_ok_iff.mpr h).symm.trans (toPredicate_eq_ok_iff.mpr h')

theorem mem_toOption (h : Lowers table e p) : p ∈ (toPredicate table e).toOption := by
  rw [toPredicate_eq_ok_iff.mpr h]
  rfl

end Lowers
end FilterQuery.Sql
