import FilterQuery.Proofs.RoundTrip
import FilterQuery.Proofs.Sql.Lowering
import FilterQuery.Sql.Text

namespace FilterQuery

-- A field, and what it is compared with.
structure Leaf where
  left : Accessor
  operation : Operation
  values : List Value
  deriving DecidableEq

namespace Expr

def leaves : Expr → List Leaf
  | condition left op right => [⟨left, .comparison op, [right]⟩]
  | membership left values => [⟨left, .membership, values⟩]
  | binary left _ right => left.leaves ++ right.leaves
  | not e | paren e => e.leaves
  | boolean _ => []

theorem values_eq_leaves (e : Expr) : e.values = e.leaves.flatMap Leaf.values := by
  induction e <;> simp_all [values, leaves]

end Expr

namespace Sql

open Numeral (int64?)

-- A reason why there is no condition, and what is said about it.
structure Defect where
  cause : CompileError
  text : String
  deriving DecidableEq

def indexDefect? (left : Accessor) : Option Defect :=
  if left.index = none then none
  else some ⟨.indexAccess left, "Index access on '" ++ left.canonical ++ "' cannot be compiled to SQL"⟩

-- NULL can be tested for, and be among other values.
def nullDefect? (operation : Operation) (v : Value) : Option Defect :=
  match operation with
  | .comparison .eq | .comparison .neq | .membership => none
  | .comparison op =>
    if v.kind = .null then
      some ⟨.nullOperand op, "Operator '" ++ op.symbol ++ "' cannot be applied to null"⟩
    else none

-- The search in a text takes a number as it is written.
def valueDefect? (operation : Operation) (v : Value) : Option Defect :=
  match v.kind with
  | .function =>
    some ⟨.unresolvedFunction v.text,
      "Function '" ++ v.text ++ "' must be resolved through the parse context before compiling to SQL"⟩
  | .number =>
    if operation ≠ .comparison .contains ∧ int64? v.text = none ∧ Double.read? v.text = none then
      some ⟨.invalidNumber v.text, "Invalid number '" ++ v.text ++ "'"⟩
    else none
  | _ => none

-- What is wrong with a leaf, in the order in which it is noticed.
def defects (leaf : Leaf) : List Defect :=
  (indexDefect? leaf.left).toList ++
    leaf.values.filterMap (nullDefect? leaf.operation) ++ leaf.values.filterMap (valueDefect? leaf.operation)

theorem indexDefect?_eq_some (h : indexDefect? left = some d) :
    d.cause = .indexAccess left ∧ d.text = d.cause.message := by
  simp only [indexDefect?] at h
  split at h <;> cases h
  exact ⟨rfl, rfl⟩

theorem nullDefect?_eq_some (h : nullDefect? operation v = some d) :
    (∃ op, d.cause = .nullOperand op) ∧ d.text = d.cause.message := by
  cases operation
  case membership    => cases h
  case comparison op =>
    cases op <;> simp only [nullDefect?, reduceCtorEq] at h <;> split at h <;> cases h <;> exact ⟨⟨_, rfl⟩, rfl⟩

theorem valueDefect?_text (h : valueDefect? operation v = some d) : d.text = d.cause.message := by
  cases hk : v.kind <;> simp only [valueDefect?, hk, reduceCtorEq] at h
  case function => cases h; rfl
  case number =>
    split at h <;> cases h
    rfl

-- What is said is the message of the error.
theorem Defect.text_eq (h : d ∈ defects leaf) : d.text = d.cause.message := by
  simp only [defects, List.mem_append, List.mem_filterMap, Option.mem_toList] at h
  rcases h with (h | ⟨v, _, h⟩) | ⟨v, _, h⟩
  case inl.inl => exact (indexDefect?_eq_some h).right
  case inl.inr => exact (nullDefect?_eq_some h).right
  case inr     => exact valueDefect?_text h

def reason? : Except ε α → Option ε
  | .error err => some err
  | .ok _ => none

theorem reason?_eq_some_iff {x : Except ε α} : reason? x = some err ↔ x = .error err := by
  cases x <;> simp [reason?]

-- What comes later is not at fault if it depends on a result that is not there.
theorem reason?_bind {x : Except ε α} {f : α → Except ε β} (h : ∀ a, reason? (f a) = later) :
    reason? (x >>= f) = (reason? x).or later := by
  cases x
  case error => rfl
  case ok a  => exact h a

theorem reason?_bind_pure (x : Except ε α) (f : α → β) : reason? (x >>= fun a => pure (f a)) = reason? x := by
  cases x <;> rfl

theorem reason?_mapM (f : α → Except ε β) (xs : List α) :
    reason? (xs.mapM f) = (xs.filterMap (reason? ∘ f)).head? := by
  induction xs
  case nil => rfl
  case cons x xs ih =>
    rw [List.mapM_cons, reason?_bind fun a => (reason?_bind_pure ..).trans ih, List.filterMap_cons]
    cases h : f x <;> simp [reason?, h]

theorem reason?_column (table : Table) (accessor : Accessor) :
    reason? (column table accessor) = (indexDefect? accessor).map Defect.cause := by
  obtain ⟨field, index⟩ := accessor
  cases index <;> rfl

theorem reason?_literal (operation : Operation) (hn : v.kind ≠ .null) (ho : operation ≠ .comparison .contains) :
    reason? (literal v) = (valueDefect? operation v).map Defect.cause := by
  cases hk : v.kind <;> simp only [literal, valueDefect?, hk]
  case null   => contradiction
  case number => cases int64? v.text <;> cases Double.read? v.text <;> simp [reason?, ho]
  all_goals rfl

theorem head?_defects (leaf : Leaf) :
    (defects leaf).head?.map Defect.cause = ((indexDefect? leaf.left).map Defect.cause).or
      (((leaf.values.filterMap (nullDefect? leaf.operation)).head?.map Defect.cause).or
        ((leaf.values.filterMap (valueDefect? leaf.operation)).head?.map Defect.cause)) := by
  rw [defects, List.append_assoc, List.head?_append, List.head?_append, Option.head?_toList, Option.map_or,
    Option.map_or]

theorem head?_filterMap_singleton (f : α → Option β) (a : α) : ([a].filterMap f).head? = f a := by
  cases h : f a <;> simp [h]

theorem reason?_comparison (table : Table) (left : Accessor) (op : Comparison) (right : Value) :
    reason? (comparison table left op right) =
      (defects ⟨left, .comparison op, [right]⟩).head?.map Defect.cause := by
  rw [head?_defects, head?_filterMap_singleton, head?_filterMap_singleton, ← reason?_column table, comparison]
  refine reason?_bind fun name => ?_
  by_cases hn : right.kind = .null
  case pos => cases op <;> simp [hn, nullDefect?, valueDefect?] <;> rfl
  case neg =>
    have hd : nullDefect? (.comparison op) right = none := by cases op <;> simp [nullDefect?, hn]
    simp only [hn, if_false, hd, Option.map_none, Option.none_or]
    cases hr : relation? op
    case some relation =>
      have ho : Operation.comparison op ≠ .comparison .contains := by rintro ⟨⟩; cases hr
      exact (reason?_bind_pure ..).trans (reason?_literal _ hn ho)
    case none =>
      cases op <;> cases hr
      by_cases hf : right.kind = .function
      case pos => simp only [hf, if_true, valueDefect?]; rfl
      case neg => cases hk : right.kind <;> simp_all [valueDefect?] <;> rfl

theorem head?_map_filterMap (f : α → Option β) (g : β → γ) (as : List α) :
    (as.filterMap f).head?.map g = (as.filterMap fun a => (f a).map g).head? := by
  rw [← List.head?_map, List.map_filterMap]

theorem reason?_membership (table : Table) (left : Accessor) (values : List Value) :
    reason? (membership table left values) = (defects ⟨left, .membership, values⟩).head?.map Defect.cause := by
  have hn : values.filterMap (nullDefect? .membership) = [] := by simp [nullDefect?]
  rw [head?_defects, ← reason?_column table, membership, hn, head?_map_filterMap]
  refine reason?_bind fun name => (reason?_bind_pure ..).trans ?_
  rw [reason?_mapM, List.filterMap_filter]
  congr 2
  funext v
  by_cases hk : v.kind = .null
  case pos => simp [hk, valueDefect?]
  case neg => simp [hk, reason?_literal .membership hk (by simp)]

-- The operands of an operator are lowered one after the other, and nothing is lowered behind a defect.
theorem reason?_toPredicate (table : Table) (e : Expr) :
    reason? (toPredicate table e) = (e.leaves.flatMap defects).head?.map Defect.cause := by
  induction e
  case condition  => simpa [toPredicate, Expr.leaves] using reason?_comparison ..
  case membership => simpa [toPredicate, Expr.leaves] using reason?_membership ..
  case binary left op right ihl ihr =>
    rw [toPredicate, Expr.leaves, List.flatMap_append, List.head?_append, Option.map_or, ← ihl]
    exact reason?_bind fun p => (reason?_bind_pure ..).trans ihr
  case not e ih =>
    rw [toPredicate, Expr.leaves, ← ih]
    exact reason?_bind_pure ..
  case paren ih => exact ih
  case boolean => rfl

theorem reason?_compile (table : Table) (e : Expr) :
    reason? (compile table (some e)) = (e.leaves.flatMap defects).head?.map Defect.cause := by
  rw [← reason?_toPredicate table, compile]
  cases toPredicate table e <;> rfl

theorem mem_of_head?_defects {leaves : List Leaf} (h : (leaves.flatMap defects).head? = some d) :
    ∃ leaf ∈ leaves, d ∈ defects leaf :=
  List.mem_flatMap.mp <| List.mem_of_head? h

-- The error and its message are those of the first defect.
theorem compile_eq_error_message_iff (e : Expr) (table : Table) (err : CompileError) (text : String) :
    compile table (some e) = .error err ∧ err.message = text ↔
      (e.leaves.flatMap defects).head? = some ⟨err, text⟩ := by
  rw [← reason?_eq_some_iff, reason?_compile table, Option.map_eq_some_iff]
  have ht (d : Defect) (hd : (e.leaves.flatMap defects).head? = some d) : d.text = d.cause.message := by
    have ⟨leaf, _, hm⟩ := mem_of_head?_defects hd
    exact Defect.text_eq hm
  constructor
  case mp =>
    rintro ⟨⟨d, hd, rfl⟩, rfl⟩
    rw [hd, ← ht d hd]
  case mpr => exact fun hd => ⟨⟨_, hd, rfl⟩, (ht _ hd).symm⟩

theorem exists_mem_filterMap_iff {f : α → Option β} {as : List α} :
    (∃ b, b ∈ as.filterMap f) ↔ ∃ a ∈ as, ∃ b, f a = some b := by
  simp only [List.mem_filterMap]
  constructor
  case mp  => exact fun ⟨b, a, ha, hb⟩ => ⟨a, ha, b, hb⟩
  case mpr => exact fun ⟨a, ha, b, hb⟩ => ⟨b, a, ha, hb⟩

theorem exists_indexDefect_iff : (∃ d, indexDefect? left = some d) ↔ left.index ≠ none := by
  by_cases hi : left.index = none <;> simp [indexDefect?, hi]

theorem exists_nullDefect_iff : (∃ d, nullDefect? operation v = some d) ↔
    v.kind = .null ∧ ∃ op, operation = .comparison op ∧ op ≠ .eq ∧ op ≠ .neq := by
  cases operation
  case membership    => simp [nullDefect?]
  case comparison op => cases op <;> simp [nullDefect?]

theorem exists_valueDefect_iff : (∃ d, valueDefect? operation v = some d) ↔
    v.kind = .function ∨ operation ≠ .comparison .contains ∧
      v.kind = .number ∧ int64? v.text = none ∧ Double.read? v.text = none := by
  cases hk : v.kind <;> simp [valueDefect?, hk]

theorem exists_defect_iff {leaf : Leaf} : (∃ d, d ∈ defects leaf) ↔
    leaf.left.index ≠ none ∨
    (∃ op, leaf.operation = .comparison op ∧ op ≠ .eq ∧ op ≠ .neq ∧ ∃ v ∈ leaf.values, v.kind = .null) ∨
    (∃ v ∈ leaf.values, v.kind = .function) ∨
    leaf.operation ≠ .comparison .contains ∧
      ∃ v ∈ leaf.values, v.kind = .number ∧ int64? v.text = none ∧ Double.read? v.text = none := by
  simp only [defects, List.mem_append, Option.mem_toList, exists_or, exists_mem_filterMap_iff,
    exists_indexDefect_iff, exists_nullDefect_iff, exists_valueDefect_iff, or_assoc]
  refine or_congr_right (or_congr ?null ?value)
  case null =>
    constructor
    case mp  => exact fun ⟨v, hv, hk, op, h⟩ => ⟨op, h.1, h.2.1, h.2.2, v, hv, hk⟩
    case mpr => exact fun ⟨op, ho, he, hn, v, hv, hk⟩ => ⟨v, hv, hk, op, ho, he, hn⟩
  case value =>
    simp only [and_or_left, exists_or]
    refine or_congr_right ?_
    constructor
    case mp  => exact fun ⟨v, hv, ho, h⟩ => ⟨ho, v, hv, h⟩
    case mpr => exact fun ⟨ho, v, hv, h⟩ => ⟨v, hv, ho, h⟩

theorem exists_head?_iff {as : List α} : (∃ a, as.head? = some a) ↔ ∃ a, a ∈ as := by
  cases as <;> simp

theorem exists_compile_error_iff (e : Expr) (table : Table) :
    (∃ err, compile table (some e) = .error err) ↔ ∃ leaf ∈ e.leaves, ∃ d, d ∈ defects leaf := by
  simp only [← reason?_eq_some_iff, reason?_compile, Option.map_eq_some_iff]
  constructor
  case mp =>
    rintro ⟨_, d, hd, -⟩
    have ⟨leaf, hl, hm⟩ := mem_of_head?_defects hd
    exact ⟨leaf, hl, d, hm⟩
  case mpr =>
    intro ⟨leaf, hl, d, hm⟩
    have ⟨d', hd⟩ := exists_head?_iff.mpr ⟨d, List.mem_flatMap_of_mem hl hm⟩
    exact ⟨d'.cause, d', hd, rfl⟩

theorem unread_of_valueDefect? (h : valueDefect? operation v = some d) (hd : d.cause = .invalidNumber text) :
    v.kind = .number ∧ Double.read? v.text = none := by
  cases hk : v.kind <;> simp only [valueDefect?, hk, reduceCtorEq] at h
  case function => cases h; cases hd
  case number =>
    split at h <;> cases h
    case isTrue hr => exact ⟨rfl, hr.2.2⟩

theorem unread_of_invalidNumber (h : d ∈ defects leaf) (hd : d.cause = .invalidNumber text) :
    ∃ v ∈ leaf.values, v.kind = .number ∧ Double.read? v.text = none := by
  simp only [defects, List.mem_append, List.mem_filterMap, Option.mem_toList] at h
  rcases h with (h | ⟨v, _, h⟩) | ⟨v, hv, h⟩
  case inl.inl => exact nomatch hd.symm.trans (indexDefect?_eq_some h).left
  case inl.inr =>
    have ⟨op, hn⟩ := (nullDefect?_eq_some h).left
    exact nomatch hd.symm.trans hn
  case inr => exact ⟨v, hv, unread_of_valueDefect? h hd⟩

-- The numbers of a parsed expression are numerals of its text, or were written for numbers.
theorem read?_of_parse (h : parse text context config = .ok (some e)) (hv : v ∈ e.values)
    (hk : v.kind = .number) : Double.read? v.text ≠ none := by
  have hw := (wellFormed_of_parse h).values v hv
  simp only [Value.WellFormed, hk] at hw
  obtain ⟨x, hx⟩ := Double.exists_read? hw
  rw [String.ofList_toList] at hx
  simp [hx]

-- The error is the first defect in the order of the leaves, and its message says so; there is one just if a field
-- has an index, NULL is compared otherwise than by `=` and `!=`, a call has no value or a number cannot be read. The
-- last does not happen to an expression that was parsed.
theorem compile_eq_error_iff (e : Expr) (table : Table) :
    (∀ err text, compile table (some e) = .error err ∧ err.message = text ↔
      (e.leaves.flatMap defects).head? = some ⟨err, text⟩) ∧
    ((∃ err, compile table (some e) = .error err) ↔ ∃ leaf ∈ e.leaves,
      leaf.left.index ≠ none ∨
      (∃ op, leaf.operation = .comparison op ∧ op ≠ .eq ∧ op ≠ .neq ∧ ∃ v ∈ leaf.values, v.kind = .null) ∨
      (∃ v ∈ leaf.values, v.kind = .function) ∨
      leaf.operation ≠ .comparison .contains ∧
        ∃ v ∈ leaf.values, v.kind = .number ∧ int64? v.text = none ∧ Double.read? v.text = none) ∧
    ∀ text context config, parse text context config = .ok (some e) →
      (∀ v ∈ e.values, v.kind = .number → Double.read? v.text ≠ none) ∧
      ∀ number, compile table (some e) ≠ .error (.invalidNumber number) := by
  refine ⟨compile_eq_error_message_iff e table, ?defects, ?parsed⟩
  case defects => simp only [exists_compile_error_iff, exists_defect_iff]
  case parsed =>
    intro text context config h
    refine ⟨fun v => read?_of_parse h, fun number hc => ?_⟩
    have hd := (compile_eq_error_message_iff e table _ _).mp ⟨hc, rfl⟩
    have ⟨leaf, hl, hm⟩ := mem_of_head?_defects hd
    have ⟨v, hv, hk, hr⟩ := unread_of_invalidNumber hm rfl
    have hv : v ∈ e.values := e.values_eq_leaves ▸ List.mem_flatMap_of_mem hl hv
    exact read?_of_parse h hv hk hr

-- The call has a value, and of the two defects of the other leaf the index is the first.
theorem compile_eq_error_iff_resolved :
    let context : Context := ⟨[("LIMIT()", .number (.integer (-5)))]⟩
    let field : Accessor := ⟨"b", some (.key "k")⟩
    let e : Expr := .binary (.condition ⟨"a", none⟩ .le (.number "-5")) .and (.condition field .gt .null)
    let table : Table := { name := "runs" }
    parse "a <= LIMIT() AND b[\"k\"] > null" (some context) = .ok (some e) ∧
    (compile table (some e) = .error (.indexAccess field) ∧
      (CompileError.indexAccess field).message = "Index access on 'b[\"k\"]' cannot be compiled to SQL") ∧
    (∀ v ∈ e.values, v.kind = .number → Double.read? v.text ≠ none) ∧
    ∀ number, compile table (some e) ≠ .error (.invalidNumber number) := by
  intro context field e table
  have h : parse "a <= LIMIT() AND b[\"k\"] > null" (some context) = .ok (some e) := by decide +kernel
  obtain ⟨herror, _, hparsed⟩ := compile_eq_error_iff e table
  exact ⟨h, (herror _ _).mpr (by decide +kernel), hparsed _ _ none h⟩

end Sql
end FilterQuery
