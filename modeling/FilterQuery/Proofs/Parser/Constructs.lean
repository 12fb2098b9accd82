import FilterQuery.Proofs.Expr.Parts
import FilterQuery.Proofs.Parser.Advance

namespace FilterQuery.Parser

-- What an operand and the operator behind it bring in.
def operandConstructs (op : Connective) : Option Expr → List Construct
  | none => []
  | some e => e.constructs ++ [.logicalOperator (.connective op)]

theorem constructs_join (op : Connective) (left : Option Expr) (e : Expr) :
    (join op left e).constructs = operandConstructs op left ++ e.constructs := by
  cases left <;> simp [join, operandConstructs, Expr.constructs]

theorem constructs_negate (e : Expr) (n : Nat) :
    (negate e n).constructs = List.replicate n (.logicalOperator .not) ++ e.constructs := by
  induction n
  case zero      => rfl
  case succ n ih => simp [negate, Expr.constructs, ih, List.replicate_succ]

namespace Group

def constructs (g : Group) : List Construct :=
  operandConstructs .or g.disjunct ++ operandConstructs .and g.conjunct ++
    List.replicate g.negations (.logicalOperator .not)

theorem constructs_conjunction (g : Group) (e : Expr) :
    operandConstructs .or g.disjunct ++ (g.conjunction e).constructs = g.constructs ++ e.constructs := by
  simp [constructs, conjunction, constructs_join, constructs_negate]

end Group

def Mode.constructs : Mode → List Construct
  | .operand => []
  | .fieldEnd name => [.identifier name]
  | .index name _ => [.identifier name, .indexAccess]
  | .indexEnd left _ | .operator left => left.constructs
  | .value left op => left.constructs ++ [.operation (.comparison op)]
  | .listStart left | .firstItem left _ => left.constructs ++ [.operation .membership]
  | .item left _ values | .itemEnd left _ values =>
    left.constructs ++ .operation .membership :: values.map (.valueKind ·.kind)
  | .operandEnd e => e.constructs

theorem Mode.FieldRead.constructs_eq {m : Mode} (h : m.FieldRead left) :
    m.constructs = left.constructs := by
  cases h <;> simp [Mode.constructs, Accessor.constructs]

def outerConstructs : List (Nat × Group) → List Construct
  | [] => []
  | (_, g) :: groups => outerConstructs groups ++ g.constructs ++ [.parentheses]

namespace State

-- Behind an operand of OR nothing is left of its group but the operand of OR before it.
def Settled (s : State) : Prop :=
  ∀ e, s.mode = .operandEnd e → s.group.conjunct = none ∧ s.group.negations = 0

def constructs (s : State) : List Construct :=
  outerConstructs s.outer ++ s.group.constructs ++ s.mode.constructs

variable {s s' : State}

theorem settled_init : Settled {} := fun _ => nofun

theorem constructs_init : constructs {} = [] := rfl

theorem constructs_of_mode (hm : s.mode = m) :
    s.constructs = outerConstructs s.outer ++ s.group.constructs ++ m.constructs :=
  hm ▸ rfl

theorem constructs_of_fieldRead (hm : s.mode.FieldRead left) :
    s.constructs = outerConstructs s.outer ++ s.group.constructs ++ left.constructs := by
  rw [constructs, hm.constructs_eq]

theorem constructs_complete (s : State) (e : Expr) :
    (s.complete e).constructs = outerConstructs s.outer ++ s.group.constructs ++ e.constructs := by
  have h := s.group.constructs_conjunction e
  simp [constructs, complete, Group.constructs, operandConstructs, Mode.constructs] at h ⊢
  exact h

theorem settled_complete : (s.complete e).Settled := by
  simp [complete, Settled]

theorem constructs_extend (hs : s.Settled) (hm : s.mode = .operandEnd e) (op : Connective) :
    (s.group.extend e op).constructs =
      s.group.constructs ++ e.constructs ++ [.logicalOperator (.connective op)] := by
  have ⟨hc, hn⟩ := hs e hm
  cases op
  case and => simp [Group.extend, Group.constructs, hc, hn, operandConstructs]
  case or  =>
    simp [Group.extend, Group.constructs, Group.disjunction, hc, hn, operandConstructs,
      constructs_join]

theorem constructs_disjunction (hs : s.Settled) (hm : s.mode = .operandEnd e) :
    (s.group.disjunction e).constructs = s.group.constructs ++ e.constructs := by
  have ⟨hc, hn⟩ := hs e hm
  simp [Group.disjunction, Group.constructs, hc, hn, operandConstructs, constructs_join]

theorem introduces_of_fieldRead (hm : s.mode.FieldRead left) (context : Option Context) :
    (∀ op, s.introduces context (.comparison op) = some (.operation (.comparison op))) ∧
      s.introduces context .membership = some (.operation .membership) := by
  generalize e : s.mode = m at hm
  cases hm <;> simp [introduces, e]

namespace Advance

theorem settled (h : s.Advance context t s') : s'.Settled := by
  cases h
  case boolean    => exact settled_complete
  case value      => exact settled_complete
  case closeEmpty => exact settled_complete
  case closeList  => exact settled_complete
  case closeParen => exact settled_complete
  all_goals simp_all [Settled]

-- The state gains the construct that the token introduces, behind all others.
theorem constructs_eq (hs : s.Settled) (h : s.Advance context t s') :
    s'.constructs = s.constructs ++ (s.introduces context t.kind).toList := by
  cases h
  case not hm _ =>
    simp [constructs, introduces, hm, Mode.constructs, Group.constructs, List.replicate_succ']
  case openParen hm _ =>
    simp [constructs, introduces, hm, Mode.constructs, Group.constructs, outerConstructs,
      operandConstructs]
  case boolean hm =>
    simp [constructs_complete, constructs_of_mode hm, introduces, hm, Mode.constructs, Expr.constructs]
  case identifier hm => simp [constructs, introduces, hm, Mode.constructs]
  case openIndex hm  => simp [constructs, introduces, hm, Mode.constructs]
  case index hm _    => simp [constructs, introduces, hm, Mode.constructs, Accessor.constructs]
  case closeIndex hm => simp [constructs, introduces, hm, Mode.constructs]
  case comparison hm =>
    rw [constructs_of_fieldRead hm, (introduces_of_fieldRead hm context).1]
    simp [constructs, Mode.constructs]
  case membership hm =>
    rw [constructs_of_fieldRead hm, (introduces_of_fieldRead hm context).2]
    simp [constructs, Mode.constructs]
  case value hm hv =>
    simp [constructs_complete, constructs_of_mode hm, introduces, hm, hv, Mode.constructs,
      Expr.constructs]
  case openList hm     => simp [constructs, introduces, hm, Mode.constructs]
  case firstItem hm hv => simp [constructs, introduces, hm, hv, Mode.constructs]
  case item hm hv      => simp [constructs, introduces, hm, hv, Mode.constructs]
  case comma hm        => simp [constructs, introduces, hm, Mode.constructs]
  case closeEmpty hm =>
    simp [constructs_complete, constructs_of_mode hm, introduces, value?, hm, Mode.constructs,
      Expr.constructs]
  case closeList hm =>
    simp [constructs_complete, constructs_of_mode hm, introduces, hm, Mode.constructs, Expr.constructs]
  case connective hm => simp [constructs, introduces, hm, constructs_extend hs hm, Mode.constructs]
  case closeParen hm ho =>
    simp [constructs_complete, constructs_of_mode hm, introduces, hm, ho, outerConstructs,
      constructs_disjunction hs hm, Mode.constructs, Expr.constructs]

end Advance

namespace Reads

theorem settled (hs : s.Settled) (h : s.Reads context ts s') : s'.Settled := by
  induction h
  case refl         => exact hs
  case step ha _ ih => exact ih ha.settled

-- What the state has recorded stays recorded.
theorem constructs_subset (hs : s.Settled) (h : s.Reads context ts s') :
    s.constructs ⊆ s'.constructs := by
  induction h
  case refl => exact List.Subset.refl _
  case step ha _ ih =>
    have hsub := ih ha.settled
    rw [ha.constructs_eq hs] at hsub
    exact (List.append_subset.mp hsub).1

end Reads
end State
end FilterQuery.Parser
