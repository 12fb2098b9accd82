import FilterQuery.Proofs.Grammar.Spelled
import FilterQuery.Proofs.Parser.Outcome

namespace FilterQuery.Parser

open Grammar (Field Literal LeftSpelled)

inductive Group.Spelled (context : Option Context) (depth : Nat) (g : Group) :
    List Token.Kind → Prop
  | intro : LeftSpelled context depth .or g.disjunct ts →
    LeftSpelled context depth .and g.conjunct us →
    Spelled context depth g (ts ++ us ++ List.replicate g.negations .not)

-- How many NOTs and parentheses the groups leave open.
def openDepth : List (Nat × Group) → Nat
  | [] => 0
  | (_, g) :: groups => openDepth groups + g.negations + 1

inductive OuterSpelled (context : Option Context) : List (Nat × Group) → List Token.Kind → Prop
  | nil : OuterSpelled context [] []
  | cons : OuterSpelled context groups ts → g.Spelled context (openDepth groups) us →
    OuterSpelled context ((paren, g) :: groups) (ts ++ us ++ [.openParen])

inductive Mode.Spelled (context : Option Context) (depth : Nat) : Mode → List Token.Kind → Prop
  | operand : Spelled context depth .operand []
  | fieldEnd : Spelled context depth (.fieldEnd name) [.identifier name]
  | index : Spelled context depth (.index name bracket) [.identifier name, .openBracket]
  | indexEnd (h : Field (ts ++ [.closeBracket]) left) (hf : left.Finite) :
    Spelled context depth (.indexEnd left bracket) ts
  | operator (h : Field ts left) (hf : left.Finite) : Spelled context depth (.operator left) ts
  | value (h : Field ts left) (hf : left.Finite) :
    Spelled context depth (.value left op) (ts ++ [.comparison op])
  | listStart (h : Field ts left) (hf : left.Finite) :
    Spelled context depth (.listStart left) (ts ++ [.membership])
  | firstItem (h : Field ts left) (hf : left.Finite) :
    Spelled context depth (.firstItem left bracket) (ts ++ [.membership, .openBracket])
  | item (h : Field ts left) (hf : left.Finite) (hi : items ≠ [])
    (hv : List.Forall₂ (Literal context) items values) :
    Spelled context depth (.item left bracket values)
      (ts ++ .membership :: .openBracket :: (items.intersperse .comma ++ [.comma]))
  | itemEnd (h : Field ts left) (hf : left.Finite) (hi : items ≠ [])
    (hv : List.Forall₂ (Literal context) items values) :
    Spelled context depth (.itemEnd left bracket values)
      (ts ++ .membership :: .openBracket :: items.intersperse .comma)
  | operandEnd (h : Grammar.Spelled context depth (.chain .and) ts e) :
    Spelled context depth (.operandEnd e) ts

namespace Group.Spelled

variable {g : Group} {depth : Nat}

theorem disjunction (h : g.Spelled context depth ts) (hc : g.conjunct = none)
    (hn : g.negations = 0) (he : Grammar.Spelled context depth (.chain .and) us e) :
    Grammar.Spelled context depth (.chain .or) (ts ++ us) (g.disjunction e) := by
  cases h
  case intro hd hc' =>
    cases hc ▸ hc'
    simpa [hn, Group.disjunction] using Grammar.Spelled.join hd he

theorem extend (h : g.Spelled context depth ts) (hc : g.conjunct = none) (hn : g.negations = 0)
    (he : Grammar.Spelled context depth (.chain .and) us e) (op : Connective) :
    (g.extend e op).Spelled context depth (ts ++ us ++ [.connective op]) := by
  cases op
  case or =>
    simpa [Group.extend] using intro (g := { disjunct := some _ }) (.some <| h.disjunction hc hn he) .none
  case and =>
    cases h
    case intro hd hc' =>
      cases hc ▸ hc'
      simpa [Group.extend, hn] using intro (g := { g with conjunct := some e }) hd (.some he)

end Group.Spelled

theorem field_of_readIndex (h : readIndex kind = .ok i) (name : String) :
    Field ([.identifier name, .openBracket, kind] ++ [.closeBracket]) ⟨name, some i⟩ ∧
      Accessor.Finite ⟨name, some i⟩ := by
  cases kind
  case string => cases h; exact ⟨.key, fun _ e => by cases e⟩
  case number text =>
    cases hx : (Double.read? text).filter Double.isFinite <;> simp only [readIndex, hx] at h <;> cases h
    case some =>
      obtain ⟨hr, hf⟩ := Option.filter_eq_some_iff.mp hx
      exact ⟨.number hr, fun _ e => by cases e; exact hf⟩
  all_goals cases h

theorem intersperse_concat {xs : List α} (h : xs ≠ []) (sep x : α) :
    (xs ++ [x]).intersperse sep = xs.intersperse sep ++ [sep, x] := by
  induction xs
  case nil => contradiction
  case cons y ys ih =>
    cases ys
    case nil  => rfl
    case cons => simpa using ih (by simp)

theorem Mode.FieldRead.field {m : Mode} {n : Nat} (h : m.FieldRead left)
    (hm : m.Spelled context n ts) : Field ts left ∧ left.Finite := by
  cases h
  case name  => cases hm; exact ⟨.name, nofun⟩
  case index => cases hm with | operator h hf => exact ⟨h, hf⟩

namespace State

-- The tokens of the groups around, of the group itself and of what the mode stands for.
structure Parts (context : Option Context) (s : State) (ts us vs : List Token.Kind) : Prop where
  outer    : OuterSpelled context s.outer ts
  group    : s.group.Spelled context (openDepth s.outer) us
  mode     : s.mode.Spelled context (openDepth s.outer) vs
  settled  : s.Settled
  depth_eq : s.depth = openDepth s.outer + s.group.negations
  depth_le : s.depth ≤ maxDepth

-- The tokens so far spell the groups that are open, and keep to the limits.
inductive Spelled (context : Option Context) (s : State) : List Token.Kind → Prop
  | parts : s.Parts context ts us vs → Spelled context s (ts ++ us ++ vs)

variable {s s' : State}

theorem Spelled.of_append (h : s.Parts context ts us vs) (e : ws = ts ++ us ++ vs) :
    s.Spelled context ws :=
  e ▸ .parts h

theorem group_spelled_init {n : Nat} : Group.Spelled context n {} [] :=
  .intro (g := {}) .none .none

theorem spelled_init : State.Spelled context {} [] := by
  exact .of_append ⟨.nil, group_spelled_init, .operand, fun _ => nofun, rfl, Nat.zero_le _⟩ rfl

namespace Parts

-- A step that goes on with the same operand.
theorem withMode (h : s.Parts context ts us vs) (hm : m.Spelled context (openDepth s.outer) ws)
    (hn : ∀ e, m ≠ .operandEnd e) : Parts context { s with mode := m } ts us ws :=
  { h with mode := hm, settled := fun e he => absurd he (hn e) }

theorem complete (ho : OuterSpelled context s.outer ts)
    (hg : s.group.Spelled context (openDepth s.outer) us)
    (he : Grammar.Spelled context (openDepth s.outer + s.group.negations) .primary vs e)
    (hq : s.depth = openDepth s.outer + s.group.negations) (hl : s.depth ≤ maxDepth) :
    (s.complete e).Spelled context (ts ++ us ++ vs) := by
  cases hg
  case intro hd hc =>
    have hm := Grammar.Spelled.join hc he.negations
    have hq' : (s.complete e).depth = openDepth s.outer := by simp [State.complete, hq]
    refine .of_append ⟨ho, .intro hd .none, .operandEnd hm, settled_complete, hq', ?depth⟩ ?tokens
    case depth  => rw [hq']; omega
    case tokens => simp [State.complete]

end Parts

theorem Advance.spelled (hs : s.Spelled context ts) (h : s.Advance context t s') :
    s'.Spelled context (ts ++ [t.kind]) := by
  cases hs
  case parts ts us vs hp =>
    have ⟨ho, hg, hm', hset, hq, hl⟩ := hp
    have hl' : openDepth s.outer + s.group.negations ≤ maxDepth := hq ▸ hl
    cases h
    case not hm hd =>
      cases hm ▸ hm'
      cases hg
      case intro hd' hc =>
        refine .of_append ⟨ho, .intro hd' hc, hm', ?settled, ?depth, hd⟩ ?tokens
        case settled => exact fun _ he => nomatch hm.symm.trans he
        case depth   => simp [hq, Nat.add_assoc]
        case tokens  => simp [List.replicate_succ']
    case openParen hm hd =>
      cases hm ▸ hm'
      have hm₀ : s.mode.Spelled context (openDepth s.outer + s.group.negations + 1) [] :=
        hm ▸ .operand
      refine .of_append ⟨.cons ho hg, group_spelled_init, hm₀, ?settled, ?depth, hd⟩ (by simp)
      case settled => exact fun _ he => nomatch hm.symm.trans he
      case depth   => simp [hq, openDepth]
    case boolean hm =>
      cases hm ▸ hm'
      simpa using Parts.complete ho hg (.boolean hl') hq hl
    case identifier hm =>
      cases hm ▸ hm'
      exact .of_append (hp.withMode .fieldEnd nofun) (by simp)
    case openIndex hm =>
      cases hm ▸ hm'
      exact .of_append (hp.withMode .index nofun) (by simp)
    case index hm hi =>
      cases hm ▸ hm'
      have hf := field_of_readIndex hi
      exact .of_append (hp.withMode (.indexEnd (hf _).1 (hf _).2) nofun) (by simp)
    case closeIndex hm =>
      cases hm ▸ hm' with | indexEnd hf hfin =>
        exact .of_append (hp.withMode (.operator hf hfin) nofun) (by simp)
    case comparison hm =>
      have ⟨hf, hfin⟩ := hm.field hm'
      exact .of_append (hp.withMode (.value hf hfin) nofun) (by simp)
    case membership hm =>
      have ⟨hf, hfin⟩ := hm.field hm'
      exact .of_append (hp.withMode (.listStart hf hfin) nofun) (by simp)
    case value op _ _ _ hm hv =>
      cases hm ▸ hm' with | value hf hfin =>
        have he := Grammar.Spelled.condition op hl' hf hfin (Grammar.value?_eq_some_iff.mp hv)
        simpa using Parts.complete ho hg he hq hl
    case openList hm =>
      cases hm ▸ hm' with | listStart hf hfin =>
        exact .of_append (hp.withMode (.firstItem hf hfin) nofun) (by simp)
    case firstItem kind _ _ hm hv =>
      cases hm ▸ hm' with | firstItem hf hfin =>
        have hv := List.Forall₂.cons (Grammar.value?_eq_some_iff.mp hv) .nil
        exact .of_append (hp.withMode (.itemEnd hf hfin (by simp) hv) nofun) (by simp)
    case item hm hv =>
      cases hm ▸ hm' with | item hf hfin hi hvs =>
        have hv := List.Forall₂.cons (Grammar.value?_eq_some_iff.mp hv) .nil
        have hvs := List.rel_append hvs hv
        refine .of_append (hp.withMode (.itemEnd hf hfin (by simp) hvs) nofun) ?_
        simp [intersperse_concat hi]
    case comma hm =>
      cases hm ▸ hm' with | itemEnd hf hfin hi hvs =>
        exact .of_append (hp.withMode (.item hf hfin hi hvs) nofun) (by simp)
    case closeEmpty hm =>
      cases hm ▸ hm' with | firstItem hf hfin =>
        have hv : List.Forall₂ (Literal context) [] [] := .nil
        have he := Grammar.Spelled.membership hl' hf hfin hv
        simpa using Parts.complete ho hg he hq hl
    case closeList hm =>
      cases hm ▸ hm' with | itemEnd hf hfin hi hvs =>
        have he := Grammar.Spelled.membership hl' hf hfin hvs
        simpa using Parts.complete ho hg he hq hl
    case connective e op _ hm =>
      have ⟨hc, hn⟩ := hset e hm
      cases hm ▸ hm' with
      | operandEnd he =>
        refine .of_append ⟨ho, hg.extend hc hn he op, .operand, fun _ => nofun, ?_, hl⟩ (by simp)
        cases op <;> simp [hq, hn, Group.extend]
    case closeParen e _ g groups _ hm hout =>
      have ⟨hc, hn⟩ := hset e hm
      cases hm ▸ hm' with
      | operandEnd he =>
        have he := hg.disjunction hc hn he
        rw [hout] at ho hq he
        cases ho with
        | cons ho' hg' =>
          have hq' : s.depth - 1 = openDepth groups + g.negations := by rw [hq, hn]; rfl
          have hl' : s.depth - 1 ≤ maxDepth := by omega
          have h := Parts.complete (s := { s with group := g, outer := groups, depth := s.depth - 1 })
            ho' hg' he.paren hq' hl'
          simpa using h

theorem Reads.spelled (hs : s.Spelled context ts) (h : s.Reads context us s') :
    s'.Spelled context (ts ++ us.map (·.kind)) := by
  induction h generalizing ts
  case refl         => simpa using hs
  case step ha _ ih => simpa using ih (ha.spelled hs)

theorem Spelled.of_yields (hs : s.Spelled context ts) (h : s.Yields e) :
    Grammar.Spelled context 0 (.chain .or) ts e := by
  have ⟨ho, _, hm, he⟩ := h
  cases hs
  case parts hp =>
    have ⟨hc, hn⟩ := hp.settled _ hm
    have ho' := hp.outer
    have hg' := hp.group
    rw [ho] at ho' hg'
    cases ho'
    cases hm ▸ ho ▸ hp.mode with
    | operandEnd hd => exact he ▸ hg'.disjunction hc hn hd

-- The tokens that a query is read from, up to the end of the text, spell it.
theorem Accepts.spelled (h : State.Accepts context {} ts e) :
    ∃ us vs, ts = us ++ vs ∧ (∀ t ∈ vs.head?, t.kind = .eol) ∧ (∀ t ∈ us, t.kind ≠ .eol) ∧
      Grammar.Spelled context 0 (.chain .or) (us.map (·.kind)) e := by
  have ⟨us, vs, s', hts, hv, hr, hy⟩ := h
  exact ⟨us, vs, hts, hv, hr.kind_ne_eol, (hr.spelled spelled_init).of_yields hy⟩

end State
end FilterQuery.Parser
