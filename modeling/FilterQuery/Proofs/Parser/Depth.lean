import FilterQuery.Proofs.Parser.Failure
import FilterQuery.Proofs.Parser.Soundness

namespace FilterQuery.Parser

open ParseError (Cause)

namespace State

-- How many NOTs and parentheses are open.
def opened (s : State) : Nat :=
  openDepth s.outer + s.group.negations

-- The depth goes up and down with what is open, and keeps to the limit.
structure Counted (base : Nat) (s : State) : Prop where
  settled  : s.Settled
  depth_eq : s.depth = base + s.opened
  depth_le : s.depth ≤ maxDepth

variable {s s' : State} {base : Nat}

theorem settled_of_operand (hm : s.mode = .operand) : s.Settled :=
  fun _ he => nomatch hm.symm.trans he

theorem counted_init (h : base ≤ maxDepth) (names : List String) :
    Counted base { depth := base, consulted := names } :=
  ⟨settled_of_operand rfl, rfl, h⟩

namespace Counted

theorem le_depth (h : s.Counted base) : base ≤ s.depth :=
  h.depth_eq ▸ Nat.le_add_right ..

theorem negations_le (h : s.Counted base) : s.group.negations ≤ s.depth := by
  have hq := h.depth_eq
  simp only [opened] at hq
  omega

theorem consulted (h : s.Counted base) (names : List String) : Counted base { s with consulted := names } :=
  ⟨h.settled, h.depth_eq, h.depth_le⟩

-- A step that opens and closes nothing.
theorem withMode (h : s.Counted base) (hm : ∀ e, m ≠ .operandEnd e) : Counted base { s with mode := m } :=
  { h with settled := fun e he => absurd he (hm e) }

theorem complete (hq : s.depth = base + s.opened) (hl : s.depth ≤ maxDepth) (e : Expr) :
    (s.complete e).Counted base := by
  have hq' : s.depth - s.group.negations = base + openDepth s.outer := by
    simp only [opened] at hq
    omega
  exact ⟨settled_complete, hq', Nat.le_trans (Nat.sub_le ..) hl⟩

theorem extend (h : s.Counted base) (hm : s.mode = .operandEnd e) (op : Connective) :
    Counted base { s with mode := .operand, group := s.group.extend e op } := by
  have ⟨_, hn⟩ := h.settled e hm
  have hg : (s.group.extend e op).negations = s.group.negations := by
    cases op <;> simp [Group.extend, hn]
  have hq := h.depth_eq
  exact ⟨settled_of_operand rfl, by simpa only [opened, hg] using hq, h.depth_le⟩

end Counted

theorem Advance.counted (hs : s.Counted base) (h : s.Advance context t s') : s'.Counted base := by
  have ⟨hset, hq, hl⟩ := hs
  cases h
  case not hm hd       => exact ⟨settled_of_operand hm, congrArg (· + 1) hq, hd⟩
  case openParen hm hd =>
    refine ⟨settled_of_operand hm, ?_, hd⟩
    simp only [opened, openDepth] at hq ⊢
    omega
  case boolean         => exact .complete hq hl _
  case identifier      => exact hs.withMode (by simp)
  case openIndex       => exact hs.withMode (by simp)
  case index           => exact hs.withMode (by simp)
  case closeIndex      => exact hs.withMode (by simp)
  case comparison      => exact hs.withMode (by simp)
  case membership      => exact hs.withMode (by simp)
  case value           => exact .complete hq hl _
  case openList        => exact hs.withMode (by simp)
  case firstItem       => exact hs.withMode (by simp)
  case item            => exact hs.withMode (by simp)
  case comma           => exact hs.withMode (by simp)
  case closeEmpty      => exact .complete hq hl _
  case closeList       => exact .complete hq hl _
  case connective hm   => exact hs.extend hm _
  case closeParen hm ho =>
    obtain ⟨_, hn⟩ := hset _ hm
    refine .complete ?_ (Nat.le_trans (Nat.sub_le ..) hl) _
    simp only [opened, ho, openDepth, hn] at hq ⊢
    omega

def raised (s : State) (d : Nat) (names : List String) : State :=
  { s with depth := s.depth + d, consulted := names }

-- Completing an operand takes from the depth what is open, and nothing of what is below.
theorem complete_raised (h : s.group.negations ≤ s.depth) (e : Expr) (d : Nat) (names : List String) :
    (s.complete e).raised d names = (s.raised d names).complete e := by
  simp only [complete, raised, Nat.sub_add_comm h]

-- As long as the limit allows, the depth below has no part in a step.
theorem Advance.raised (hs : s.Counted 0) (h : s.Advance context t s') (hd : s'.depth + d ≤ maxDepth)
    (names : List String) : (s.raised d names).Advance context t (s'.raised d names) := by
  have hn := hs.negations_le
  cases h
  case not span hm _ =>
    replace hd : s.depth + d < maxDepth := by simp only at hd; omega
    have h : (s.raised d names).Advance context ⟨.not, span⟩ _ := .not hm hd
    simpa only [State.raised, Nat.add_right_comm] using h
  case openParen span hm _ =>
    replace hd : s.depth + d < maxDepth := by simp only at hd; omega
    have h : (s.raised d names).Advance context ⟨.openParen, span⟩ _ := .openParen hm hd
    simpa only [State.raised, Nat.add_right_comm] using h
  case boolean hm         => exact complete_raised hn _ d names ▸ .boolean hm
  case identifier hm      => exact .identifier hm
  case openIndex hm       => exact .openIndex hm
  case index hm hi        => exact .index hm hi
  case closeIndex hm      => exact .closeIndex hm
  case comparison hm      => exact .comparison hm
  case membership hm      => exact .membership hm
  case value hm hv        => exact complete_raised hn _ d names ▸ .value hm hv
  case openList hm        => exact .openList hm
  case firstItem hm hv    => exact .firstItem hm hv
  case item hm hv         => exact .item hm hv
  case comma hm           => exact .comma hm
  case closeEmpty hm      => exact complete_raised hn _ d names ▸ .closeEmpty hm
  case closeList hm       => exact complete_raised hn _ d names ▸ .closeList hm
  case connective hm      => exact .connective hm
  case closeParen e _ g groups span hm ho =>
    have ⟨_, hz⟩ := hs.settled _ hm
    have hq := hs.depth_eq
    simp only [opened, ho, openDepth, hz] at hq
    have hp : s.depth + d - 1 = s.depth - 1 + d := by omega
    have h : (s.raised d names).Advance context ⟨.closeParen, span⟩ _ := .closeParen hm ho
    rw [complete_raised (by simp only; omega)]
    simpa only [State.raised, hp] using h

-- What a call can read at the depth `d` can be read at no depth too, and leaves room for `d`.
theorem Advance.of_raised (hl : s.depth + d ≤ maxDepth) (h : (s.raised d names).Advance context t s₁) :
    ∃ s', s.Advance context t s' ∧ s'.depth + d ≤ maxDepth := by
  have hc : ∀ e, (s.complete e).depth + d ≤ maxDepth := fun _ =>
    Nat.le_trans (Nat.add_le_add_right (Nat.sub_le ..) d) hl
  cases h
  case not hm hd =>
    replace hd : s.depth + d < maxDepth := hd
    exact ⟨_, .not hm (by omega), by simp only; omega⟩
  case openParen hm hd =>
    replace hd : s.depth + d < maxDepth := hd
    exact ⟨_, .openParen hm (by omega), by simp only; omega⟩
  case boolean hm       => exact ⟨_, .boolean hm, hc _⟩
  case identifier hm    => exact ⟨_, .identifier hm, hl⟩
  case openIndex hm     => exact ⟨_, .openIndex hm, hl⟩
  case index hm hi      => exact ⟨_, .index hm hi, hl⟩
  case closeIndex hm    => exact ⟨_, .closeIndex hm, hl⟩
  case comparison hm    => exact ⟨_, .comparison hm, hl⟩
  case membership hm    => exact ⟨_, .membership hm, hl⟩
  case value hm hv      => exact ⟨_, .value hm hv, hc _⟩
  case openList hm      => exact ⟨_, .openList hm, hl⟩
  case firstItem hm hv  => exact ⟨_, .firstItem hm hv, hl⟩
  case item hm hv       => exact ⟨_, .item hm hv, hl⟩
  case comma hm         => exact ⟨_, .comma hm, hl⟩
  case closeEmpty hm    => exact ⟨_, .closeEmpty hm, hc _⟩
  case closeList hm     => exact ⟨_, .closeList hm, hc _⟩
  case connective hm    => exact ⟨_, .connective hm, hl⟩
  case closeParen hm ho => exact ⟨_, .closeParen hm ho, by simp only [complete]; omega⟩

-- Only NOT and an opening parenthesis need depth.
theorem Advance.depth_le_or (h : s.Advance context t s') :
    s'.depth ≤ s.depth ∨ s.mode = .operand ∧ (t.kind = .not ∨ t.kind = .openParen) := by
  cases h
  case not hm _       => exact .inr ⟨hm, .inl rfl⟩
  case openParen hm _ => exact .inr ⟨hm, .inr rfl⟩
  case boolean        => exact .inl <| Nat.sub_le ..
  case value          => exact .inl <| Nat.sub_le ..
  case closeEmpty     => exact .inl <| Nat.sub_le ..
  case closeList      => exact .inl <| Nat.sub_le ..
  case closeParen     => exact .inl <| Nat.le_trans (Nat.sub_le ..) (Nat.sub_le ..)
  all_goals exact .inl <| Nat.le_refl _

theorem fault_eq_tooDeep (hm : s.mode = .operand) (hk : kind = .not ∨ kind = .openParen) :
    s.fault kind = .tooDeep := by
  rcases hk with rfl | rfl <;> simp [fault, hm]

-- The depth below a call can only make a step fail that would succeed, and then it is the limit.
theorem advance_raised (hs : s.Counted 0) (hl : s.depth + d ≤ maxDepth) (names : List String) (t : Token) :
    0 < d ∧ (s.raised d names).advance context t = .error .tooDeep ∨
      (s.raised d names).advance context t = (s.advance context t).map (·.raised d names) ∧
        ∀ s', s.advance context t = .ok s' → s'.depth + d ≤ maxDepth := by
  cases hb : (s.raised d names).advance context t
  case ok s₁ =>
    have ⟨s', h, hd⟩ := (advance_eq_ok_iff.mp hb).of_raised hl
    rw [h.advance_eq, ← hb, (h.raised hs hd names).advance_eq]
    exact .inr ⟨rfl, fun _ he => Except.ok.inj he ▸ hd⟩
  case error cause =>
    have hc := advance_eq_error hb
    cases ha : s.advance context t
    case error => exact .inr ⟨by rw [hc, advance_eq_error ha]; rfl, fun _ => nofun⟩
    case ok s' =>
      have h := advance_eq_ok_iff.mp ha
      have hd : ¬s'.depth + d ≤ maxDepth := fun hd => nomatch hb.symm.trans (h.raised hs hd names).advance_eq
      have hl' := (h.counted hs).depth_le
      have ⟨hm, hk⟩ := h.depth_le_or.resolve_left (by omega)
      exact .inl ⟨by omega, congrArg _ <| hc.trans <| fault_eq_tooDeep hm hk⟩

theorem step_raised (env : Environment) (hs : s.Counted 0) (hl : s.depth + d ≤ maxDepth)
    (names : List String) (t : Token) :
    0 < d ∧ (s.raised d names).step env t = .error .tooDeep ∨
      (s.raised d names).step env t = (s.step env t).map (·.raised d names) ∧
        ∀ s', s.step env t = .ok s' → s'.depth + d ≤ maxDepth := by
  have hi : (s.raised d names).introduces env.context t.kind = s.introduces env.context t.kind := rfl
  simp only [step, hi]
  cases (s.introduces env.context t.kind).filter (!env.permits ·)
  case some => exact .inr ⟨rfl, by simp⟩
  case none => exact advance_raised hs hl names t

end State

open State

variable {p q : Parser} {s : State}

theorem finish_raised (s : State) (d : Nat) (names : List String) (t : Token) (ts : List Token) :
    (p.finish (s.raised d names) t ts).1 = (q.finish s t ts).1 := by
  simp only [finish]
  cases hm : s.mode <;> cases ho : s.outer <;> simp [raised, hm, ho, fail, expects]

-- A call that starts at a greater depth comes to the same end, or to the limit.
theorem run_raised (he : p.toEnvironment = q.toEnvironment) (hl : p.eol = q.eol) (hs : s.Counted 0)
    (hd : s.depth + d ≤ maxDepth) (names : List String) (ts : List Token) :
    (p.run (s.raised d names) ts).1 = (q.run s ts).1 ∨
      0 < d ∧ ∃ span, (p.run (s.raised d names) ts).1 = .error ⟨.tooDeep, span⟩ := by
  induction ts generalizing s names
  case nil =>
    simp only [run, hl]
    exact .inl <| finish_raised s d names _ []
  case cons t ts ih =>
    by_cases ht : t.kind = .eol
    case pos =>
      simp only [run, ht, if_true]
      exact .inl <| finish_raised s d names t _
    case neg =>
      obtain ⟨names₁, h₁⟩ := consult_eq q.toEnvironment (s.raised d names) t
      obtain ⟨names₂, h₂⟩ := consult_eq q.toEnvironment s t
      -- Neither the names before the call nor those of its own have a part in the step.
      let s₂ := { s with consulted := names₂ }
      have hs₂ : s₂.Counted 0 := hs.consulted names₂
      replace h₁ : (s.raised d names).consult q.toEnvironment t = s₂.raised d names₁ := h₁
      replace h₂ : s.consult q.toEnvironment t = s₂ := h₂
      simp only [run, ht, if_false, he, h₁, h₂]
      rcases step_raised q.toEnvironment hs₂ hd names₁ t with ⟨hpos, h⟩ | ⟨h, hn⟩
      case inl => exact .inr ⟨hpos, t.span, by rw [h]; rfl⟩
      case inr =>
        rw [h]
        cases hq : s₂.step q.toEnvironment t
        case error => exact .inl rfl
        case ok s' => exact ih ((step_eq_ok_iff.mp hq).2.counted hs₂) (hn s' hq) names₁

end FilterQuery.Parser
