import FilterQuery.Proofs.Parser.Outcome

namespace FilterQuery.Parser

open ParseError (Cause)

namespace State

-- What is wrong with a token that cannot be read.
def fault (s : State) (found : Token.Kind) : Cause :=
  match s.mode, found with
  | .operand, .not => .tooDeep
  | .operand, .openParen => .tooDeep
  | .index .., .number text => .invalidIndex text
  | _, found => .unexpected s.expects found

-- The token stops a run: its construct is not permitted, or it cannot be read.
inductive Stuck (env : Environment) (s : State) (t : Token) : Cause → Prop
  | forbidden (hi : s.introduces env.context t.kind = some c) (hp : ¬env.permits c) :
    Stuck env s t (.forbidden c)
  | fault (hp : ∀ c ∈ s.introduces env.context t.kind, env.permits c)
    (ha : ∀ s', ¬s.Advance env.context t s') (hy : t.kind = .eol → ∀ e, ¬s.Yields e) :
    Stuck env s t (s.fault t.kind)

-- A run from here reads the tokens up to one that stops it.
inductive Fails (env : Environment) : State → List Token → ParseError → Prop
  | stuck (h : s.Stuck env t cause) : Fails env s (t :: ts) ⟨cause, t.span⟩
  | step (hp : ∀ c ∈ s.introduces env.context t.kind, env.permits c)
    (ha : s.Advance env.context t s') : Fails env s' ts error → Fails env s (t :: ts) error

variable {env : Environment} {s s' : State}

theorem fault_eol (s : State) : s.fault .eol = .unexpected s.expects .eol := by
  simp only [fault]
  split <;> first | rfl | contradiction

theorem fault_category (s : State) (found : Token.Kind) :
    (s.fault found).category = .grammatical := by
  simp only [fault]
  split <;> rfl

theorem deepen_map_eq_error {f : State → State} (h : s.deepen.map f = .error cause) :
    cause = .tooDeep := by
  cases hd : s.deepen
  case error => simp [hd, Except.map] at h; exact h ▸ (deepen_eq_error hd).2
  case ok    => simp [hd, Except.map] at h

theorem readOperand_eq_error (hm : s.mode = .operand) (h : s.readOperand t = .error cause) :
    cause = s.fault t.kind := by
  cases hk : t.kind <;> simp only [readOperand, hk] at h
  case not        => simp only [fault, hm, deepen_map_eq_error h]
  case openParen  => simp only [fault, hm, deepen_map_eq_error h]
  case boolean    => cases h
  case identifier => cases h
  all_goals cases h; simp only [fault, hm]

theorem readIndex_eq_error (hm : s.mode = .index name bracket) (h : readIndex kind = .error cause) :
    cause = s.fault kind := by
  cases kind <;> simp only [fault, expects, hm]
  case string => cases h
  case number text =>
    cases hx : (Double.read? text).filter Double.isFinite <;> simp only [readIndex, hx] at h <;> cases h
    rfl
  all_goals cases h; rfl

theorem readValue_eq_error (h : readValue context s kind next = .error cause) :
    cause = .unexpected s.expects kind := by
  simp only [readValue] at h
  split at h <;> cases h
  rfl

theorem readOperator_eq_error (h : s.readOperator left kind = .error cause) :
    cause = .unexpected s.expects kind := by
  simp only [readOperator] at h
  split at h <;> cases h
  rfl

theorem advance_eq_error (h : s.advance context t = .error cause) : cause = s.fault t.kind := by
  cases hm : s.mode <;> simp only [advance, hm] at h
  case operand => exact readOperand_eq_error hm h
  case fieldEnd =>
    split at h
    · cases h
    · simpa only [fault, hm] using readOperator_eq_error h
  case index =>
    cases hi : readIndex t.kind <;> simp only [hi, Except.map] at h <;> cases h
    exact readIndex_eq_error hm hi
  case operator => simpa only [fault, hm] using readOperator_eq_error h
  case value    => simpa only [fault, hm] using readValue_eq_error h
  case firstItem =>
    split at h
    · cases h
    · simpa only [fault, hm] using readValue_eq_error h
  case item => simpa only [fault, hm] using readValue_eq_error h
  case operandEnd =>
    simp only [readOperandEnd] at h
    split at h <;> cases h
    simp only [fault, hm]
  -- What is left is read at one token, or at two.
  all_goals
    split at h <;> cases h
    simp only [fault, hm]

theorem introduces_eol (context : Option Context) (s : State) : s.introduces context .eol = none := by
  simp only [introduces]
  split <;> first | rfl | contradiction

theorem step_eq_error_iff (ht : t.kind ≠ .eol) :
    s.step env t = .error cause ↔ s.Stuck env t cause := by
  constructor
  case mp =>
    intro h
    cases hc : (s.introduces env.context t.kind).filter (!env.permits ·) <;> simp only [step, hc] at h
    case some =>
      cases h
      obtain ⟨hi, hp⟩ := Option.filter_eq_some_iff.mp hc
      exact .forbidden hi (by simpa using hp)
    case none =>
      rw [advance_eq_error h]
      refine .fault (fun c hi => ?permitted) (fun s' ha => ?unread) (absurd · ht)
      case permitted => simpa using Option.filter_eq_none_iff.mp hc c hi
      case unread    => cases h.symm.trans ha.advance_eq
  case mpr =>
    intro h
    cases h
    case forbidden hi hp => simp [step, hi, hp, Option.filter]
    case fault hp ha _ =>
      cases hs : s.step env t
      case ok    => exact absurd (step_eq_ok_iff.mp hs).2 (ha _)
      case error =>
        have hn : (s.introduces env.context t.kind).filter (!env.permits ·) = none :=
          Option.filter_eq_none_iff.mpr fun c hc => by simp [hp c hc]
        simp only [step, hn] at hs
        rw [advance_eq_error hs]

theorem stuck_eol_iff (ht : t.kind = .eol) :
    s.Stuck env t cause ↔ cause = .unexpected s.expects .eol ∧ ∀ e, ¬s.Yields e := by
  constructor
  case mp =>
    intro h
    cases h
    case forbidden hi _ => exact nomatch (ht ▸ s.introduces_eol env.context).symm.trans hi
    case fault hy       => exact ⟨ht ▸ s.fault_eol, hy ht⟩
  case mpr =>
    rintro ⟨rfl, hy⟩
    rw [← s.fault_eol, ← ht]
    refine .fault (fun c hc => ?_) (fun _ ha => absurd ht ha.kind_ne_eol) fun _ => hy
    exact nomatch (ht ▸ s.introduces_eol env.context).symm.trans hc

namespace Stuck

theorem consulted (h : s.Stuck env t cause) (names : List String) :
    { s with consulted := names }.Stuck env t cause := by
  cases h
  case forbidden hi hp => exact .forbidden hi hp
  case fault hp ha hy  => exact .fault hp (fun _ h => ha _ <| h.consulted s.consulted) hy

theorem unique (h : s.Stuck env t cause) (h' : s.Stuck env t cause') : cause = cause' := by
  cases h <;> cases h'
  case forbidden.forbidden hi _ _ hi' _ => exact congrArg _ <| Option.some.inj <| hi.symm.trans hi'
  case forbidden.fault hi hn hp _ _     => exact absurd (hp _ hi) hn
  case fault.forbidden hp _ _ _ hi hn   => exact absurd (hp _ hi) hn
  case fault.fault                      => rfl

theorem not_advance (h : s.Stuck env t cause)
    (hp : ∀ c ∈ s.introduces env.context t.kind, env.permits c) : ¬s.Advance env.context t s' := by
  cases h
  case forbidden hi hn => exact absurd (hp _ hi) hn
  case fault ha _      => exact ha s'

theorem of_restricted (h : s.Stuck env t cause) (hc : cause.category = .restricted) :
    ∃ c, cause = .forbidden c ∧ s.introduces env.context t.kind = some c ∧ ¬env.permits c := by
  cases h
  case forbidden hi hp => exact ⟨_, rfl, hi, hp⟩
  case fault           => exact nomatch hc.symm.trans (s.fault_category t.kind)

theorem fault_of_not_restricted (h : s.Stuck env t cause) (hc : cause.category ≠ .restricted) :
    cause = s.fault t.kind ∧ ∀ c ∈ s.introduces env.context t.kind, env.permits c := by
  cases h
  case forbidden     => exact absurd rfl hc
  case fault hp _ _  => exact ⟨rfl, hp⟩

-- Whatever else stops a run does so without a configuration too.
theorem of_not_restricted (h : s.Stuck env t cause) (hc : cause.category ≠ .restricted) :
    s.Stuck { context := env.context } t cause := by
  cases h
  case forbidden   => exact absurd rfl hc
  case fault ha hy => exact .fault (fun _ _ => rfl) ha hy

theorem not_restricted (h : s.Stuck { context } t cause) : cause.category = .grammatical := by
  cases h
  case forbidden hp => exact absurd rfl hp
  case fault        => exact s.fault_category t.kind

end Stuck

namespace Fails

theorem consulted (h : s.Fails env ts error) (names : List String) :
    { s with consulted := names }.Fails env ts error := by
  induction h
  case stuck h         => exact .stuck (h.consulted names)
  case step hp ha _ ih => exact .step hp (ha.consulted names) ih

theorem consulted_iff (names : List String) :
    { s with consulted := names }.Fails env ts error ↔ s.Fails env ts error :=
  ⟨fun h => h.consulted s.consulted, fun h => h.consulted names⟩

theorem cons_iff_of_advance (hp : ∀ c ∈ s.introduces env.context t.kind, env.permits c)
    (ha : s.Advance env.context t s') : s.Fails env (t :: ts) error ↔ s'.Fails env ts error := by
  refine ⟨fun h => ?_, .step hp ha⟩
  cases h
  case stuck h    => exact absurd ha (h.not_advance hp)
  case step ha' h => exact ha.deterministic ha' ▸ h

theorem cons_iff_of_stuck (h : s.Stuck env t cause) :
    s.Fails env (t :: ts) error ↔ error = ⟨cause, t.span⟩ := by
  constructor
  case mp =>
    intro hf
    cases hf
    case stuck h'     => rw [h'.unique h]
    case step hp ha _ => exact absurd ha (h.not_advance hp)
  case mpr => exact fun he => he ▸ .stuck h

-- What the state before the fault has recorded is permitted, since all of it has been asked for.
theorem split (hs : s.Settled) (hp : ∀ c ∈ s.constructs, env.permits c) (h : s.Fails env ts error) :
    ∃ us t vs s', ts = us ++ t :: vs ∧ s.Reads env.context us s' ∧
      (∀ c ∈ s'.constructs, env.permits c) ∧ s'.Stuck env t error.cause ∧ error.span = t.span := by
  induction h
  case stuck h => exact ⟨[], _, _, _, rfl, .refl, hp, h, rfl⟩
  case step hi ha _ ih =>
    have hp₁ := List.forall_mem_append.mpr ⟨hp, fun c hc => hi c <| Option.mem_toList.mp hc⟩
    rw [← ha.constructs_eq hs] at hp₁
    have ⟨us, t, vs, s', hts, hr, hrest⟩ := ih ha.settled hp₁
    exact ⟨_ :: us, t, vs, s', congrArg _ hts, .step ha hr, hrest⟩

theorem split_init (h : Fails env {} ts error) :
    ∃ us t vs s', ts = us ++ t :: vs ∧ Reads env.context {} us s' ∧
      (∀ c ∈ s'.constructs, env.permits c) ∧ s'.Stuck env t error.cause ∧ error.span = t.span :=
  h.split settled_init (constructs_init ▸ List.forall_mem_nil _)

theorem append_iff (hs : s.Settled) (hr : s.Reads env.context us s')
    (hp : ∀ c ∈ s'.constructs, env.permits c) : s.Fails env (us ++ ts) error ↔ s'.Fails env ts error := by
  induction hr
  case refl => exact Iff.rfl
  case step ha hr ih =>
    rw [← ih ha.settled hp]
    refine cons_iff_of_advance (fun c hc => hp c <| hr.constructs_subset ha.settled ?_) ha
    rw [ha.constructs_eq hs]
    exact List.mem_append_right _ <| Option.mem_toList.mpr hc

-- Without a configuration everything is permitted.
theorem append_iff_unrestricted (hr : Reads context {} us s) :
    Fails { context } {} (us ++ ts) error ↔ s.Fails { context } ts error :=
  append_iff settled_init hr fun _ _ => rfl

end Fails

end State

open State

variable {p : Parser} {s : State}

theorem fail_eq_error_iff : (p.fail s cause t ts).1 = .error error ↔ error = ⟨cause, t.span⟩ := by
  simp only [fail, Except.error.injEq]
  exact eq_comm

theorem finish_eq_error_iff (ht : t.kind = .eol) :
    (p.finish s t (t :: ts)).1 = .error error ↔ s.Fails p.toEnvironment (t :: ts) error := by
  by_cases hy : ∃ e, s.Yields e
  case pos =>
    have ⟨e, he⟩ := hy
    rw [finish_eq_ok_iff.mpr ⟨e, rfl, he⟩]
    refine iff_of_false nofun fun h => ?_
    cases h
    case stuck h   => exact ((stuck_eol_iff ht).mp h).2 e he
    case step ha _ => exact ha.kind_ne_eol ht
  case neg =>
    have hs : s.Stuck p.toEnvironment t _ := (stuck_eol_iff ht).mpr ⟨rfl, not_exists.mp hy⟩
    rw [Fails.cons_iff_of_stuck hs, finish_of_not_yields (not_exists.mp hy), fail_eq_error_iff, ht]

theorem run_eq_error_iff (he : ∃ t ∈ ts, t.kind = .eol) :
    (p.run s ts).1 = .error error ↔ s.Fails p.toEnvironment ts error := by
  induction ts generalizing s
  case nil => exact nomatch he
  case cons t ts ih =>
    by_cases ht : t.kind = .eol
    case pos => simp only [run, ht, if_true, finish_eq_error_iff ht]
    case neg =>
      obtain ⟨names, hc⟩ := consult_eq p.toEnvironment s t
      rw [← Fails.consulted_iff names]
      simp only [run, ht, if_false, hc]
      cases hs : { s with consulted := names }.step p.toEnvironment t
      case ok s₁ =>
        obtain ⟨hp, ha⟩ := step_eq_ok_iff.mp hs
        have he : ∃ t ∈ ts, t.kind = .eol := by simpa [ht] using he
        rw [ih he, Fails.cons_iff_of_advance hp ha]
      case error cause =>
        rw [Fails.cons_iff_of_stuck ((step_eq_error_iff ht).mp hs)]
        exact fail_eq_error_iff

-- A list that starts with its end is the empty query.
theorem parse_eq_error_iff (he : ∃ t ∈ ts, t.kind = .eol) :
    (ofTokens env ts).parse.1 = .error error ↔
      (∃ t ∈ ts.head?, t.kind ≠ .eol) ∧ State.Fails env {} ts error := by
  cases ts
  case nil => exact nomatch he
  case cons t ts =>
    by_cases ht : t.kind = .eol
    case pos => simp [parse, ofTokens, ht]
    case neg =>
      simp only [parse, ofTokens, List.headD_cons, ht, if_false, run_eq_error_iff he]
      simp [ht]

end FilterQuery.Parser
