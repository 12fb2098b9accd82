import FilterQuery.Proofs.Parser.Constructs
import FilterQuery.Query

namespace FilterQuery.Parser
namespace State

-- The text may end in this state, and then `e` is the whole query.
def Yields (s : State) (e : Expr) : Prop :=
  s.outer = [] ∧ ∃ operand, s.mode = .operandEnd operand ∧ s.group.disjunction operand = e

-- The tokens up to the end of the text can be read and make up the query `e`.
def Accepts (context : Option Context) (s : State) (ts : List Token) (e : Expr) : Prop :=
  ∃ us vs s', ts = us ++ vs ∧ (∀ t ∈ vs.head?, t.kind = .eol) ∧ s.Reads context us s' ∧ s'.Yields e

variable {s s' : State}

theorem Yields.unique (h : s.Yields e) (h' : s.Yields e') : e = e' := by
  have ⟨_, _, hm, he⟩ := h
  have ⟨_, _, hm', he'⟩ := h'
  cases hm.symm.trans hm'
  exact he.symm.trans he'

theorem Yields.constructs_eq (hs : s.Settled) (h : s.Yields e) : e.constructs = s.constructs := by
  have ⟨ho, _, hm, he⟩ := h
  rw [← he, constructs_disjunction hs hm, constructs_of_mode hm, ho]
  simp [outerConstructs, Mode.constructs]

theorem Advance.kind_ne_eol (h : s.Advance context t s') : t.kind ≠ .eol := by
  cases h
  case index hi       => rintro rfl; simp [readIndex] at hi
  case value hv       => rintro rfl; simp [value?] at hv
  case firstItem hv   => rintro rfl; simp [value?] at hv
  case item hv        => rintro rfl; simp [value?] at hv
  all_goals rintro ⟨⟩

theorem Reads.kind_ne_eol (h : s.Reads context ts s') : ∀ t ∈ ts, t.kind ≠ .eol := by
  induction h
  case refl         => exact fun _ => nofun
  case step ha _ ih => exact List.forall_mem_cons.mpr ⟨ha.kind_ne_eol, ih⟩

namespace Accepts

theorem nil_iff : s.Accepts context [] e ↔ s.Yields e := by
  constructor
  case mp =>
    intro ⟨us, vs, s', hts, _, hr, hy⟩
    have ⟨hu, _⟩ := List.append_eq_nil_iff.mp hts.symm
    subst hu
    cases hr
    exact hy
  case mpr => exact fun h => ⟨[], [], s, rfl, by simp, .refl, h⟩

theorem eol_iff (ht : t.kind = .eol) : s.Accepts context (t :: ts) e ↔ s.Yields e := by
  constructor
  case mp =>
    intro ⟨us, vs, s', hts, _, hr, hy⟩
    cases hr
    case refl => exact hy
    case step ha _ =>
      cases hts
      exact absurd ht ha.kind_ne_eol
  case mpr => exact fun h => ⟨[], t :: ts, s, rfl, by simp [ht], .refl, h⟩

theorem cons_iff (ht : t.kind ≠ .eol) :
    s.Accepts context (t :: ts) e ↔ ∃ s₁, s.Advance context t s₁ ∧ s₁.Accepts context ts e := by
  constructor
  case mp =>
    intro ⟨us, vs, s', hts, hv, hr, hy⟩
    cases hr
    case refl =>
      subst hts
      exact absurd (hv t rfl) ht
    case step ha hr =>
      injection hts with ht' hts
      subst ht'
      exact ⟨_, ha, _, vs, s', hts, hv, hr, hy⟩
  case mpr =>
    intro ⟨s₁, ha, us, vs, s', hts, hv, hr, hy⟩
    exact ⟨t :: us, vs, s', hts ▸ rfl, hv, .step ha hr, hy⟩

theorem append_iff (h : s.Reads context us s') :
    s.Accepts context (us ++ ts) e ↔ s'.Accepts context ts e := by
  induction h
  case refl => exact Iff.rfl
  case step ha _ ih =>
    rw [← ih, List.cons_append, cons_iff ha.kind_ne_eol]
    exact ⟨fun ⟨_, ha', h⟩ => ha.deterministic ha' ▸ h, fun h => ⟨_, ha, h⟩⟩

theorem consulted (h : s.Accepts context ts e) (names : List String) :
    { s with consulted := names }.Accepts context ts e := by
  have ⟨us, vs, s', hts, hv, hr, hy⟩ := h
  exact ⟨us, vs, _, hts, hv, hr.consulted names, hy⟩

-- A step decides on the first token, whatever names have been consulted before it.
theorem cons_iff_of_consulted (ht : t.kind ≠ .eol)
    (ha : { s with consulted := names }.Advance context t s') :
    s.Accepts context (t :: ts) e ↔ s'.Accepts context ts e := by
  rw [cons_iff ht]
  constructor
  case mp =>
    intro ⟨s₁, ha₁, h⟩
    exact ha.deterministic (ha₁.consulted names) ▸ h.consulted names
  case mpr => exact fun h => ⟨_, ha.consulted s.consulted, h.consulted s.consulted⟩

-- What the state has recorded stays part of the query.
theorem constructs_subset (hs : s.Settled) (h : s.Accepts context ts e) :
    s.constructs ⊆ e.constructs := by
  have ⟨_, _, _, _, _, hr, hy⟩ := h
  exact hy.constructs_eq (hr.settled hs) ▸ hr.constructs_subset hs

end Accepts

theorem step_eq_ok_iff {env : Environment} :
    s.step env t = .ok s' ↔
      (∀ c ∈ s.introduces env.context t.kind, env.permits c) ∧ s.Advance env.context t s' := by
  rw [← advance_eq_ok_iff]
  cases hi : s.introduces env.context t.kind
  case none => simp [step, hi]
  case some c => cases hc : env.permits c <;> simp [step, hi, hc, Option.filter]

theorem consult_eq (env : Environment) (s : State) (t : Token) :
    ∃ names, s.consult env t = { s with consulted := names } := by
  simp only [consult]
  split
  · split
    · exact ⟨_, rfl⟩
    · exact ⟨s.consulted, rfl⟩
  · exact ⟨s.consulted, rfl⟩

end State

open State

variable {p : Parser} {s : State}

theorem fail_ne_ok : (p.fail s cause t ts).1 ≠ .ok r := by
  simp [fail]

theorem finish_of_yields (h : s.Yields e) : p.finish s t ts = (.ok (some e), p.leave s s.depth ts) := by
  obtain ⟨ho, operand, hm, rfl⟩ := h
  simp only [finish, hm, ho]

theorem finish_of_not_yields (h : ∀ e, ¬s.Yields e) :
    p.finish s t ts = p.fail s (.unexpected s.expects t.kind) t ts := by
  unfold finish
  split
  · exact absurd ⟨‹_›, _, ‹_›, rfl⟩ (h _)
  · rfl

theorem finish_eq_ok_iff : (p.finish s t ts).1 = .ok r ↔ ∃ e, r = some e ∧ s.Yields e := by
  by_cases hy : ∃ e, s.Yields e
  case pos =>
    have ⟨e, he⟩ := hy
    rw [finish_of_yields he]
    constructor
    case mp  => exact fun h => ⟨e, (Except.ok.inj h).symm, he⟩
    case mpr => rintro ⟨_, rfl, he'⟩; rw [he.unique he']
  case neg =>
    rw [finish_of_not_yields (not_exists.mp hy)]
    exact iff_of_false fail_ne_ok fun ⟨e, _, he⟩ => hy ⟨e, he⟩

theorem permits_of_yields (hs : s.Settled) (hp : ∀ c ∈ s.constructs, p.permits c) :
    (∃ e, r = some e ∧ s.Yields e) ↔
      ∃ e, r = some e ∧ s.Yields e ∧ ∀ c ∈ e.constructs, p.permits c := by
  refine exists_congr fun e => and_congr_right fun _ => (and_iff_left_of_imp fun hy => ?_).symm
  exact hy.constructs_eq hs ▸ hp

-- A configuration is asked about nothing but the constructs of the query.
theorem run_eq_ok_iff (hs : s.Settled) (hp : ∀ c ∈ s.constructs, p.permits c) :
    (p.run s ts).1 = .ok r ↔
      ∃ e, r = some e ∧ s.Accepts p.context ts e ∧ ∀ c ∈ e.constructs, p.permits c := by
  induction ts generalizing s
  case nil => simp only [run, finish_eq_ok_iff, Accepts.nil_iff, permits_of_yields hs hp]
  case cons t ts ih =>
    by_cases ht : t.kind = .eol
    case pos =>
      simp only [run, ht, if_true, finish_eq_ok_iff, Accepts.eol_iff ht, permits_of_yields hs hp]
    case neg =>
      have ⟨names, hc⟩ := consult_eq p.toEnvironment s t
      simp only [run, ht, if_false, hc]
      have hs₀ : { s with consulted := names }.Settled := hs
      cases hstep : { s with consulted := names }.step p.toEnvironment t
      case ok s₁ =>
        have ⟨hi, ha⟩ := step_eq_ok_iff.mp hstep
        have hp₁ : ∀ c ∈ s₁.constructs, p.permits c := by
          rw [ha.constructs_eq hs₀]
          intro c hc
          exact (List.mem_append.mp hc).elim (hp c) (hi c <| Option.mem_toList.mp ·)
        simp only [ih ha.settled hp₁, Accepts.cons_iff_of_consulted ht ha]
      case error cause =>
        refine iff_of_false fail_ne_ok fun ⟨e, _, h, he⟩ => ?_
        have ⟨s₁, ha, h₁⟩ := (Accepts.cons_iff ht).mp h
        have hi : ∀ c ∈ s.introduces p.context t.kind, p.permits c := by
          intro c hc
          apply he c <| h₁.constructs_subset ha.settled _
          rw [ha.constructs_eq hs]
          exact List.mem_append_right _ <| Option.mem_toList.mpr hc
        have hok : { s with consulted := names }.step p.toEnvironment t = .ok _ :=
          step_eq_ok_iff.mpr ⟨hi, ha.consulted names⟩
        exact nomatch hstep.symm.trans hok

theorem run_init_eq_ok_iff :
    (p.run {} ts).1 = .ok r ↔
      ∃ e, r = some e ∧ State.Accepts p.context {} ts e ∧ ∀ c ∈ e.constructs, p.permits c :=
  run_eq_ok_iff (fun _ => nofun) (fun _ => nofun)

theorem not_yields_init : ¬State.Yields {} e :=
  fun ⟨_, _, hm, _⟩ => nomatch hm

theorem kind_headD_eol (env : Environment) (ts : List Token) :
    (ts.headD (ofTokens env ts).eol).kind = .eol ↔ ∀ t ∈ ts.head?, t.kind = .eol := by
  cases ts <;> simp [ofTokens, Token.endAt]

theorem parse_eq_none_iff {env : Environment} :
    (ofTokens env ts).parse.1 = .ok none ↔ ∀ t ∈ ts.head?, t.kind = .eol := by
  rw [← kind_headD_eol env, parse]
  split
  case isTrue h => exact iff_of_true rfl h
  case isFalse h =>
    refine iff_of_false (fun hr => ?_) h
    have ⟨_, he, _⟩ := run_init_eq_ok_iff.mp hr
    exact nomatch he

theorem parse_eq_some_iff {env : Environment} :
    (ofTokens env ts).parse.1 = .ok (some e) ↔
      State.Accepts env.context {} ts e ∧ ∀ c ∈ e.constructs, env.permits c := by
  rw [parse]
  split
  case isTrue h =>
    refine iff_of_false nofun fun ⟨ha, _⟩ => ?_
    replace h := (kind_headD_eol env ts).mp h
    cases ts
    case nil  => exact not_yields_init <| Accepts.nil_iff.mp ha
    case cons => exact not_yields_init <| (Accepts.eol_iff (h _ rfl)).mp ha
  case isFalse =>
    apply run_init_eq_ok_iff.trans
    simp only [Option.some.injEq, exists_eq_left']
    exact .rfl

end FilterQuery.Parser

namespace FilterQuery

theorem parse_of_tokenize (h : tokenize text = .ok ts) :
    parse text context config = (Parser.ofTokens { context, config } ts).parse.1 := by
  simp [parse, h, bind, Except.bind]

theorem parse_eq_ok_iff :
    parse text context config = .ok r ↔
      ∃ ts, tokenize text = .ok ts ∧ (Parser.ofTokens { context, config } ts).parse.1 = .ok r := by
  simp only [parse]
  cases tokenize text <;> simp [bind, Except.bind]

end FilterQuery
