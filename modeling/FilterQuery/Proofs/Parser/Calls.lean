import FilterQuery.Proofs.Parser.Depth

namespace FilterQuery.Parser

open ParseError (Cause)

-- The parser after `n` calls.
def afterCalls (p : Parser) : Nat → Parser
  | 0 => p
  | n + 1 => (p.afterCalls n).parse.2

-- The state in which a call begins.
def start (p : Parser) : State :=
  { depth := p.depth, consulted := p.consulted }

-- The states that a call goes through, each with the tokens that are left then.
inductive Passes (p : Parser) : State → List Token → Prop
  | start (h : (p.rest.headD p.eol).kind ≠ .eol) : Passes p p.start p.rest
  | step (h : Passes p s (t :: ts)) (ht : t.kind ≠ .eol)
    (hs : (s.consult p.toEnvironment t).step p.toEnvironment t = .ok s') : Passes p s' ts

-- How a call ends: with a query, or at a token that cannot be read, which may be the one that stands for the end.
inductive Ends (p : Parser) (s : State) (ts : List Token) : Except ParseError (Option Expr) × Parser → Prop
  | query (hy : s.Yields e) (ht : (ts.headD p.eol).kind = .eol) :
    Ends p s ts (.ok (some e), p.leave s s.depth ts)
  | error (hs : s.Stuck p.toEnvironment (ts.headD p.eol) cause) :
    Ends p s ts (p.fail (s.consult p.toEnvironment (ts.headD p.eol)) cause (ts.headD p.eol) ts)

variable {p : Parser} {s : State}

namespace Passes

theorem parse_eq (h : p.Passes s ts) : p.parse = p.run s ts := by
  induction h
  case start h       => exact if_neg h
  case step ht hs ih => simpa only [run, ht, if_false, hs] using ih

-- Tokens are taken from the front, and one by each step.
theorem suffix (h : p.Passes s ts) : ts <:+ p.rest := by
  induction h
  case start   => exact List.suffix_refl _
  case step ih => exact (List.suffix_cons ..).trans ih

theorem eq_start_or (h : p.Passes s ts) : s = p.start ∧ ts = p.rest ∨ ts.length < p.rest.length := by
  cases h
  case start  => exact .inl ⟨rfl, rfl⟩
  case step h => exact .inr h.suffix.length_le

theorem counted (hd : p.depth ≤ maxDepth) (h : p.Passes s ts) : s.Counted p.depth := by
  induction h
  case start => exact State.counted_init hd p.consulted
  case step s t _ _ _ _ hs ih =>
    have ⟨names, hc⟩ := s.consult_eq p.toEnvironment t
    exact (State.step_eq_ok_iff.mp (hc ▸ hs)).2.counted (ih.consulted names)

end Passes

theorem consult_eol (env : Environment) (s : State) (ht : t.kind = .eol) : s.consult env t = s := by
  simp [State.consult, ht, State.introduces_eol]

theorem finish_ends (ht : (ts.headD p.eol).kind = .eol) : p.Ends s ts (p.finish s (ts.headD p.eol) ts) := by
  by_cases hy : ∃ e, s.Yields e
  case pos =>
    have ⟨e, hy⟩ := hy
    exact finish_of_yields hy ▸ .query hy ht
  case neg =>
    have hs : s.Stuck p.toEnvironment (ts.headD p.eol) (.unexpected s.expects .eol) :=
      (State.stuck_eol_iff ht).mpr ⟨rfl, not_exists.mp hy⟩
    have he := Ends.error hs
    rw [consult_eol _ s ht, ← ht] at he
    exact finish_of_not_yields (not_exists.mp hy) ▸ he

theorem Passes.exists_ends (he : p.eol.kind = .eol) (h : p.Passes s ts) :
    ∃ s' ts', ts' <:+ ts ∧ p.Passes s' ts' ∧ p.Ends s' ts' p.parse := by
  induction ts generalizing s
  case nil => exact ⟨s, [], List.suffix_refl _, h, h.parse_eq ▸ finish_ends he⟩
  case cons t ts ih =>
    by_cases ht : t.kind = .eol
    case pos =>
      refine ⟨s, _, List.suffix_refl _, h, ?_⟩
      rw [h.parse_eq, run, if_pos ht]
      exact finish_ends ht
    case neg =>
      cases hs : (s.consult p.toEnvironment t).step p.toEnvironment t
      case ok =>
        obtain ⟨s', ts', hts, hend⟩ := ih (h.step ht hs)
        exact ⟨s', ts', hts.trans (List.suffix_cons ..), hend⟩
      case error cause =>
        refine ⟨s, _, List.suffix_refl _, h, ?_⟩
        obtain ⟨names, hc⟩ := s.consult_eq p.toEnvironment t
        have hstuck := ((State.step_eq_error_iff ht).mp (hc ▸ hs)).consulted s.consulted
        have hp : p.parse = p.fail (s.consult p.toEnvironment t) cause t (t :: ts) := by
          simp only [h.parse_eq, run, ht, if_false, hs]
        exact hp ▸ .error hstuck

namespace Ends

variable {result : Except ParseError (Option Expr) × Parser}

theorem rest_suffix (h : p.Ends s ts result) : result.2.rest <:+ ts := by
  cases h
  case query => exact List.suffix_refl _
  case error =>
    simp only [fail, leave]
    split
    · exact List.drop_suffix ..
    · exact List.suffix_refl _

theorem depth_of_yields (hs : s.Counted base) (hy : s.Yields e) : s.depth = base := by
  have ⟨ho, _, hm, _⟩ := hy
  have ⟨_, hn⟩ := hs.settled _ hm
  have hq := hs.depth_eq
  rwa [State.opened, ho, hn] at hq

-- Where the depth is given back although an error is found, a parenthesis is open.
theorem le_abandonedDepth (hs : s.Counted base) (cause : Cause) : base ≤ s.abandonedDepth cause := by
  have hq := hs.depth_eq
  simp only [State.abandonedDepth]
  split
  · simp_all only [State.opened, openDepth]
    omega
  · omega

theorem depth_bounds (hs : s.Counted base) (h : p.Ends s ts result) :
    base ≤ result.2.depth ∧ result.2.depth ≤ maxDepth := by
  cases h
  case query => exact ⟨hs.le_depth, hs.depth_le⟩
  case error cause _ =>
    have ⟨names, hc⟩ := s.consult_eq p.toEnvironment (ts.headD p.eol)
    have hs := hs.consulted names
    rw [hc]
    exact ⟨le_abandonedDepth hs cause, Nat.le_trans (State.abandonedDepth_le ..) hs.depth_le⟩

theorem of_ok (hs : s.Counted base) (h : p.Ends s ts result) (hr : result.1 = .ok r) :
    result.2.depth = base ∧ (result.2.rest.headD result.2.eol).kind = .eol := by
  cases h
  case query hy ht => exact ⟨depth_of_yields hs hy, ht⟩
  case error       => exact nomatch hr

-- Where an operand has to stand, a token that is not used up is no name.
theorem consult_eq_self (hm : s.mode = .operand) (hs : s.Stuck env t cause) (ht : s.takes cause = false) :
    s.consult env t = s := by
  obtain ⟨kind, span⟩ := t
  cases kind <;> simp only [State.consult, State.introduces, hm]
  case identifier =>
    cases hs
    case forbidden  => cases ht
    case fault ha _ => exact absurd (.identifier hm) (ha _)

-- The first state of a call gives the parser back, unless it uses up a token.
theorem eq_self (hp : p.rest ≠ []) (h : p.Ends p.start p.rest result) (hr : result.2.rest = p.rest) :
    result.2 = p := by
  cases h
  case query hy _ =>
    have ⟨_, _, hm, _⟩ := hy
    exact nomatch hm
  case error cause hs =>
    have ⟨names, hc⟩ := p.start.consult_eq p.toEnvironment (p.rest.headD p.eol)
    simp only [fail, leave] at hr
    split at hr
    case isTrue =>
      have hl := congrArg List.length hr
      have := List.length_pos_iff.mpr hp
      simp only [List.length_drop] at hl
      omega
    case isFalse ht =>
      rw [hc] at ht
      replace ht : p.start.takes cause = false := Bool.not_eq_true _ ▸ ht
      rw [consult_eq_self rfl hs ht]
      simp only [fail, leave, ht]
      simp [start, State.abandonedDepth]

end Ends

-- What a parser is before every call.
structure Ready (p : Parser) : Prop where
  eol      : p.eol.kind = .eol
  depth_le : p.depth ≤ maxDepth

-- What calls leave of the parser `p`.
structure Follows (p q : Parser) : Prop where
  environment : q.toEnvironment = p.toEnvironment
  eol         : q.eol = p.eol
  rest        : q.rest <:+ p.rest
  depth_ge    : p.depth ≤ q.depth
  depth_le    : q.depth ≤ maxDepth

theorem ready_ofTokens (env : Environment) (ts : List Token) : (ofTokens env ts).Ready :=
  ⟨rfl, Nat.zero_le _⟩

namespace Follows

theorem refl (hp : p.Ready) : p.Follows p :=
  ⟨rfl, rfl, List.suffix_refl _, Nat.le_refl _, hp.depth_le⟩

theorem trans (h : p.Follows q) (h' : q.Follows r) : p.Follows r :=
  ⟨h'.environment.trans h.environment, h'.eol.trans h.eol, h'.rest.trans h.rest,
    Nat.le_trans h.depth_ge h'.depth_ge, h'.depth_le⟩

theorem ready (hp : p.Ready) (h : p.Follows q) : q.Ready :=
  ⟨h.eol ▸ hp.eol, h.depth_le⟩

theorem of_ends (hd : p.depth ≤ maxDepth) (hs : p.Passes s ts) (h : p.Ends s ts result) :
    p.Follows result.2 := by
  have ⟨hge, hle⟩ := h.depth_bounds (hs.counted hd)
  have hr := h.rest_suffix.trans hs.suffix
  cases h <;> exact ⟨rfl, rfl, hr, hge, hle⟩

end Follows

theorem parse_of_eol (h : (p.rest.headD p.eol).kind = .eol) : p.parse = (.ok none, p) :=
  if_pos h

theorem parse_ends (hp : p.Ready) (h : (p.rest.headD p.eol).kind ≠ .eol) :
    ∃ s ts, p.Passes s ts ∧ p.Ends s ts p.parse :=
  have ⟨s, ts, _, hs, hend⟩ := (Passes.start h).exists_ends hp.eol
  ⟨s, ts, hs, hend⟩

theorem parse_follows (hp : p.Ready) : p.Follows p.parse.2 := by
  by_cases h : (p.rest.headD p.eol).kind = .eol
  case pos => rw [parse_of_eol h]; exact .refl hp
  case neg =>
    have ⟨_, _, hs, hend⟩ := parse_ends hp h
    exact .of_ends hp.depth_le hs hend

theorem parse_of_ok (hp : p.Ready) (h : p.parse.1 = .ok r) :
    p.parse.2.depth = p.depth ∧ (p.parse.2.rest.headD p.parse.2.eol).kind = .eol := by
  by_cases ht : (p.rest.headD p.eol).kind = .eol
  case pos => rw [parse_of_eol ht]; exact ⟨rfl, ht⟩
  case neg =>
    have ⟨_, _, hs, hend⟩ := parse_ends hp ht
    exact hend.of_ok (hs.counted hp.depth_le) h

theorem parse_eq_self (hp : p.Ready) (h : p.parse.2.rest = p.rest) : p.parse.2 = p := by
  by_cases ht : (p.rest.headD p.eol).kind = .eol
  case pos => rw [parse_of_eol ht]
  case neg =>
    have hne : p.rest ≠ [] := fun hn => ht (by simp [hn, hp.eol])
    have ⟨_, _, hs, hend⟩ := parse_ends hp ht
    rcases hs.eq_start_or with ⟨rfl, rfl⟩ | hl
    case inl => exact hend.eq_self hne h
    case inr =>
      have hle := hend.rest_suffix.length_le
      rw [h] at hle
      omega

theorem afterCalls_follows (hp : p.Ready) (n : Nat) : p.Follows (p.afterCalls n) := by
  induction n
  case zero    => exact .refl hp
  case succ ih => exact ih.trans <| parse_follows <| ih.ready hp

theorem afterCalls_of_parse_eq (h : p.parse.2 = p) (n : Nat) : p.afterCalls n = p := by
  induction n
  case zero    => rfl
  case succ ih => rw [afterCalls, ih, h]

theorem afterCalls_succ (p : Parser) (n : Nat) : p.afterCalls (n + 1) = p.parse.2.afterCalls n := by
  induction n
  case zero    => rfl
  case succ ih => rw [afterCalls, ih, afterCalls]

theorem afterCalls_add (p : Parser) (m n : Nat) : p.afterCalls (m + n) = (p.afterCalls m).afterCalls n := by
  induction n
  case zero    => rfl
  case succ ih => rw [afterCalls, ← ih]; rfl

-- Every call uses up a token, until one changes nothing.
theorem parse_afterCalls_eq_self (hp : p.Ready) (h : p.rest.length ≤ n) :
    (p.afterCalls n).parse.2 = p.afterCalls n := by
  induction n generalizing p
  case zero    =>
    have hn : p.rest = [] := List.length_eq_zero_iff.mp (Nat.le_zero.mp h)
    exact congrArg Prod.snd <| parse_of_eol (by simp [afterCalls, hn, hp.eol])
  case succ n ih =>
    by_cases he : p.parse.2.rest = p.rest
    case pos =>
      have he := parse_eq_self hp he
      rw [afterCalls_of_parse_eq he, he]
    case neg =>
      have hf := parse_follows hp
      have hl := Nat.lt_of_le_of_ne hf.rest.length_le fun hl => he (hf.rest.eq_of_length hl)
      rw [afterCalls_succ]
      exact ih (hf.ready hp) (by omega)

-- Tokens are only used up from the front. The depth counts what is open on top of what earlier calls have left,
-- so closing takes away no more than there is. Only errors leave depth behind, and a call that uses up no token
-- changes nothing.
theorem parse_repeated (env : Environment) (ts : List Token) (n : Nat) :
    let p := (ofTokens env ts).afterCalls n
    let next := p.parse.2
    (p.rest <:+ ts ∧ next.rest <:+ p.rest) ∧
    (∀ s rest, p.Passes s rest →
      next.rest <:+ rest ∧ rest <:+ p.rest ∧ s.depth = p.depth + s.opened ∧ s.depth ≤ maxDepth) ∧
    (p.depth ≤ next.depth ∧ next.depth ≤ maxDepth) ∧
    (∀ r, p.parse.1 = .ok r →
      next.depth = p.depth ∧ (next.rest.headD next.eol).kind = .eol ∧
        ∀ k, (next.afterCalls k).parse = (.ok none, next)) ∧
    (next.rest = p.rest → next = p) ∧
    (ts.length ≤ n → ∀ k, ((ofTokens env ts).afterCalls (n + k)).parse.1 = p.parse.1) := by
  intro p next
  have h₀ := ready_ofTokens env ts
  have hp := afterCalls_follows h₀ n
  have hr := hp.ready h₀
  have hn : p.Follows next := parse_follows hr
  refine ⟨⟨hp.rest, hn.rest⟩, fun s rest hs => ?passed, ⟨hn.depth_ge, hn.depth_le⟩, fun r ho => ?success,
    parse_eq_self hr, fun hl k => ?stable⟩
  case passed =>
    have ⟨_, _, hts, _, hend⟩ := hs.exists_ends hr.eol
    have hc := hs.counted hr.depth_le
    exact ⟨hend.rest_suffix.trans hts, hs.suffix, hc.depth_eq, hc.depth_le⟩
  case success =>
    have ⟨hd, ht⟩ := parse_of_ok hr ho
    have he : next.parse = (.ok none, next) := parse_of_eol ht
    have hk : ∀ k, next.afterCalls k = next := afterCalls_of_parse_eq (by rw [he])
    exact ⟨hd, ht, fun k => by rw [hk, he]⟩
  case stable =>
    have he : p.parse.2 = p := parse_afterCalls_eq_self h₀ hl
    rw [afterCalls_add, afterCalls_of_parse_eq he]

-- A parser over the tokens that are left ends where they end.
theorem eol_ofTokens_of_suffix (h : us <:+ ts) (hu : us ≠ []) :
    (ofTokens env us).eol = (ofTokens env ts).eol := by
  obtain ⟨vs, rfl⟩ := h
  have hl : (vs ++ us).getLast? = us.getLast? := by
    simp [List.getLast?_append, List.getLast?_eq_some_getLast hu]
  simp only [ofTokens, hl]

-- The depth that failed calls leave can only bring the limit nearer: apart from that, the next call does what
-- a new parser does with the tokens that are left.
theorem parse_resumed (env : Environment) (ts : List Token) (n : Nat) :
    let p := (ofTokens env ts).afterCalls n
    p.parse.1 = (ofTokens env p.rest).parse.1 ∨
      0 < p.depth ∧ ∃ span, p.parse.1 = .error ⟨.tooDeep, span⟩ := by
  intro p
  have h₀ := ready_ofTokens env ts
  have hp : (ofTokens env ts).Follows p := afterCalls_follows h₀ n
  have hend : p.rest ≠ [] → p.eol = (ofTokens env p.rest).eol := fun hne =>
    hp.eol.trans (eol_ofTokens_of_suffix hp.rest hne).symm
  by_cases ht : (p.rest.headD p.eol).kind = .eol
  case pos =>
    have ht' : ((ofTokens env p.rest).rest.headD (ofTokens env p.rest).eol).kind = .eol := by
      refine (kind_headD_eol env p.rest).mpr fun t hm => ?_
      rwa [List.headD_eq_head?_getD, Option.mem_def.mp hm] at ht
    exact .inl <| by rw [parse_of_eol ht, parse_of_eol ht']
  case neg =>
    have hne : p.rest ≠ [] := fun hn => ht (by simp [hn, (hp.ready h₀).eol])
    have hs : p.start = State.raised {} p.depth p.consulted := by simp [start, State.raised]
    have hc : State.Counted 0 {} := State.counted_init (Nat.zero_le _) []
    have hd : State.depth {} + p.depth ≤ maxDepth := Nat.zero_add _ ▸ hp.depth_le
    have henv : p.toEnvironment = (ofTokens env p.rest).toEnvironment := hp.environment
    have hq : p.parse = p.run p.start p.rest := if_neg ht
    have hf : (ofTokens env p.rest).parse = (ofTokens env p.rest).run {} p.rest := if_neg (hend hne ▸ ht)
    rw [hq, hf, hs]
    exact run_raised henv (hend hne) hc hd p.consulted p.rest

-- The parentheses before an error still count in the next call, which cannot even open a NOT.
theorem parse_resumed_leaked :
    let parens : List Token := (List.range maxDepth).map fun i => ⟨.openParen, ⟨i, i + 1⟩⟩
    let ts : List Token := parens ++
      [⟨.identifier "a", ⟨256, 257⟩⟩, ⟨.identifier "a", ⟨258, 259⟩⟩, ⟨.not, ⟨260, 263⟩⟩,
        ⟨.boolean true, ⟨264, 268⟩⟩, ⟨.eol, ⟨268, 268⟩⟩]
    let p := (ofTokens {} ts).afterCalls 1
    p.rest = ts.drop 258 ∧ p.depth = maxDepth ∧ p.parse.1 = .error ⟨.tooDeep, ⟨260, 263⟩⟩ ∧
      (ofTokens {} p.rest).parse.1 = .ok (some (.not (.boolean true))) := by
  decide +kernel

end FilterQuery.Parser
