import FilterQuery.Proofs.Lexer.Spans
import FilterQuery.Proofs.Parser.Acceptance
import FilterQuery.Proofs.Parser.Introductions
import FilterQuery.Proofs.Restriction

namespace FilterQuery
namespace Parser

open State

variable {env : Environment} {s : State} {ts : List Token}

-- The configuration is asked in the order of the tokens.
theorem State.Fails.find?_introductions (h : Fails env {} ts error)
    (hc : error.category = .restricted) :
    ∃ c, error.cause = .forbidden c ∧
      (introductions env.context ts).find? (!env.permits ·.1) = some (c, error.span) := by
  have ⟨us, t, vs, s, hts, hr, hp, hs, hspan⟩ := h.split_init
  have ⟨c, hcause, hi, hn⟩ := hs.of_restricted hc
  have hi := introduced?_of_introduces hr.after_init hi
  have hus : (introductions env.context us).find? (!env.permits ·.1) = none := by
    simp only [List.find?_eq_none, Bool.not_eq_true', Bool.not_eq_false]
    exact fun m hm => hp _ <| hr.constructs_eq_init ▸ List.mem_map_of_mem hm
  refine ⟨c, hcause, ?_⟩
  simp [hts, introductions_split, List.find?_append, hus, hi, hn, hspan]

theorem State.Fails.span_mem (h : s.Fails env ts error) : ∃ t ∈ ts, error.span = t.span := by
  induction h
  case stuck => exact ⟨_, List.mem_cons_self .., rfl⟩
  case step ih =>
    have ⟨t, ht, hs⟩ := ih
    exact ⟨t, List.mem_cons_of_mem _ ht, hs⟩

-- Up to its error, the restricted parser has read what the unrestricted one reads.
theorem State.Fails.start_le (hts : ts.Pairwise (·.span.start < ·.span.start))
    (h : Fails env {} ts error) (h' : Fails { context := env.context } {} ts error') :
    error.span.start ≤ error'.span.start := by
  have ⟨us, t, vs, s, he, hr, _, _, hspan⟩ := h.split_init
  have ⟨u, hu, hspan'⟩ := ((Fails.append_iff_unrestricted hr).mp (he ▸ h')).span_mem
  have hlt := (List.pairwise_cons.mp (List.pairwise_append.mp (he ▸ hts)).2.1).1
  rw [hspan, hspan']
  cases hu
  case head    => exact Nat.le_refl _
  case tail hu => exact Nat.le_of_lt (hlt u hu)

-- What else is wrong is wrong without the configuration too.
theorem State.Fails.unrestricted (h : Fails env {} ts error) (hc : error.category ≠ .restricted) :
    Fails { context := env.context } {} ts error := by
  have ⟨us, t, vs, s, hts, hr, _, hs, hspan⟩ := h.split_init
  have he : error = ⟨error.cause, t.span⟩ := hspan ▸ rfl
  rw [hts, Fails.append_iff_unrestricted hr, he]
  exact .stuck (hs.of_not_restricted hc)

-- All that stands before such an error is permitted, and so is a token that would nest too deeply.
theorem State.Fails.permits_introduction (hts : ts.Pairwise (·.span.start < ·.span.start))
    (h : Fails env {} ts error) (hc : error.category ≠ .restricted)
    (hm : m ∈ introductions env.context ts)
    (hb : m.2.start < error.span.start ∨ error.cause = .tooDeep ∧ m.2 = error.span) :
    env.permits m.1 := by
  have ⟨us, t, vs, s, he, hr, hp, hs, hspan⟩ := h.split_init
  rw [hspan] at hb
  rw [he, introductions_split] at hm
  cases List.mem_append.mp hm
  case inl hm => exact hp _ <| hr.constructs_eq_init ▸ List.mem_map_of_mem hm
  case inr hm =>
    cases List.mem_append.mp hm
    case inl hm =>
      have ⟨c, hi, hc'⟩ := List.mem_map.mp hm
      have ⟨hf, hp⟩ := hs.fault_of_not_restricted hc
      subst hc'
      have hd := (hb.resolve_left (Nat.lt_irrefl _)).1
      rw [introduced?_eq_of_tooDeep hr.after_init (hf ▸ hd)] at hi
      exact hp c <| Option.mem_toList.mp hi
    case inr hm =>
      have ⟨u, hu, hmu⟩ := mem_of_introductionsAfter hm
      have hlt := (List.pairwise_cons.mp (List.pairwise_append.mp (he ▸ hts)).2.1).1 u hu
      rw [hmu] at hb
      cases hb
      case inl hb => omega
      case inr hb => rw [hb.2] at hlt; omega

-- Up to the end of the text, an accepted list introduces the constructs of its query.
theorem State.Accepts.introductions_eq (h : Accepts context {} (us ++ [last]) e)
    (hu : ∀ t ∈ us, t.kind ≠ .eol) (hl : last.kind = .eol) :
    (introductions context (us ++ [last])).map Prod.fst = e.constructs := by
  have ⟨us', vs, s, hts, hv, hr, hy⟩ := h
  have he := before_eol_unique hu hl hr.kind_ne_eol hv hts
  rw [hy.constructs_eq (hr.settled settled_init), hr.constructs_eq_init, he, introductions_split]
  simp [hl, introduced?_eol, introductionsAfter]

end Parser

open Parser.State (Fails)

variable {context : Option Context} {config : Config}

theorem exists_eol_of_tokenize (ht : tokenize text = .ok ts) : ∃ t ∈ ts, t.kind = .eol := by
  have ⟨us, last, hts, hl, _⟩ := (Lexer.placed_of_tokenize ht).ends
  exact ⟨last, hts ▸ List.mem_append_right _ (List.mem_singleton_self _), hl⟩

theorem parse_eq_error_iff_fails (ht : tokenize text = .ok ts) {config : Option Config} :
    parse text context config = .error error ↔
      (∃ t ∈ ts.head?, t.kind ≠ .eol) ∧ Fails { context, config } {} ts error := by
  rw [parse_of_tokenize ht, Parser.parse_eq_error_iff (exists_eol_of_tokenize ht)]

theorem parse_restricted_eq (ht : tokenize text = .ok ts)
    (h : ∀ error, parse text context (some config) = .error error → error.category ≠ .restricted) :
    parse text context (some config) = parse text context := by
  cases hr : parse text context (some config)
  case ok r        => exact (parse_restricted_iff_permits.mp hr).1.symm
  case error error =>
    have ⟨hne, hf⟩ := (parse_eq_error_iff_fails ht).mp hr
    exact ((parse_eq_error_iff_fails ht).mpr ⟨hne, hf.unrestricted (h error hr)⟩).symm

theorem introductions_eq_constructs (ht : tokenize text = .ok ts) (h : parse text context = .ok (some e)) :
    (Parser.introductions context ts).map Prod.fst = e.constructs := by
  have ⟨us, last, hts, hl, hu⟩ := (Lexer.placed_of_tokenize ht).ends
  subst hts
  rw [parse_of_tokenize ht, Parser.parse_eq_some_iff] at h
  exact h.1.introductions_eq hu hl

theorem introductions_eq_nil (ht : tokenize text = .ok ts) (h : parse text context = .ok none) :
    Parser.introductions context ts = [] := by
  have ⟨us, last, hts, hl, hu⟩ := (Lexer.placed_of_tokenize ht).ends
  rw [parse_of_tokenize ht, hts, Parser.parse_eq_none_iff_nil hu hl] at h
  simp [hts, h, Parser.introductions, Parser.introductionsAfter, hl, Parser.introduced?_eol]

-- If the restricted parser finds no violation, the configuration changes nothing. If it finds one, that is the first
-- one, and nothing before it is wrong; and it finds one if what is not permitted stands before any other error.
theorem parse_restricted_error (text : String) (context : Option Context) (config : Config)
    (ts : List Token) (ht : tokenize text = .ok ts) :
    let free := parse text context
    let restricted := parse text context (some config)
    let introductions := Parser.introductions context ts
    ((∀ error, restricted = .error error → error.category ≠ .restricted) → restricted = free) ∧
    (∀ e, free = .ok (some e) → introductions.map Prod.fst = e.constructs) ∧
    (∀ error, restricted = .error error → error.category = .restricted →
      ∃ c, error.cause = .forbidden c ∧
        introductions.find? (!config.permits ·.1) = some (c, error.span) ∧
        ∀ fault, free = .error fault → error.span.start ≤ fault.span.start) ∧
    (∀ m ∈ introductions, ¬config.permits m.1 →
      (∀ fault, free = .error fault →
        m.2.start < fault.span.start ∨ fault.cause = .tooDeep ∧ m.2 = fault.span) →
      ∃ error, restricted = .error error ∧ error.category = .restricted) := by
  intro free restricted introductions
  have hlt := (Lexer.placed_of_tokenize ht).starts_increase
  refine ⟨parse_restricted_eq ht, fun e => introductions_eq_constructs ht, fun error hr hc => ?first,
    fun m hm hn hb => ?reached⟩
  case first =>
    have hf := ((parse_eq_error_iff_fails ht).mp hr).2
    have ⟨c, hcause, hfind⟩ := hf.find?_introductions hc
    refine ⟨c, hcause, hfind, fun fault hfree => ?_⟩
    exact hf.start_le hlt ((parse_eq_error_iff_fails ht).mp hfree).2
  case reached =>
    by_contra hnone
    have hc : ∀ error, restricted = .error error → error.category ≠ .restricted :=
      fun error hr hc => hnone ⟨error, hr, hc⟩
    have heq := parse_restricted_eq ht hc
    cases hr : restricted
    case ok r =>
      have ⟨hfree, hp⟩ := parse_restricted_iff_permits.mp hr
      cases r
      case none =>
        have hm : m ∈ Parser.introductions context ts := hm
        exact nomatch (introductions_eq_nil ht hfree ▸ hm : m ∈ [])
      case some e =>
        have hmem := List.mem_map_of_mem (f := Prod.fst) hm
        exact hn <| hp e rfl _ (introductions_eq_constructs ht hfree ▸ hmem)
    case error error =>
      have hf := ((parse_eq_error_iff_fails ht).mp hr).2
      exact hn <| hf.permits_introduction hlt (hc error hr) hm (hb error (heq.symm.trans hr))

-- The list that never comes is not missed any more: OR stands before it, and before the NOT.
theorem parse_restricted_error_disjunction :
    let text := "a = 1 OR NOT (b IN"
    let config : Config := { logicalOperators := some [.connective .and] }
    let ts : List Token :=
      [⟨.identifier "a", ⟨0, 1⟩⟩, ⟨.comparison .eq, ⟨2, 3⟩⟩, ⟨.number "1", ⟨4, 5⟩⟩,
        ⟨.connective .or, ⟨6, 8⟩⟩, ⟨.not, ⟨9, 12⟩⟩, ⟨.openParen, ⟨13, 14⟩⟩,
        ⟨.identifier "b", ⟨14, 15⟩⟩, ⟨.membership, ⟨16, 18⟩⟩, ⟨.eol, ⟨18, 18⟩⟩]
    tokenize text = .ok ts ∧
    ∃ c, (Parser.introductions none ts).find? (!config.permits ·.1) = some (c, ⟨6, 8⟩) ∧
      ∀ fault, parse text = .error fault → 6 ≤ fault.span.start := by
  intro text config ts
  have ht : tokenize text = .ok ts := by decide +kernel
  let error : ParseError := ⟨.forbidden (.logicalOperator (.connective .or)), ⟨6, 8⟩⟩
  have hr : parse text none (some config) = .error error := by decide +kernel
  obtain ⟨c, _, hfind, hle⟩ := (parse_restricted_error text none config ts ht).2.2.1 error hr rfl
  exact ⟨ht, c, hfind, hle⟩

end FilterQuery
