import FilterQuery.Proofs.FirstViolation
import FilterQuery.Proofs.Lexer.LongestMatch
import FilterQuery.Proofs.Parser.Places

namespace FilterQuery

open Text (size)

namespace Lexer

-- A lexeme is read without what stands behind it.
theorem Longest.of_append (h : Longest (cs ++ after) text kind (left ++ after)) : Longest cs text kind left where
  lexeme := h.lexeme
  split := List.append_cancel_right <| (List.append_assoc ..).trans h.split
  longest _ _ hl hp := h.longest _ _ hl <| hp.trans <| List.prefix_append ..

-- So a gap may stand there instead.
theorem scan_exchange (h : scan c (cs ++ after) = .lexeme kind text (left ++ after)) (hb : isGap b)
    (more : List Char) : scan c (cs ++ b :: more) = .lexeme kind text (left ++ b :: more) := by
  have hl : Longest (c :: cs) text kind left := (scan_eq_lexeme_iff.mp h).of_append
  have hm : Closes (b :: more) ∧ b ≠ ')' := by
    simp only [isGap, Bool.or_eq_true, beq_iff_eq] at hb
    rcases hb with ((rfl | rfl) | rfl) | rfl <;> exact ⟨.cons (by decide), by decide⟩
  exact scan_append_left (scan_eq_lexeme_iff.mpr hl) (fun _ => by simpa using hm.2) hm.1

theorem Cuts.skip (hb : ∀ c ∈ blanks, isGap c) (h : Cuts cs kinds left) : Cuts (blanks ++ cs) kinds left := by
  induction blanks
  case nil => exact h
  case cons ih =>
    have ⟨hc, hb⟩ := List.forall_mem_cons.mp hb
    exact .gap hc (ih hb)

-- The place is inside none of the tokens.
def Between (place : Nat) (ts : List Token) : Prop :=
  ∀ t ∈ ts, place ≤ t.span.start ∨ t.span.stop ≤ place

theorem split_of_size_le (ht : text ++ left = before ++ after) (hs : size text ≤ size before) :
    ∃ more, before = text ++ more ∧ left = more ++ after := by
  rcases List.append_eq_append_iff.mp ht with ⟨more, hb, hl⟩ | ⟨more, hb, hl⟩
  case inl => exact ⟨more, hb, hl⟩
  case inr =>
    have hn : more = [] := by
      by_contra hn
      have hp := size_pos hn
      rw [hb, Text.size_append] at hs
      omega
    exact ⟨[], by simp [hb, hn], by simp [hl, hn]⟩

-- Induction on what stands before the place; behind it the text is cut as it was.
theorem Placed.insert (h : Placed start (before ++ after) ts) (hp : Between (start + size before) ts)
    (hb : ∀ c ∈ b :: blanks, isGap c) :
    ∃ kinds, Cuts (before ++ (b :: blanks ++ after)) kinds [] ∧ ts.map Token.kind = kinds ++ [.eol] := by
  generalize hcs : before ++ after = cs at h
  induction h generalizing before
  case done =>
    obtain ⟨rfl, rfl⟩ := List.append_eq_nil_iff.mp hcs
    have hk : Cuts (b :: blanks ++ []) [] [] := Cuts.done.skip hb
    exact ⟨[], hk, rfl⟩
  case gap hc h ih =>
    cases before
    case nil =>
      obtain rfl : after = _ := hcs
      have ⟨kinds, hk, ht⟩ := h.cuts
      have hk := (Cuts.gap hc hk).skip hb
      exact ⟨kinds, hk, ht⟩
    case cons d ds =>
      obtain ⟨rfl, rfl⟩ := List.cons.inj hcs
      rw [Text.size_cons, ← Nat.add_assoc] at hp
      have ⟨kinds, hk, ht⟩ := ih hp rfl
      exact ⟨kinds, .gap hc hk, ht⟩
  case lexeme kind text left _ _ hs h ih =>
    cases before
    case nil =>
      obtain rfl : after = _ := hcs
      have ⟨kinds, hk, ht⟩ := h.cuts
      have hk := (Cuts.lexeme hs hk).skip hb
      exact ⟨kind :: kinds, hk, congrArg _ ht⟩
    case cons d ds =>
      have ⟨hlt, hp⟩ := List.forall_mem_cons.mp hp
      have hd : 0 < size (d :: ds) := size_pos nofun
      have hle : size text ≤ size (d :: ds) := by simp only at hlt; omega
      obtain ⟨more, hm, rfl⟩ := split_of_size_le ((scan_append hs).trans hcs.symm) hle
      rw [hm, Text.size_append, ← Nat.add_assoc] at hp
      have ⟨kinds, hk, ht⟩ := ih hp rfl
      obtain ⟨rfl, rfl⟩ := List.cons.inj hcs
      have hs := scan_exchange hs (hb b <| List.mem_cons_self ..) (blanks ++ after)
      exact ⟨kind :: kinds, .lexeme hs hk, congrArg _ ht⟩

end Lexer

-- Tokens of these kinds, each at its own index.
def numbered (kinds : List Token.Kind) : List Token :=
  kinds.mapIdx fun i kind => ⟨kind, i, i⟩

-- From the indices of these tokens to their places.
def Relocation.of (ts : List Token) : Relocation where
  start i := (ts.getD i (.endAt 0)).span.start
  stop i := (ts.getD i (.endAt 0)).span.stop

theorem numbered_moved (ts : List Token) : (numbered (ts.map Token.kind)).map (Token.moved (.of ts)) = ts := by
  refine List.ext_getElem (by simp [numbered]) fun i _ hi => ?_
  simp [numbered, Token.moved, Span.moved, Relocation.of, hi]

theorem mem_numbered (ht : t ∈ numbered kinds) : ∃ i < kinds.length, t.span = ⟨i, i⟩ := by
  have ⟨i, hi, ht⟩ := List.mem_iff_getElem.mp ht
  exact ⟨i, by simpa [numbered] using hi, by simp [← ht, numbered]⟩

-- Two errors at the token of the same index and for the same cause, which names brackets by their places.
structure ParseError.Alike (ts ts' : List Token) (error error' : ParseError) : Prop where
  category : error.category = error'.category
  cause : ∃ cause : Cause, error.cause = cause.moved (.of ts) ∧ error'.cause = cause.moved (.of ts')
  index : ∃ (i : Nat) (t t' : Token),
    ts[i]? = some t ∧ ts'[i]? = some t' ∧ error.span = t.span ∧ error'.span = t'.span

theorem ParseError.Alike.of_moved {fault : ParseError} (h : fault.span = ⟨i, i⟩) (hi : i < ts.length)
    (hi' : i < ts'.length) : Alike ts ts' (fault.moved (.of ts)) (fault.moved (.of ts')) where
  category := by rw [category_moved, category_moved]
  cause := ⟨fault.cause, rfl, rfl⟩
  index := ⟨i, ts[i], ts'[i], by simp, by simp, by simp [moved, h, Span.moved, Relocation.of, hi],
    by simp [moved, h, Span.moved, Relocation.of, hi']⟩

theorem exists_eol_numbered (ht : tokenize text = .ok ts) :
    ∃ t ∈ numbered (ts.map Token.kind), t.kind = .eol := by
  have ⟨t, hm, hk⟩ := exists_eol_of_tokenize ht
  rw [← numbered_moved ts] at hm
  obtain ⟨u, hu, rfl⟩ := List.mem_map.mp hm
  exact ⟨u, hu, hk⟩

theorem parse_moved (ht : tokenize text = .ok ts) (context : Option Context) (config : Option Config) :
    parse text context config =
      (Parser.ofTokens { context, config } (numbered (ts.map Token.kind))).parse.1.mapError
        (ParseError.moved (.of ts)) := by
  rw [← Parser.ofTokens_parse_moved _ (exists_eol_numbered ht), numbered_moved, parse_of_tokenize ht]

theorem parse_alike (ht : tokenize text = .ok ts) (ht' : tokenize text' = .ok ts')
    (hk : ts.map Token.kind = ts'.map Token.kind) (context : Option Context) (config : Option Config) :
    (∃ r, parse text context config = .ok r ∧ parse text' context config = .ok r) ∨
      ∃ error error', parse text context config = .error error ∧
        parse text' context config = .error error' ∧ ParseError.Alike ts ts' error error' := by
  rw [parse_moved ht, parse_moved ht', ← hk]
  cases hr : (Parser.ofTokens { context, config } (numbered (ts.map Token.kind))).parse.1
  case ok r => exact .inl ⟨r, rfl, rfl⟩
  case error fault =>
    have hf := ((Parser.parse_eq_error_iff (exists_eol_numbered ht)).mp hr).2
    have ⟨t, hm, hs⟩ := hf.span_mem
    have ⟨i, hi, hti⟩ := mem_numbered hm
    have hl : ts.length = ts'.length := by simpa using congrArg List.length hk
    rw [List.length_map] at hi
    exact .inr ⟨_, _, rfl, rfl, .of_moved (hs.trans hti) hi (hl ▸ hi)⟩

-- Texts whose tokens are of the same kinds give the same query or alike errors, and a gap between two tokens, before
-- all of them or after them leaves the kinds as they are.
theorem parse_ignores_layout (text : String) (ts : List Token) (h : tokenize text = .ok ts) :
    (∀ text' ts', tokenize text' = .ok ts' → ts.map Token.kind = ts'.map Token.kind →
      ∀ context config,
        (∃ r, parse text context config = .ok r ∧ parse text' context config = .ok r) ∨
        ∃ error error', parse text context config = .error error ∧
          parse text' context config = .error error' ∧ ParseError.Alike ts ts' error error') ∧
    ∀ before blanks after, text.toList = before ++ after →
      (∀ t ∈ ts, size before ≤ t.span.start ∨ t.span.stop ≤ size before) →
      (∀ c ∈ blanks, c ∈ [' ', '\t', '\n', '\r']) →
      ∃ ts', tokenize (.ofList (before ++ blanks ++ after)) = .ok ts' ∧
        ts'.map Token.kind = ts.map Token.kind := by
  refine ⟨fun text' ts' h' hk => parse_alike h h' hk, fun before blanks after hs hp hb => ?_⟩
  cases blanks
  case nil => exact ⟨ts, by rw [List.append_nil, ← hs, String.ofList_toList, h], rfl⟩
  case cons b blanks =>
    have hd := Lexer.placed_of_tokenize h
    have hg : ∀ c ∈ b :: blanks, Lexer.isGap c := fun c hc => Lexer.isGap_iff.mpr (hb c hc)
    rw [hs] at hd
    have ⟨kinds, hc, hk⟩ := hd.insert (by rwa [Nat.zero_add]) hg
    rw [← List.append_assoc, ← String.toList_ofList (l := before ++ b :: blanks ++ after)] at hc
    have ⟨ts', ht', hk'⟩ := hc.tokenize
    exact ⟨ts', ht', hk'.trans hk.symm⟩

-- In the other text the parenthesis that is not closed is a byte further on.
theorem parse_ignores_layout_group :
    let text := "(a<-1OR b=2"
    let text' := "\n(a <\t-1 OR b = 2 "
    let kinds : List Token.Kind :=
      [.openParen, .identifier "a", .comparison .lt, .number "-1", .connective .or, .identifier "b",
        .comparison .eq, .number "2", .eol]
    (∃ ts ts' error', tokenize text = .ok ts ∧ ts.map Token.kind = kinds ∧
      tokenize text' = .ok ts' ∧ parse text' = .error error' ∧
      ParseError.Alike ts ts' ⟨.unexpected (.groupEnd 0) .eol, ⟨11, 11⟩⟩ error') ∧
    ∃ ts', tokenize "(a<\r\n-1OR b=2" = .ok ts' ∧ ts'.map Token.kind = kinds := by
  intro text text' kinds
  let ts : List Token :=
    [⟨.openParen, 0, 1⟩, ⟨.identifier "a", 1, 2⟩, ⟨.comparison .lt, 2, 3⟩, ⟨.number "-1", 3, 5⟩,
      ⟨.connective .or, 5, 7⟩, ⟨.identifier "b", 8, 9⟩, ⟨.comparison .eq, 9, 10⟩, ⟨.number "2", 10, 11⟩,
      .endAt 11]
  have h : tokenize text = .ok ts := by decide +kernel
  obtain ⟨ts', h', hk⟩ : ∃ ts', tokenize text' = .ok ts' ∧ ts.map Token.kind = ts'.map Token.kind :=
    ⟨[⟨.openParen, 1, 2⟩, ⟨.identifier "a", 2, 3⟩, ⟨.comparison .lt, 4, 5⟩, ⟨.number "-1", 6, 8⟩,
      ⟨.connective .or, 9, 11⟩, ⟨.identifier "b", 12, 13⟩, ⟨.comparison .eq, 14, 15⟩, ⟨.number "2", 16, 17⟩,
      .endAt 18], by decide +kernel, rfl⟩
  have hr : parse text = .error ⟨.unexpected (.groupEnd 0) .eol, ⟨11, 11⟩⟩ := by decide +kernel
  obtain ⟨halike, hinsert⟩ := parse_ignores_layout text ts h
  have hs : text.toList = "(a<".toList ++ "-1OR b=2".toList := by decide +kernel
  have hb : ∀ c ∈ ['\r', '\n'], c ∈ [' ', '\t', '\n', '\r'] := by simp
  have hj : String.ofList ("(a<".toList ++ ['\r', '\n'] ++ "-1OR b=2".toList) = "(a<\r\n-1OR b=2" := by
    decide +kernel
  refine ⟨?_, hj ▸ hinsert _ _ _ hs (by decide +kernel) hb⟩
  rcases halike text' ts' h' hk none none with ⟨r, ho, _⟩ | ⟨error, error', he, he', ha⟩
  case inl => cases ho.symm.trans hr
  case inr =>
    cases he.symm.trans hr
    exact ⟨ts, ts', error', h, rfl, h', he', ha⟩

end FilterQuery
