import FilterQuery.Prompt.Session
import FilterQuery.Proofs.FirstViolation
import FilterQuery.Proofs.Lexer.LongestMatch

namespace FilterQuery

open Text (size)

-- The span covers whole characters of the text `cs`; it may also be empty.
def Span.Within (cs : List Char) (span : Span) : Prop :=
  ∃ before inside after, cs = before ++ inside ++ after ∧ span = ⟨size before, size before + size inside⟩

namespace Span.Within

theorem isValid_size {text : String} (h : text.toList = before ++ after) :
    String.Pos.Raw.IsValid text ⟨size before⟩ := by
  refine String.Pos.Raw.isValid_iff_exists_append.mpr ⟨.ofList before, .ofList after, ?split, ?size⟩
  case split => rw [← String.ofList_append, ← h, String.ofList_toList]
  case size  => rw [String.rawEndPos, Text.utf8ByteSize_ofList]

theorem bounds {text : String} (h : Within text.toList span) :
    span.start ≤ span.stop ∧ span.stop ≤ text.utf8ByteSize := by
  obtain ⟨before, inside, after, ht, rfl⟩ := h
  have hs := congrArg size ht
  rw [Text.size_toList, Text.size_append, Text.size_append] at hs
  simp only
  omega

theorem isValid {text : String} (h : Within text.toList span) :
    String.Pos.Raw.IsValid text ⟨span.start⟩ ∧ String.Pos.Raw.IsValid text ⟨span.stop⟩ := by
  obtain ⟨before, inside, after, ht, rfl⟩ := h
  rw [← Text.size_append]
  exact ⟨isValid_size <| ht.trans <| List.append_assoc .., isValid_size ht⟩

end Span.Within

namespace Lexer

theorem Munches.split (h : Munches start cs ts stop left) :
    ∃ before, cs = before ++ left ∧ stop = start + size before := by
  induction h
  case refl => exact ⟨[], rfl, rfl⟩
  case gap c _ _ _ _ _ _ _ ih =>
    obtain ⟨before, rfl, rfl⟩ := ih
    exact ⟨c :: before, rfl, by simp [Nat.add_assoc]⟩
  case lexeme slice _ _ _ _ _ _ hl _ ih =>
    obtain ⟨before, rfl, rfl⟩ := ih
    exact ⟨slice ++ before, by rw [← hl.split, List.append_assoc], by simp [Nat.add_assoc]⟩

theorem within_of_fault (h : tokenize text = .error error) : error.span.Within text.toList := by
  have ⟨us, stop, left, hm, he⟩ := munches_on 0 text.toList
  obtain ⟨before, ht, rfl⟩ := hm.split
  have ht' := hm.tokens.symm.trans h
  rcases he with rfl | ⟨skip, hs⟩
  case inl => cases hm.tokens_end.symm.trans h
  case inr =>
    cases left
    case nil  => obtain ⟨_, _, _, _, _, hn⟩ := hs
    case cons c cs =>
      have ⟨hg, cause, skipped, culprit, hf, _⟩ := stuck_iff_scan.mp hs
      have ⟨after, hp⟩ := (scan_fault hf).inText
      rw [tokens_fault _ hg hf] at ht'
      cases ht'
      exact ⟨before ++ skipped, culprit, after, by rw [ht, ← hp]; simp, by simp⟩

theorem within_of_mem (ht : tokenize text = .ok ts) (hm : t ∈ ts) : t.span.Within text.toList := by
  have ⟨us, hts, hu⟩ := (placed_of_tokenize ht).lexemes
  rw [hts, List.mem_append, List.mem_singleton] at hm
  cases hm
  case inl hm =>
    have ⟨before, slice, after, hc, _, _, hs⟩ := hu t hm
    exact ⟨before, slice, after, hc, by simpa using hs⟩
  case inr hm => exact ⟨text.toList, [], [], by simp, by simp [hm, Token.endAt]⟩

end Lexer

theorem Parser.State.Stuck.category_ne (h : State.Stuck env s t cause) : cause.category ≠ .lexical := by
  cases h
  case forbidden => exact nofun
  case fault     => exact s.fault_category t.kind ▸ nofun

theorem parse_of_fault (h : tokenize text = .error error) (context : Option Context) (config : Option Config) :
    parse text context config = .error error := by
  simp [parse, h, bind, Except.bind]

-- The parser reports no error of the lexer, and at no other place than a token.
theorem parse_error_cases (h : parse text context config = .error error) :
    (tokenize text = .error error ∧ error.category = .lexical) ∨
      ∃ ts, tokenize text = .ok ts ∧ error.category ≠ .lexical ∧ ∃ t ∈ ts, error.span = t.span := by
  cases ht : tokenize text
  case error =>
    cases (parse_of_fault ht context config).symm.trans h
    exact .inl ⟨rfl, (Lexer.stuck_of_tokens ht).1⟩
  case ok ts =>
    have hf := ((parse_eq_error_iff_fails ht).mp h).2
    have ⟨_, _, _, _, _, _, _, hs, _⟩ := hf.split_init
    exact .inr ⟨ts, rfl, hs.category_ne, hf.span_mem⟩

theorem within_of_parse (h : parse text context config = .error error) : error.span.Within text.toList := by
  rcases parse_error_cases h with ⟨ht, _⟩ | ⟨ts, ht, _, t, hm, hs⟩
  case inl => exact Lexer.within_of_fault ht
  case inr => exact hs ▸ Lexer.within_of_mem ht hm

theorem Prompt.errorLines_eq (ht : text.toList = before ++ after) (hs : size before = error.span.start) :
    errorLines text error =
      ["✗ 解析失败 (" ++ error.category.name ++ "): " ++ error.display, "  " ++ text,
        "  " ++ .ofList (List.replicate before.length ' ') ++ "^"] := by
  rw [errorLines, column, ← hs, ht, Text.takeBytes_size_append]

-- A span is in range and between characters. It is the lexer's if the text has no tokens, and then it is the same
-- whatever else is given; otherwise it is that of a token. The mark stands behind as many blanks as there are
-- characters before the error.
theorem parse_error_span (text : String) (context : Option Context) (config : Option Config)
    (error : ParseError) (h : parse text context config = .error error) :
    (error.span.start ≤ error.span.stop ∧ error.span.stop ≤ text.utf8ByteSize ∧
      String.Pos.Raw.IsValid text ⟨error.span.start⟩ ∧ String.Pos.Raw.IsValid text ⟨error.span.stop⟩) ∧
    (error.category = .lexical ↔ ∃ fault, tokenize text = .error fault) ∧
    (∀ fault, tokenize text = .error fault →
      ∀ context config, parse text context config = .error fault) ∧
    (error.category ≠ .lexical → ∃ ts, tokenize text = .ok ts ∧ ∃ t ∈ ts, error.span = t.span) ∧
    ∃ before after, text.toList = before ++ after ∧ size before = error.span.start ∧
      Text.takeBytes error.span.start text.toList = some before ∧
      Prompt.errorLines text error =
        ["✗ 解析失败 (" ++ error.category.name ++ "): " ++ error.display, "  " ++ text,
          "  " ++ .ofList (List.replicate before.length ' ') ++ "^"] := by
  have hw := within_of_parse h
  refine ⟨⟨hw.bounds.1, hw.bounds.2, hw.isValid⟩, ⟨fun hc => ?mp, fun ⟨fault, ht⟩ => ?mpr⟩,
    fun fault => parse_of_fault, fun hc => ?token, ?caret⟩
  case mp => exact (parse_error_cases h).elim (⟨error, ·.1⟩) fun ⟨_, _, hn, _⟩ => absurd hc hn
  case mpr =>
    cases (parse_of_fault ht context config).symm.trans h
    exact (Lexer.stuck_of_tokens ht).1
  case token => exact (parse_error_cases h).elim (absurd ·.2 hc) fun ⟨ts, ht, _, hs⟩ => ⟨ts, ht, hs⟩
  case caret =>
    obtain ⟨before, inside, after, ht, hs⟩ := hw
    rw [List.append_assoc] at ht
    have hb : size before = error.span.start := hs ▸ rfl
    exact ⟨before, inside ++ after, ht, hb, by rw [← hb, ht, Text.takeBytes_size_append],
      Prompt.errorLines_eq ht hb⟩

-- `é` takes two bytes and one column.
theorem parse_error_span_wide :
    let text := "a = \"é\" )"
    let error : ParseError := ⟨.unexpected .continuation .closeParen, ⟨9, 10⟩⟩
    parse text = .error error ∧
    String.Pos.Raw.IsValid text ⟨9⟩ ∧ String.Pos.Raw.IsValid text ⟨10⟩ ∧
    (∃ ts, tokenize text = .ok ts ∧ ∃ t ∈ ts, error.span = t.span) ∧
    ∃ before after, text.toList = before ++ after ∧ size before = 9 ∧
      Text.takeBytes 9 text.toList = some before ∧
      Prompt.errorLines text error =
        ["✗ 解析失败 (Syntax): Expected AND, OR or end of input, found ')' at position 9", "  a = \"é\" )",
          "  " ++ .ofList (List.replicate before.length ' ') ++ "^"] := by
  intro text error
  have h : parse text = .error error := by decide +kernel
  obtain ⟨⟨_, _, hstart, hstop⟩, _, _, htoken, hmark⟩ := parse_error_span text none none error h
  have hd : "✗ 解析失败 (" ++ error.category.name ++ "): " ++ error.display =
      "✗ 解析失败 (Syntax): Expected AND, OR or end of input, found ')' at position 9" := by decide +kernel
  rw [hd] at hmark
  exact ⟨h, hstart, hstop, htoken (by decide), hmark⟩

end FilterQuery
