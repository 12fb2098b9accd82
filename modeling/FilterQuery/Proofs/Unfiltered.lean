import FilterQuery.Proofs.Lexer.Blanks
import FilterQuery.Proofs.Lexer.Locality
import FilterQuery.Proofs.Parser.Acceptance
import FilterQuery.Proofs.Restriction

namespace FilterQuery

open Text (isBlank trimChars)

namespace Lexer

variable {word after : List Char}

theorem wordLexeme_of_head (word : List Char) (hl : after.head? ≠ some '(') :
    ∃ kind, wordLexeme word after = .lexeme kind word after := by
  cases hk : keyword? (.ofList word)
  case some kind => exact ⟨kind, by simp only [wordLexeme, hk]⟩
  case none      => exact ⟨_, wordLexeme_identifier hk fun more he => hl (he ▸ rfl)⟩

-- A word with nothing but blanks behind it is one token.
theorem Cuts.of_word (hn : word ≠ []) (hw : ∀ c ∈ word, isWordStart c) (ha : ∀ c ∈ after, isBlank c)
    (h : Cuts (word ++ after) kinds []) : ∃ kind, Lexeme word kind ∧ kinds = [kind] := by
  obtain ⟨c, cs, rfl⟩ := List.exists_cons_of_ne_nil hn
  have hc : isWordStart c := hw c (List.mem_cons_self ..)
  have hb : ∀ d ∈ after.head?, isBlank d := fun d hd => ha d (List.mem_of_mem_head? hd)
  have hp : after.head? ≠ some '(' := fun hp => absurd (hb '(' hp) (by decide)
  have hl : ∀ d ∈ after.head?, isWordChar d = false := fun d hd => not_isWordChar_of_isBlank (hb d hd)
  obtain ⟨kind, hk⟩ := wordLexeme_of_head (c :: cs) hp
  have hs : scan c (cs ++ after) = .lexeme kind (c :: cs) after := by
    have hs := scanWord_append_left (fun d hd => isWordChar_of_isWordStart (hw d hd)) hl
    exact (scan_word hc).trans <| hs.trans hk
  have ⟨_, hk, h⟩ := h.of_lexeme hs
  rw [← List.append_nil after] at h
  exact ⟨kind, scan_lexeme hs, hk.trans (congrArg _ (nil_iff.mp (h.of_blanks ha)).1)⟩

theorem Lexeme.of_boolean (h : Lexeme text (.boolean b)) : text = (toString b).toList := by
  cases h
  case keyword h =>
    simp [keywords] at h
    rcases h with ⟨rfl, rfl⟩ | ⟨rfl, rfl⟩ <;> rfl

end Lexer

namespace Grammar

theorem Derives.tail_nil (h : Derives context (.tail op left) [] e) : e = left := by
  cases h
  rfl

-- The only expressions of one token are the boolean literals.
theorem Derives.single (h : Derives context x ts e) (hx : ∀ op left, x ≠ .tail op left) :
    ∃ kind us, ts = kind :: us ∧ (us = [] → ∃ b, kind = .boolean b ∧ e = .boolean b) := by
  induction h
  case chain op _ _ us _ _ ht ih _ =>
    have ⟨kind, vs, hts, hk⟩ := ih (by cases op <;> exact fun _ _ => nofun)
    refine ⟨kind, vs ++ us, by rw [hts, List.cons_append], fun hn => ?_⟩
    obtain ⟨hv, rfl⟩ := List.append_eq_nil_iff.mp hn
    exact ht.tail_nil ▸ hk hv
  case done => exact absurd rfl (hx _ _)
  case more => exact absurd rfl (hx _ _)
  case not ih =>
    have ⟨_, _, hts, _⟩ := ih fun _ _ => nofun
    exact ⟨_, _, rfl, fun hn => nomatch hts.symm.trans hn⟩
  case primary ih => exact ih fun _ _ => nofun
  case paren      => exact ⟨_, _, rfl, fun hn => absurd hn (by simp)⟩
  case boolean    => exact ⟨_, [], rfl, fun _ => ⟨_, rfl, rfl⟩⟩
  case condition hf _ =>
    have ⟨_, _, hts⟩ := hf.head_identifier
    exact ⟨_, _, by rw [hts, List.cons_append], fun hn => absurd hn (by simp)⟩
  case membership hf _ =>
    have ⟨_, _, hts⟩ := hf.head_identifier
    exact ⟨_, _, by rw [hts, List.cons_append], fun hn => absurd hn (by simp)⟩

-- Nothing but the literal itself is a boolean literal.
theorem Derives.boolean_tokens (h : Derives context (.chain .or) ts (.boolean b)) : ts = [.boolean b] := by
  have h : Derives context .negation ts (.boolean b) := (h.chain_operand nofun).chain_operand nofun
  cases h
  case primary h =>
    cases h
    rfl

end Grammar

theorem includesAll_iff : includesAll (some text) ↔
    trimChars text.toList = [] ∨ (trimChars text.toList).map Char.toLower = ['t', 'r', 'u', 'e'] := by
  simp [includesAll]

theorem isWordStart_of_toLower {c : Char} (h : c.toLower ∈ ['t', 'r', 'u', 'e']) : Lexer.isWordStart c := by
  by_cases hu : c.isUpper
  case pos =>
    have ha : c.isAlpha := Bool.or_eq_true_iff.mpr (.inl hu)
    simp [Lexer.isWordStart, ha]
  case neg =>
    have hc : c.toLower = c := dif_neg fun hr => hu (decide_eq_true hr)
    simp only [hc, List.mem_cons, List.not_mem_nil, or_false] at h
    rcases h with rfl | rfl | rfl | rfl <;> decide

theorem kinds_of_includesAll (hc : Lexer.Cuts text.toList kinds []) (h : includesAll (some text)) :
    kinds = [] ∨ ∃ kind, kinds = [kind] ∧ ∀ b, kind = .boolean b → b = true := by
  have ⟨before, after, hb, ha, hs⟩ := Text.exists_trimChars text.toList
  have h := includesAll_iff.mp h
  rw [hs] at hc
  have hc := hc.of_blanks hb
  generalize trimChars text.toList = word at hc h
  cases h
  case inl h =>
    subst h
    rw [List.nil_append, ← List.append_nil after] at hc
    exact .inl (Lexer.Cuts.nil_iff.mp (hc.of_blanks ha)).1
  case inr h =>
    have hn : word ≠ [] := by
      rintro rfl
      cases h
    have hw : ∀ c ∈ word, Lexer.isWordStart c := fun c hm =>
      isWordStart_of_toLower (h ▸ List.mem_map_of_mem hm)
    have ⟨kind, hl, hk⟩ := hc.of_word hn hw ha
    refine .inr ⟨kind, hk, fun b hb => ?_⟩
    have ht := (hb ▸ hl).of_boolean
    cases b
    case true  => rfl
    case false => rw [ht] at h; exact absurd h (by decide)

theorem includesAll_of_nil (h : Lexer.Cuts text.toList [] []) : includesAll (some text) :=
  includesAll_iff.mpr <| .inl <| Text.trimChars_of_blank h.blank

theorem includesAll_of_true (h : Lexer.Cuts text.toList [.boolean true] []) : includesAll (some text) := by
  have ⟨before, word, after, hb, ha, hl, hs⟩ := h.split_single
  obtain rfl : word = ['t', 'r', 'u', 'e'] := hl.of_boolean
  have hh : ∀ c ∈ ['t', 'r', 'u', 'e'].head?, isBlank c = false := by simp; decide
  have hl : ∀ c ∈ ['t', 'r', 'u', 'e'].getLast?, isBlank c = false := by simp; decide
  have ht : trimChars text.toList = ['t', 'r', 'u', 'e'] := by
    rw [hs, Text.trimChars_append hb ha (by simp) hh hl]
  rw [includesAll_iff, ht]
  exact .inr rfl

-- A text that is accepted lets everything through just if there is no query in it or the query is `true`.
theorem includesAll_iff_of_parse (text : String) (context : Option Context) (config : Option Config)
    (r : Option Expr) (h : parse text context config = .ok r) :
    includesAll (some text) ↔ r = none ∨ r = some (.boolean true) := by
  replace h := parse_unrestricted h
  cases r
  case none =>
    have hi := includesAll_of_nil (parse_eq_none_iff_cuts.mp h)
    simp [hi]
  case some e =>
    obtain ⟨kinds, hc, hs⟩ := parse_eq_some_iff_cuts.mp h
    have ⟨kind, us, hk, hb⟩ := hs.derives.single fun _ _ => nofun
    constructor
    case mp =>
      intro hi
      rcases kinds_of_includesAll hc hi with hn | ⟨kind', hk', ht⟩
      case inl => cases hk.symm.trans hn
      case inr =>
        cases hk.symm.trans hk'
        obtain ⟨b, rfl, rfl⟩ := hb rfl
        exact .inr (ht b rfl ▸ rfl)
    case mpr =>
      intro he
      have he : e = .boolean true := by simpa using he
      subst he
      exact includesAll_of_true (hs.derives.boolean_tokens ▸ hc)

-- The parentheses make another expression of the literal, although it has the same meaning.
theorem includesAll_iff_of_parse_true :
    let text := "\t true\n"
    let text' := "\t(true)\n"
    let e : Expr := .paren (.boolean true)
    parse text = .ok (some (.boolean true)) ∧ includesAll (some text) ∧
    parse text' = .ok (some e) ∧ ¬includesAll (some text') := by
  intro text text' e
  have h : parse text = .ok (some (.boolean true)) := by decide +kernel
  have h' : parse text' = .ok (some e) := by decide +kernel
  refine ⟨h, (includesAll_iff_of_parse text none none _ h).mpr (.inr rfl), h', fun hi => ?_⟩
  have hr := (includesAll_iff_of_parse text' none none _ h').mp hi
  simp [e] at hr

end FilterQuery
