import FilterQuery.Expr.Printer
import FilterQuery.Proofs.Lexer.Spelling

namespace FilterQuery

namespace Text

-- Writes `word` in the place of every `c`.
def substitute (c : Char) (word cs : List Char) : List Char :=
  cs.flatMap fun d => if d = c then word else [d]

-- Backslashes first, so that those before quotes are not doubled.
theorem escape_eq_substitute (cs : List Char) :
    escape cs = substitute '"' ['\\', '"'] (substitute '\\' ['\\', '\\'] cs) := by
  induction cs using escape_induction
  case nil            => rfl
  case backslash ih   => rw [ih]; rfl
  case quote ih       => rw [ih]; rfl
  case plain hb hq ih => simp_all [substitute]

end Text

namespace Lexer

open Text (escape quote unescape unescape_plain unquote stripQuotes substitute)

-- The characters that may follow a backslash, each with the one that they stand for together.
def escapes : List (Char × Char) :=
  [('"', '"'), ('\\', '\\'), ('n', '\n'), ('t', '\t'), ('r', '\r')]

-- What stands between the quotes of a string, and the text that it stands for.
inductive Decodes : List Char → List Char → Prop
  | nil : Decodes [] []
  | plain (hq : c ≠ '"') (hb : c ≠ '\\') : Decodes cs ds → Decodes (c :: cs) (c :: ds)
  | escape (he : (c, d) ∈ escapes) : Decodes cs ds → Decodes ('\\' :: c :: cs) (d :: ds)

theorem mem_escapes (h : c ∈ ['"', '\\', 'n', 't', 'r']) : (c, Text.unescapeChar c) ∈ escapes := by
  simp only [List.mem_cons, List.not_mem_nil, or_false] at h
  rcases h with rfl | rfl | rfl | rfl | rfl <;> decide

theorem unescapeChar_of_mem (h : (c, d) ∈ escapes) : Text.unescapeChar c = d := by
  have ha : ∀ entry ∈ escapes, Text.unescapeChar entry.1 = entry.2 := by decide
  exact ha _ h

theorem decodes_unescape (h : Inside cs) : Decodes cs (unescape cs) := by
  induction h
  case nil                 => exact .nil
  case plain hq hb _ ih    => exact unescape_plain hb _ ▸ .plain hq hb ih
  case escape he _ ih      => exact .escape (mem_escapes he) ih

-- A text between quotes stands for one text only.
theorem Decodes.eq_unescape (h : Decodes cs ds) : ds = unescape cs := by
  induction h
  case nil             => rfl
  case plain hb _ ih   => rw [unescape_plain hb, ← ih]
  case escape he _ ih  => rw [unescape, unescapeChar_of_mem he, ← ih]

theorem decodes_escape (cs : List Char) : Decodes (escape cs) cs := by
  have h := decodes_unescape (inside_escape cs)
  rwa [Text.unescape_escape] at h

theorem next_quoted (s r : String) (start : Nat) :
    next ⟨(quoted s ++ r).toList, start, false⟩ =
      (some (.ok ⟨.string (quoted s), start, start + (quoted s).utf8ByteSize⟩),
        ⟨r.toList, start + (quoted s).utf8ByteSize, false⟩) := by
  have hn := next_lexeme start (scan_quote s.toList r.toList)
  rw [← Text.utf8ByteSize_ofList] at hn
  simpa [quoted, quote] using hn

theorem lexeme_of_next {l : Lexer} (h : l.next.1 = some (.ok t)) : t.kind = .eol ∨ ∃ text, Lexeme text t.kind := by
  simp only [next] at h
  split at h
  case isTrue => cases h
  case isFalse =>
    cases hd : l.rest.dropWhile isGap <;> simp only [hd] at h
    case nil =>
      cases h
      exact .inl rfl
    case cons c cs =>
      cases hs : scan c cs <;> simp only [hs] at h <;> cases h
      case lexeme => exact .inr ⟨_, scan_lexeme hs⟩

theorem Lexeme.string_inside (h : Lexeme text (.string raw)) :
    ∃ inside, Inside inside ∧ raw.toList = '"' :: inside ++ ['"'] := by
  cases h
  case keyword h => simp [keywords] at h
  case string h  => exact ⟨_, h, by simp⟩

theorem inside_of_next {l : Lexer} (h : l.next.1 = some (.ok t)) (hk : t.kind = .string raw) :
    ∃ inside, Inside inside ∧ raw.toList = '"' :: inside ++ ['"'] := by
  rcases lexeme_of_next h with he | ⟨_, hl⟩
  case inl => exact nomatch hk.symm.trans he
  case inr => exact (hk ▸ hl).string_inside

theorem unquote_inside (inside : List Char) : unquote ('"' :: inside ++ ['"']) = unescape inside := by
  simp [unquote, stripQuotes]

-- A quoted text is read back as it was, up to its own closing quote. Whatever else the lexer takes for a string is
-- characters and escapes up to its closing quote, each of which stands for one character.
theorem quoted_decodes :
    (∀ (s r : String) (start : Nat),
      quoted s = .ofList ('"' :: substitute '"' ['\\', '"'] (substitute '\\' ['\\', '\\'] s.toList) ++ ['"']) ∧
      next ⟨(quoted s ++ r).toList, start, false⟩ =
        (some (.ok ⟨.string (quoted s), start, start + (quoted s).utf8ByteSize⟩),
          ⟨r.toList, start + (quoted s).utf8ByteSize, false⟩) ∧
      unquote (quoted s).toList = s.toList) ∧
    ∀ (l : Lexer) (t : Token) (raw : String), l.next.1 = some (.ok t) → t.kind = .string raw →
      ∃ inside, raw.toList = '"' :: inside ++ ['"'] ∧
        (∀ content, Decodes inside content ↔ content = unquote raw.toList) ∧
        Decodes (escape (unquote raw.toList)) (unquote raw.toList) ∧
        unquote (quote (unquote raw.toList)) = unquote raw.toList := by
  refine ⟨fun s r start => ⟨?text, next_quoted s r start, ?content⟩, fun l t raw h hk => ?token⟩
  case text    => rw [← Text.escape_eq_substitute]; rfl
  case content => simp [quoted, Text.unquote_quote]
  case token =>
    have ⟨inside, hi, hr⟩ := inside_of_next h hk
    have hu : unquote raw.toList = unescape inside := hr ▸ unquote_inside inside
    refine ⟨inside, hr, fun content => ⟨fun hd => hd.eq_unescape.trans hu.symm, ?_⟩, decodes_escape _,
      Text.unquote_quote _⟩
    rintro rfl
    exact hu ▸ decodes_unescape hi

-- A backslash that is the last character of the content.
theorem quoted_decodes_backslash :
    let raw := "\"a\\n\\\\\""
    let l : Lexer := ⟨(raw ++ "\"b\"").toList, 4, false⟩
    l.next.1 = some (.ok ⟨.string raw, 4, 11⟩) ∧
    ∃ inside, raw.toList = '"' :: inside ++ ['"'] ∧
      ∀ content, Decodes inside content ↔ content = ['a', '\n', '\\'] := by
  intro raw l
  have h : l.next.1 = some (.ok ⟨.string raw, 4, 11⟩) := by decide +kernel
  obtain ⟨inside, hr, hd, _⟩ := quoted_decodes.2 l _ raw h rfl
  have hu : Text.unquote raw.toList = ['a', '\n', '\\'] := by decide +kernel
  exact ⟨h, inside, hr, hu ▸ hd⟩

end Lexer
end FilterQuery
