import FilterQuery.Proofs.Lexer.Locality
import FilterQuery.Proofs.Lexer.Spans

namespace FilterQuery

namespace Lexer

open Numeral
open Text (size)

-- What was read is `text`, or goes on behind it.
def Scan.Extends (text : List Char) (kind : Token.Kind) (s : Scan) : Prop :=
  ∃ kind' more left, s = .lexeme kind' (text ++ more) left ∧ (more = [] → kind' = kind)

theorem Scan.Extends.exact (text : List Char) (kind : Token.Kind) (left : List Char) :
    Extends text kind (.lexeme kind text left) :=
  ⟨kind, [], left, by rw [List.append_nil], fun _ => rfl⟩

theorem scanPair_extends (c : Char) (single double : Token.Kind) (left : List Char) :
    (scanPair c single double left).Extends [c] single := by
  by_cases hl : left.head? = some '='
  case pos =>
    obtain ⟨after, rfl⟩ := List.head?_eq_some_iff.mp hl
    exact ⟨double, ['='], _, rfl, (absurd · <| List.cons_ne_nil _ _)⟩
  case neg =>
    rw [scanPair_single hl]
    exact .exact ..

theorem scanNumber_extends (sign : List Char) (h : Plain cs) (left : List Char) :
    (scanNumber sign (cs ++ left)).Extends (sign ++ cs) (.number (.ofList (sign ++ cs))) := by
  have ⟨more, hm⟩ := numberText_extends h left
  simp only [scanNumber, hm, ← List.append_assoc]
  refine ⟨_, more, _, rfl, ?_⟩
  rintro rfl
  rw [List.append_nil]

theorem wordLexeme_text (word left : List Char) :
    ∃ kind more after, wordLexeme word left = .lexeme kind (word ++ more) after := by
  induction word, left using wordLexeme_cases
  case keyword => exact ⟨_, [], _, by rw [List.append_nil]⟩
  case call    => exact ⟨_, _, _, rfl⟩
  case name    => exact ⟨_, [], _, by rw [List.append_nil]⟩

-- A word is read to its end before it is looked up.
theorem scanWord_extends (ha : ∀ c ∈ text, isWordChar c)
    (hw : ∀ after, (wordLexeme text after).Extends text kind) (left : List Char) :
    (scanWord (text ++ left)).Extends text kind := by
  rw [scanWord, List.takeWhile_append_of_pos ha, List.dropWhile_append_of_pos ha]
  cases left.takeWhile isWordChar
  case nil => simpa using hw _
  case cons d ds =>
    obtain ⟨kind, more, after, h⟩ := wordLexeme_text (text ++ d :: ds) (left.dropWhile isWordChar)
    exact ⟨kind, d :: ds ++ more, after, by rw [h, List.append_assoc], (absurd · <| List.cons_ne_nil _ _)⟩

theorem wordLexeme_extends (h : IsName text) (after : List Char) :
    (wordLexeme text after).Extends text (.identifier (.ofList text)) := by
  by_cases hc : ∃ more, after = '(' :: ')' :: more
  case pos =>
    have ⟨more, hm⟩ := hc
    rw [hm, wordLexeme_call h.free]
    exact ⟨_, ['(', ')'], more, rfl, nofun⟩
  case neg =>
    rw [wordLexeme_identifier h.free (not_exists.mp hc)]
    exact .exact ..

theorem scan_of_word (hs : ∃ c cs, text = c :: cs ∧ isWordStart c) (ht : text ++ left = c :: cs) :
    scan c cs = scanWord (text ++ left) := by
  obtain ⟨d, ds, rfl, hd⟩ := hs
  cases ht
  exact scan_word hd

theorem comparison_extends (op : Comparison) (ht : op.symbol.toList ++ left = c :: cs) :
    (scan c cs).Extends op.symbol.toList (.comparison op) := by
  cases op <;> cases ht
  case gt => exact scanPair_extends ..
  case lt => exact scanPair_extends ..
  all_goals exact .exact ..

theorem number_extends (h : Signed text) (ht : text ++ left = c :: cs) :
    (scan c cs).Extends text (.number (.ofList text)) := by
  cases h
  case plus h =>
    have ⟨d, ds, hc, hd⟩ := h.head_digit
    have hs := scanNumber_extends [] h left
    rw [ht] at hs
    have hc : c.isDigit := by simp_all
    rwa [scan_digit hc]
  case minus h =>
    cases ht
    have ⟨d, ds, hc, hd⟩ := h.head_digit
    have hs := scanNumber_extends ['-'] h left
    simpa [scan, hc, hd] using hs

theorem Lexeme.extends (h : Lexeme text kind) (ht : text ++ left = c :: cs) :
    (scan c cs).Extends text kind := by
  cases h
  case comparison op => exact comparison_extends op ht
  case number h      => exact number_extends h ht
  case string inside h =>
    have hc : '"' :: (inside ++ '"' :: left) = c :: cs := by simpa using ht
    cases hc
    simp only [scan, scanQuoted, scanString_closed h]
    exact .exact ..
  case keyword word h =>
    rw [scan_of_word (keyword_start h) ht]
    exact scanWord_extends (keyword_chars h) (fun after => wordLexeme_keyword h after ▸ .exact ..) left
  case function word hw hk =>
    have h := isName_iff.mpr ⟨hw, hk⟩
    rw [List.append_assoc] at ht
    have hp : ∀ c ∈ (['(', ')'] ++ left).head?, isWordChar c = false := by simp; decide
    rw [scan_of_word h.start ht, scanWord_append_left h.chars hp]
    exact (wordLexeme_call h.free left).symm ▸ .exact ..
  case identifier hw hk =>
    have h := isName_iff.mpr ⟨hw, hk⟩
    rw [scan_of_word h.start ht]
    exact scanWord_extends h.chars (wordLexeme_extends h) left
  all_goals cases ht; exact .exact ..

-- `text` is the longest lexeme that `cs` starts with, and `left` what follows it.
structure Longest (cs text : List Char) (kind : Token.Kind) (left : List Char) : Prop where
  lexeme  : Lexeme text kind
  split   : text ++ left = cs
  longest : ∀ text' kind', Lexeme text' kind' → text' <+: cs → text'.length ≤ text.length

theorem scan_eq_lexeme_iff : scan c cs = .lexeme kind text left ↔ Longest (c :: cs) text kind left := by
  constructor
  case mp =>
    intro h
    refine ⟨scan_lexeme h, scan_append h, fun text' kind' hl ⟨left', hp⟩ => ?_⟩
    have ⟨_, more, _, hs, _⟩ := hl.extends hp
    cases h.symm.trans hs
    simp
  case mpr =>
    intro ⟨hl, hp, hm⟩
    have ⟨kind', more, left', hs, hk⟩ := hl.extends hp
    have hle := hm _ _ (scan_lexeme hs) ⟨left', scan_append hs⟩
    rw [List.length_append] at hle
    have hn : more = [] := List.eq_nil_of_length_eq_zero (by omega)
    subst hn
    have ht := hp.trans (scan_append hs).symm
    rw [List.append_nil] at hs ht
    rw [hs, hk rfl, List.append_cancel_left ht]

-- A string whose first defect is an invalid escape, with `inside` before it.
def BadEscape (cs inside : List Char) : Prop :=
  Inside inside ∧ ∃ e more, e ∉ ['"', '\\', 'n', 't', 'r'] ∧ cs = '"' :: inside ++ '\\' :: e :: more

-- No lexeme starts the text, and the error is so many bytes into it.
inductive Stuck : List Char → Nat → Prop
  | badEscape (h : BadEscape cs inside) : Stuck cs (size ('"' :: inside))
  | noLexeme (hc : c ∉ [' ', '\t', '\n', '\r'])
    (hl : ∀ text kind, Lexeme text kind → ¬text <+: c :: cs)
    (hb : ∀ inside, ¬BadEscape (c :: cs) inside) : Stuck (c :: cs) 0

theorem isGap_iff : isGap c ↔ c ∈ [' ', '\t', '\n', '\r'] := by
  simp [isGap, or_assoc]

theorem scan_badEscape (h : BadEscape (c :: cs) inside) :
    ∃ e, scan c cs = .fault (.invalidEscape e) ('"' :: inside) ['\\', e] := by
  have ⟨hi, e, more, he, ht⟩ := h
  have hc : c :: cs = '"' :: (inside ++ '\\' :: e :: more) := ht
  cases hc
  have hs : scanString (inside ++ '\\' :: e :: more) = .badEscape inside e := by
    rw [scanString_inside hi, scanString, if_neg (he ∘ isEscape_iff.mp)]
    simp [StringScan.prepend]
  exact ⟨e, by simp only [scan, scanQuoted, hs]⟩

theorem badEscape_of_scanString (h : scanString cs = .badEscape inside e) :
    BadEscape ('"' :: cs) inside ∧ inside ++ ['\\', e] <+: cs := by
  have hs := h ▸ scanString_of cs
  cases hs
  case badEscape left hi he => exact ⟨⟨hi, e, left, he, rfl⟩, left, by simp⟩

theorem scanEquals_fault (h : scanEquals c k cs = .fault cause skipped culprit) :
    cause.category = .lexical ∧ skipped = [] ∧ culprit = [c] := by
  simp only [scanEquals] at h
  split at h <;> cases h
  exact ⟨rfl, rfl, rfl⟩

-- Why there is no lexeme, and where: at the start, or at the invalid escape of a string.
structure Fault (cs : List Char) (cause : ParseError.Cause) (skipped culprit : List Char) : Prop where
  lexical : cause.category = .lexical
  place   : skipped = [] ∨ ∃ inside, BadEscape cs inside ∧ skipped = '"' :: inside
  inText  : skipped ++ culprit <+: cs

theorem Fault.head (hc : cause.category = .lexical) : Fault (c :: cs) cause [] [c] :=
  ⟨hc, .inl rfl, cs, rfl⟩

theorem scanQuoted_fault (h : scanQuoted cs = .fault cause skipped culprit) :
    Fault ('"' :: cs) cause skipped culprit := by
  unfold scanQuoted at h
  cases hs : scanString cs <;> rw [hs] at h <;> cases h
  case unterminated => exact ⟨rfl, .inl rfl, List.prefix_rfl⟩
  case badEscape =>
    obtain ⟨hb, hp⟩ := badEscape_of_scanString hs
    exact ⟨rfl, .inr ⟨_, hb, rfl⟩, List.cons_prefix_cons.mpr ⟨rfl, hp⟩⟩

theorem scan_fault (h : scan c cs = .fault cause skipped culprit) : Fault (c :: cs) cause skipped culprit := by
  induction c, cs using scan_cases
  case less cs =>
    obtain ⟨_, _, _, hs, _⟩ := scanPair_extends '<' (.comparison .lt) (.comparison .le) cs
    cases hs.symm.trans h
  case greater cs =>
    obtain ⟨_, _, _, hs, _⟩ := scanPair_extends '>' (.comparison .gt) (.comparison .ge) cs
    cases hs.symm.trans h
  case exclamation =>
    obtain ⟨hc, rfl, rfl⟩ := scanEquals_fault h
    exact .head hc
  case tilde =>
    obtain ⟨hc, rfl, rfl⟩ := scanEquals_fault h
    exact .head hc
  case loneMinus => cases h; exact .head rfl
  case quote     => exact scanQuoted_fault h
  case word c cs _ _ =>
    obtain ⟨_, _, _, hs⟩ := wordLexeme_text ((c :: cs).takeWhile isWordChar)
      ((c :: cs).dropWhile isWordChar)
    cases hs.symm.trans h
  case unexpected => cases h; exact .head rfl
  all_goals cases h

theorem stuck_iff_scan : Stuck (c :: cs) skip ↔
    ¬isGap c ∧ ∃ cause skipped culprit, scan c cs = .fault cause skipped culprit ∧ skip = size skipped := by
  constructor
  case mp =>
    intro h
    cases h
    case badEscape h =>
      have ⟨e, he⟩ := scan_badEscape h
      refine ⟨fun hg => ?_, _, _, _, he, rfl⟩
      cases (scan_gap hg).symm.trans he
    case noLexeme hc hl hb =>
      refine ⟨hc ∘ isGap_iff.mp, ?_⟩
      cases hs : scan c cs
      case lexeme kind text left => exact absurd ⟨left, scan_append hs⟩ (hl text kind (scan_lexeme hs))
      case fault cause skipped culprit =>
        refine ⟨cause, skipped, culprit, rfl, ?_⟩
        cases (scan_fault hs).place
        case inl h => rw [h, Text.size_nil]
        case inr h =>
          have ⟨inside, h, _⟩ := h
          exact absurd h (hb inside)
  case mpr =>
    intro ⟨hg, cause, skipped, culprit, hs, he⟩
    subst he
    cases (scan_fault hs).place
    case inr h =>
      have ⟨inside, h, hi⟩ := h
      exact hi ▸ .badEscape h
    case inl h =>
      subst h
      refine .noLexeme (hg ∘ isGap_iff.mpr) (fun text kind hl ⟨left, hp⟩ => ?lexeme) fun inside h => ?escape
      case lexeme =>
        have ⟨_, _, _, he, _⟩ := hl.extends hp
        cases hs.symm.trans he
      case escape =>
        have ⟨e, he⟩ := scan_badEscape h
        cases hs.symm.trans he

-- From `start` on, the text `cs` up to `left`, which is at `stop`, is gaps and longest lexemes.
inductive Munches : Nat → List Char → List Token → Nat → List Char → Prop
  | refl : Munches start cs [] start cs
  | gap (hc : c ∈ [' ', '\t', '\n', '\r']) : Munches (start + size [c]) cs ts stop left →
    Munches start (c :: cs) ts stop left
  | lexeme (hl : Longest (c :: cs) text kind after) : Munches (start + size text) after ts stop left →
    Munches start (c :: cs) (⟨kind, start, start + size text⟩ :: ts) stop left

theorem Munches.tokens (h : Munches start cs ts stop left) :
    Lexer.tokens ⟨cs, start, false⟩ = (Lexer.tokens ⟨left, stop, false⟩).map (ts ++ ·) := by
  induction h
  case refl start cs => cases Lexer.tokens ⟨cs, start, false⟩ <;> rfl
  case gap hc _ ih   => rw [tokens_gap (isGap_iff.mpr hc), ih]
  case lexeme hl _ ih =>
    rw [tokens_lexeme (scan_eq_lexeme_iff.mpr hl), ih]
    cases Lexer.tokens _ <;> rfl

theorem Munches.tokens_end (h : Munches start cs ts stop []) :
    Lexer.tokens ⟨cs, start, false⟩ = .ok (ts ++ [.endAt stop]) := by
  rw [h.tokens, tokens_nil]
  rfl

theorem Munches.tokens_stuck (h : Munches start cs ts stop left) (hs : Stuck left skip) :
    ∃ error, Lexer.tokens ⟨cs, start, false⟩ = .error error ∧ error.category = .lexical ∧
      error.span.start = stop + skip := by
  cases left
  case nil =>
    cases hs
    case badEscape h => have ⟨_, _, _, _, ht⟩ := h; cases ht
  case cons c cs =>
    have ⟨hg, cause, skipped, culprit, hf, he⟩ := stuck_iff_scan.mp hs
    rw [h.tokens, tokens_fault stop hg hf]
    exact ⟨_, rfl, (scan_fault hf).lexical, by rw [he]⟩

-- Induction on the length, since a lexeme may have any.
theorem munches_on (start : Nat) (cs : List Char) :
    ∃ ts stop left, Munches start cs ts stop left ∧ (left = [] ∨ ∃ skip, Stuck left skip) := by
  generalize hn : cs.length = n
  induction n using Nat.strongRecOn generalizing start cs
  case ind n ih =>
    cases cs
    case nil => exact ⟨[], start, [], .refl, .inl rfl⟩
    case cons c cs =>
      by_cases hc : isGap c
      case pos =>
        have hl : cs.length < n := hn ▸ cs.length.lt_succ_self
        have ⟨ts, stop, left, hm, he⟩ := ih _ hl (start + size [c]) cs rfl
        exact ⟨ts, stop, left, .gap (isGap_iff.mp hc) hm, he⟩
      case neg =>
        cases hs : scan c cs
        case lexeme kind text after =>
          have hl : after.length < n := hn ▸ scan_rest_length hs
          have ⟨ts, stop, left, hm, he⟩ := ih _ hl (start + size text) after rfl
          exact ⟨_, stop, left, .lexeme (scan_eq_lexeme_iff.mp hs) hm, he⟩
        case fault cause skipped culprit =>
          have hs := stuck_iff_scan.mpr ⟨hc, cause, skipped, culprit, hs, rfl⟩
          exact ⟨[], start, c :: cs, .refl, .inr ⟨_, hs⟩⟩

theorem tokens_eq_ok_iff : tokens ⟨cs, start, false⟩ = .ok ts ↔
    ∃ us stop, Munches start cs us stop [] ∧ ts = us ++ [.endAt stop] := by
  constructor
  case mp =>
    intro h
    have ⟨us, stop, left, hm, he⟩ := munches_on start cs
    cases he
    case inl he =>
      subst he
      exact ⟨us, stop, hm, Except.ok.inj (h.symm.trans hm.tokens_end)⟩
    case inr he =>
      have ⟨_, hs⟩ := he
      have ⟨_, he, _⟩ := hm.tokens_stuck hs
      cases h.symm.trans he
  case mpr =>
    intro ⟨us, stop, hm, he⟩
    exact he ▸ hm.tokens_end

theorem stuck_of_tokens (h : tokens ⟨cs, start, false⟩ = .error error) :
    error.category = .lexical ∧ ∃ us stop left skip,
      Munches start cs us stop left ∧ Stuck left skip ∧ error.span.start = stop + skip := by
  have ⟨us, stop, left, hm, he⟩ := munches_on start cs
  cases he
  case inl he =>
    subst he
    cases h.symm.trans hm.tokens_end
  case inr he =>
    have ⟨skip, hs⟩ := he
    have ⟨_, he, hc, hp⟩ := hm.tokens_stuck hs
    cases h.symm.trans he
    exact ⟨hc, us, stop, left, skip, hm, hs, hp⟩

-- The text that a token carries is the one it was read off.
theorem Lexeme.value?_eq (h : Lexeme text kind) (hv : kind.value? = some v) : v = .ofList text := by
  cases h
  case keyword word h =>
    have ha : ∀ entry ∈ keywords, ∀ v ∈ entry.2.value?, v = entry.1 := by decide
    rw [String.ofList_toList]
    exact ha _ h v hv
  case number     => cases hv; rfl
  case string     => cases hv; rfl
  case function   => cases hv; rfl
  case identifier => cases hv; rfl
  all_goals cases hv

end Lexer

open Lexer (Lexeme Munches Stuck)
open Text (size)

-- The tokens are the longest lexemes one after the other, each at its bytes of the text. An error is where no lexeme
-- starts, or at the invalid escape that spoils the string there.
theorem tokenize_longest (text : String) :
    (∀ ts, tokenize text = .ok ts ↔
      ∃ us stop, Munches 0 text.toList us stop [] ∧ ts = us ++ [.endAt stop]) ∧
    (∀ ts, tokenize text = .ok ts → ts.Pairwise (·.span.stop ≤ ·.span.start) ∧
      ∃ us, ts = us ++ [.endAt text.utf8ByteSize] ∧
        ∀ t ∈ us, t.kind ≠ .eol ∧ t.span.start < t.span.stop ∧
          ∃ before slice after, text.toList = before ++ slice ++ after ∧
            t.span = ⟨size before, size before + size slice⟩ ∧ Lexeme slice t.kind ∧
            ∀ v, t.kind.value? = some v → v = .ofList slice) ∧
    (∀ place, (∃ error, tokenize text = .error error ∧ error.category = .lexical ∧
        error.span.start = place) ↔
      ∃ us stop left skip,
        Munches 0 text.toList us stop left ∧ Stuck left skip ∧ place = stop + skip) ∧
    ∀ error, tokenize text = .error error → error.category = .lexical := by
  refine ⟨fun ts => Lexer.tokens_eq_ok_iff, fun ts h => ?tokens, fun place => ⟨?mp, ?mpr⟩, ?lexical⟩
  case tokens =>
    have hp := Lexer.placed_of_tokenize h
    have ⟨us, hts, hu⟩ := hp.lexemes
    rw [Nat.zero_add, Text.size_toList] at hts
    refine ⟨hp.disjoint, us, hts, fun t ht => ?_⟩
    have ⟨before, slice, after, hc, hn, hl, hs⟩ := hu t ht
    rw [Nat.zero_add] at hs
    have hlt : size before < size before + size slice := Nat.lt_add_of_pos_right (Lexer.size_pos hn)
    refine ⟨fun he => (he ▸ hl.lexed : Lexer.Lexed .eol), hs ▸ hlt, ?_⟩
    exact ⟨before, slice, after, hc, hs, hl, fun v hv => hl.value?_eq hv⟩
  case mp =>
    intro ⟨error, h, _, hp⟩
    have ⟨_, us, stop, left, skip, hm, hs, hq⟩ := Lexer.stuck_of_tokens h
    exact ⟨us, stop, left, skip, hm, hs, hp.symm.trans hq⟩
  case mpr =>
    intro ⟨us, stop, left, skip, hm, hs, hp⟩
    exact hp ▸ hm.tokens_stuck hs
  case lexical => exact fun error h => (Lexer.stuck_of_tokens h).1

-- No gap is needed before a sign.
example : (tokenize "1-1").map (·.map Token.kind) = .ok [.number "1", .number "-1", .eol] := by decide +kernel

-- `é` takes two bytes.
example : tokenize "a \"é\\q\"" = .error ⟨.invalidEscape 'q', 5, 7⟩ := by decide +kernel

end FilterQuery
