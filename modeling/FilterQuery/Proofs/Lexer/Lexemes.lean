import FilterQuery.Proofs.Lexer.Tokens
import FilterQuery.Proofs.Numeral.Plain
import FilterQuery.Text.Quoted

namespace FilterQuery

namespace Lexer

open Numeral

-- A word of ASCII characters that is no keyword.
structure IsName (word : List Char) : Prop where
  start : ∃ c cs, word = c :: cs ∧ isWordStart c
  chars : ∀ c ∈ word, isWordChar c
  free  : keyword? (.ofList word) = none

-- What stands between the quotes of a string.
inductive Inside : List Char → Prop
  | nil : Inside []
  | plain (hq : c ≠ '"') (hb : c ≠ '\\') : Inside cs → Inside (c :: cs)
  | escape (he : c ∈ ['"', '\\', 'n', 't', 'r']) : Inside cs → Inside ('\\' :: c :: cs)

-- ASCII letters, digits and underscores, with no digit in front.
structure IsWord (word : List Char) : Prop where
  start : ∃ c cs, word = c :: cs ∧ (c.isAlpha ∨ c = '_')
  chars : ∀ c ∈ word, c.isAlphanum ∨ c = '_'

theorem keyword?_eq_none_iff : keyword? word = none ↔ ∀ kind, (word, kind) ∉ keywords := by
  rw [keyword?, List.lookup_eq_none_iff]
  constructor
  case mp  => exact fun h kind hm => absurd (h _ hm) (by simp)
  case mpr =>
    intro h entry hm
    have hn : word ≠ entry.1 := fun he => h entry.2 (he ▸ hm)
    simpa using hn

theorem isName_iff : IsName word ↔ IsWord word ∧ ∀ kind, (String.ofList word, kind) ∉ keywords := by
  rw [← keyword?_eq_none_iff]
  constructor
  case mp =>
    rintro ⟨hs, hc, hf⟩
    exact ⟨⟨by simpa [isWordStart] using hs, by simpa [isWordChar] using hc⟩, hf⟩
  case mpr =>
    rintro ⟨⟨hs, hc⟩, hf⟩
    exact ⟨by simpa [isWordStart] using hs, by simpa [isWordChar] using hc, hf⟩

-- The texts of each class of tokens.
inductive Lexeme : List Char → Token.Kind → Prop
  | comparison (op : Comparison) : Lexeme op.symbol.toList (.comparison op)
  | openParen : Lexeme ['('] .openParen
  | closeParen : Lexeme [')'] .closeParen
  | openBracket : Lexeme ['['] .openBracket
  | closeBracket : Lexeme [']'] .closeBracket
  | comma : Lexeme [','] .comma
  | number (h : Signed cs) : Lexeme cs (.number (.ofList cs))
  | string (h : Inside inside) :
    Lexeme ('"' :: inside ++ ['"']) (.string (.ofList ('"' :: inside ++ ['"'])))
  | keyword (h : (word, kind) ∈ keywords) : Lexeme word.toList kind
  | function (hw : IsWord word) (hk : ∀ kind, (String.ofList word, kind) ∉ keywords) :
    Lexeme (word ++ ['(', ')']) (.function (.ofList (word ++ ['(', ')'])))
  | identifier (hw : IsWord word) (hk : ∀ kind, (String.ofList word, kind) ∉ keywords) :
    Lexeme word (.identifier (.ofList word))

-- What is known of a token that was read off a text.
def Lexed : Token.Kind → Prop
  | .number text => Signed text.toList
  | .function call => ∃ word, IsName word ∧ call = .ofList (word ++ ['(', ')'])
  | .identifier name => IsName name.toList
  | .eol => False
  | _ => True

theorem Lexeme.lexed (h : Lexeme text kind) : Lexed kind := by
  cases h
  case number h         => simpa [Lexed] using h
  case function hw hk   => exact ⟨_, isName_iff.mpr ⟨hw, hk⟩, rfl⟩
  case identifier hw hk => simpa [Lexed] using isName_iff.mpr ⟨hw, hk⟩
  case keyword word h =>
    have ha : ∀ entry ∈ keywords, Lexed entry.2 := by simp [keywords, Lexed]
    exact ha _ h
  all_goals trivial

theorem toNat_of_isAlpha {c : Char} (h : c.isAlpha) :
    (65 ≤ c.toNat ∧ c.toNat ≤ 90) ∨ (97 ≤ c.toNat ∧ c.toNat ≤ 122) := by
  change (decide (65 ≤ c.val ∧ c.val ≤ 90) || (97 ≤ c.val && c.val ≤ 122)) = true at h
  simp only [Bool.or_eq_true, Bool.and_eq_true, decide_eq_true_eq, UInt32.le_iff_toNat_le] at h
  exact h

theorem not_isDigit_of_isAlpha {c : Char} (h : c.isAlpha) : ¬c.isDigit := by
  intro hd
  have hd : 48 ≤ c.toNat ∧ c.toNat ≤ 57 := Char.isDigit_iff_toNat.mp hd
  have ha := toNat_of_isAlpha h
  omega

theorem not_isDigit_of_isWordStart (h : isWordStart c) : ¬c.isDigit := by
  simp only [isWordStart, Bool.or_eq_true, beq_iff_eq] at h
  cases h
  case inl h => exact not_isDigit_of_isAlpha h
  case inr h => exact h ▸ by decide

theorem scan_word (h : isWordStart c) : scan c cs = scanWord (c :: cs) := by
  induction c, cs using scan_cases
  case digit hd         => exact absurd hd (not_isDigit_of_isWordStart h)
  case word             => rfl
  case unexpected hw => exact absurd h hw
  all_goals exact absurd h (by decide)

theorem scan_digit (h : c.isDigit) : scan c cs = scanNumber [] (c :: cs) := by
  induction c, cs using scan_cases
  case digit             => rfl
  case word hd _         => exact absurd h hd
  case unexpected hd _ => exact absurd h hd
  all_goals exact absurd h (by decide)

theorem isDigits_takeWhile (h : c.isDigit) (cs : List Char) :
    isDigits ((c :: cs).takeWhile Char.isDigit) := by
  refine isDigits_iff.mpr ⟨?_, fun _ hd => List.mem_takeWhile_imp hd⟩
  rw [List.takeWhile_cons_of_pos h]
  exact nofun

theorem numberText_plain (h : c.isDigit) (cs : List Char) : Plain (numberText (c :: cs)) := by
  have hw := isDigits_takeWhile h cs
  generalize c :: cs = cs at hw ⊢
  induction cs using number_cases
  case fraction hf => exact .point hw (isDigits_takeWhile hf _)
  case whole       => exact .whole hw

theorem isEscape_iff : isEscape c ↔ c ∈ ['"', '\\', 'n', 't', 'r'] := by
  simp [isEscape, or_assoc]

theorem scanString_cons (hb : c ≠ '\\') (hq : c ≠ '"') (cs : List Char) :
    scanString (c :: cs) = (scanString cs).prepend [c] := by
  rw [scanString]
  all_goals simp_all

-- The text behind an opening quote, and what is found in it.
inductive StringScan.Of : List Char → StringScan → Prop
  | closed (h : Inside inside) : Of (inside ++ '"' :: left) (closed inside left)
  | unterminated (h : Inside inside) (hl : left = [] ∨ left = ['\\']) : Of (inside ++ left) unterminated
  | badEscape (h : Inside inside) (he : e ∉ ['"', '\\', 'n', 't', 'r']) :
    Of (inside ++ '\\' :: e :: left) (badEscape inside e)

theorem StringScan.Of.prepend (h : Of cs s) (ds : List Char)
    (hp : ∀ inside, Inside inside → Inside (ds ++ inside)) : Of (ds ++ cs) (s.prepend ds) := by
  cases h <;> rw [← List.append_assoc]
  case closed h          => exact .closed (hp _ h)
  case unterminated h hl => exact .unterminated (hp _ h) hl
  case badEscape h he    => exact .badEscape (hp _ h) he

theorem scanString_of (cs : List Char) : StringScan.Of cs (scanString cs) := by
  induction cs using scanString_induction
  case nil              => exact .unterminated .nil (.inl rfl)
  case backslash        => exact .unterminated .nil (.inr rfl)
  case escape c _ he ih => exact ih.prepend ['\\', c] fun _ => .escape (isEscape_iff.mp he)
  case badEscape he     => exact .badEscape .nil (he ∘ isEscape_iff.mpr)
  case quote            => exact .closed .nil
  case plain c _ hb hq ih => exact ih.prepend [c] fun _ => .plain hq hb

theorem StringScan.prepend_prepend (s : StringScan) (cs ds : List Char) :
    (s.prepend ds).prepend cs = s.prepend (cs ++ ds) := by
  cases s <;> simp [prepend]

theorem scanString_inside (h : Inside inside) (cs : List Char) :
    scanString (inside ++ cs) = (scanString cs).prepend inside := by
  induction h
  case nil => cases h : scanString cs <;> simp [h, StringScan.prepend]
  case plain hq hb _ ih =>
    rw [List.cons_append, scanString_cons hb hq, ih, StringScan.prepend_prepend]
    rfl
  case escape he _ ih =>
    rw [List.cons_append, List.cons_append, scanString, if_pos (isEscape_iff.mpr he), ih,
      StringScan.prepend_prepend]
    rfl

theorem scanString_closed (h : Inside inside) (left : List Char) :
    scanString (inside ++ '"' :: left) = .closed inside left := by
  rw [scanString_inside h, scanString]
  simp [StringScan.prepend]

theorem inside_of_closed (h : scanString cs = .closed inside left) : Inside inside := by
  have hs := h ▸ scanString_of cs
  cases hs
  assumption

theorem scanNumber_lexeme (h : Signed (sign ++ numberText cs))
    (hs : scanNumber sign cs = .lexeme kind text left) : Lexeme text kind := by
  cases hs
  exact .number h

theorem scanNegative_lexeme (hd : (cs.headD ' ').isDigit)
    (hs : scanNumber ['-'] cs = .lexeme kind text left) : Lexeme text kind := by
  cases cs
  case nil  => exact absurd hd (by decide)
  case cons => exact scanNumber_lexeme (.minus (numberText_plain hd _)) hs

theorem scanPair_single (h : cs.head? ≠ some '=') : scanPair c single double cs = .lexeme single [c] cs := by
  unfold scanPair
  split <;> simp_all

theorem scanPair_lexeme (h : Lexeme [c] single) (h' : Lexeme [c, '='] double)
    (hs : scanPair c single double cs = .lexeme kind text left) : Lexeme text kind := by
  simp only [scanPair] at hs
  split at hs <;> cases hs <;> assumption

theorem scanEquals_lexeme (h : Lexeme [c, '='] k) (hs : scanEquals c k cs = .lexeme kind text left) :
    Lexeme text kind := by
  simp only [scanEquals] at hs
  split at hs <;> cases hs
  exact h

theorem scanQuoted_lexeme (hs : scanQuoted cs = .lexeme kind text left) : Lexeme text kind := by
  unfold scanQuoted at hs
  cases hc : scanString cs <;> rw [hc] at hs <;> cases hs
  case closed => exact .string (inside_of_closed hc)

-- A name ends where it can go on no further.
theorem isName_takeWhile (hc : isWordStart c)
    (hk : keyword? (.ofList ((c :: cs).takeWhile isWordChar)) = none) :
    IsName ((c :: cs).takeWhile isWordChar) where
  start := ⟨c, cs.takeWhile isWordChar, List.takeWhile_cons_of_pos (isWordChar_of_isWordStart hc), hc⟩
  chars _ hd := List.mem_takeWhile_imp hd
  free := hk

theorem keyword?_lexeme (h : keyword? (.ofList word) = some kind) : Lexeme word kind := by
  have ⟨_, _, he, _⟩ := List.lookup_eq_some_iff.mp h
  have hl : Lexeme (String.ofList word).toList kind := .keyword (by simp [he])
  rwa [String.toList_ofList] at hl

theorem scanWord_lexeme (hc : isWordStart c) (hs : scanWord (c :: cs) = .lexeme kind text left) :
    Lexeme text kind := by
  have hn (hk : keyword? (.ofList ((c :: cs).takeWhile isWordChar)) = none) := isName_takeWhile hc hk
  unfold scanWord at hs
  generalize (c :: cs).takeWhile isWordChar = word, (c :: cs).dropWhile isWordChar = after at hn hs
  induction word, after using wordLexeme_cases <;> cases hs
  case keyword hk => exact keyword?_lexeme hk
  case call hk =>
    have ⟨hw, hk⟩ := isName_iff.mp (hn hk)
    exact .function hw hk
  case name hk _ =>
    have ⟨hw, hk⟩ := isName_iff.mp (hn hk)
    exact .identifier hw hk

theorem scan_lexeme (h : scan c cs = .lexeme kind text left) : Lexeme text kind := by
  induction c, cs using scan_cases
  case equals       => cases h; exact .comparison .eq
  case openParen    => cases h; exact .openParen
  case closeParen   => cases h; exact .closeParen
  case openBracket  => cases h; exact .openBracket
  case closeBracket => cases h; exact .closeBracket
  case comma        => cases h; exact .comma
  case less         => exact scanPair_lexeme (.comparison .lt) (.comparison .le) h
  case greater      => exact scanPair_lexeme (.comparison .gt) (.comparison .ge) h
  case exclamation  => exact scanEquals_lexeme (.comparison .neq) h
  case tilde        => exact scanEquals_lexeme (.comparison .contains) h
  case minus hd     => exact scanNegative_lexeme hd h
  case loneMinus    => cases h
  case quote        => exact scanQuoted_lexeme h
  case digit hd     => exact scanNumber_lexeme (.plus (numberText_plain hd _)) h
  case word hw      => exact scanWord_lexeme hw h
  case unexpected   => cases h

theorem scan_lexed (h : scan c cs = .lexeme kind text left) : Lexed kind :=
  (scan_lexeme h).lexed

theorem Cuts.lexed (h : Cuts cs kinds left) : ∀ kind ∈ kinds, Lexed kind := by
  induction h
  case done     => exact fun _ => nofun
  case gap _ ih => exact ih
  case lexeme hs _ ih =>
    intro kind hk
    cases hk
    case head    => exact scan_lexed hs
    case tail hk => exact ih kind hk

end Lexer
end FilterQuery
