import FilterQuery.Proofs.Lexer.Lexemes

namespace FilterQuery.Lexer

open Numeral

variable {cs left : List Char}

-- What may stand behind a lexeme without being taken for a part of it.
def separators : List Char := [' ', '\t', '\n', '\r', ')', ']', ',', '[']

def Closes (left : List Char) : Prop :=
  ∀ c ∈ left.head?, c ∈ separators

theorem Closes.nil : Closes [] := fun _ => nofun

theorem Closes.cons (h : c ∈ separators) : Closes (c :: cs) :=
  fun _ hc => Option.some.inj hc ▸ h

theorem Closes.space : Closes (' ' :: cs) := .cons (by decide)

theorem Closes.comma : Closes (',' :: cs) := .cons (by decide)

theorem Closes.openBracket : Closes ('[' :: cs) := .cons (by decide)

theorem Closes.closeBracket : Closes (']' :: cs) := .cons (by decide)

theorem Closes.closeParen : Closes (')' :: cs) := .cons (by decide)

-- What no separator has, nothing has that closes a lexeme.
theorem Closes.head_false {p : Char → Bool} (h : Closes left) (hp : separators.all (!p ·)) :
    ∀ c ∈ left.head?, p c = false := by
  intro c hc
  simpa using List.all_eq_true.mp hp c (h c hc)

theorem Closes.head_ne (h : Closes left) (hc : c ∉ separators) : left.head? ≠ some c :=
  fun he => hc (h c he)

theorem takeWhile_append_left {p : Char → Bool} (cs : List Char) (hl : ∀ c ∈ left.head?, p c = false) :
    (cs ++ left).takeWhile p = cs.takeWhile p := by
  induction cs
  case nil => cases left <;> simp_all
  case cons c cs ih => by_cases hc : p c <;> simp [hc, ih]

theorem dropWhile_append_left {p : Char → Bool} (cs : List Char) (hl : ∀ c ∈ left.head?, p c = false) :
    (cs ++ left).dropWhile p = cs.dropWhile p ++ left := by
  induction cs
  case nil => cases left <;> simp_all
  case cons c cs ih => by_cases hc : p c <;> simp [hc, ih]

theorem takeWhile_append {p : Char → Bool} (h : ∀ c ∈ cs, p c) (hl : ∀ c ∈ left.head?, p c = false) :
    (cs ++ left).takeWhile p = cs :=
  (takeWhile_append_left cs hl).trans (List.takeWhile_eq_self_iff.mpr h)

theorem dropWhile_append {p : Char → Bool} (h : ∀ c ∈ cs, p c) (hl : ∀ c ∈ left.head?, p c = false) :
    (cs ++ left).dropWhile p = left := by
  rw [dropWhile_append_left cs hl, List.dropWhile_eq_nil_iff.mpr h, List.nil_append]

theorem numberText_append_left (cs : List Char) (hl : Closes left) :
    numberText (cs ++ left) = numberText cs := by
  have hd := hl.head_false (p := Char.isDigit) rfl
  simp only [numberText, takeWhile_append_left cs hd, dropWhile_append_left cs hd]
  rcases cs.dropWhile Char.isDigit with _ | ⟨c, _ | ⟨d, ds⟩⟩
  case nil =>
    have hp : left.head? ≠ some '.' := hl.head_ne (by decide)
    cases left <;> simp_all
  case cons.nil =>
    by_cases hc : c = '.' <;> cases left <;> simp_all
  case cons.cons =>
    have ht := takeWhile_append_left (d :: ds) hd
    by_cases hc : c = '.' <;> simp_all

-- A numeral is read to its end, and may go on behind it.
theorem numberText_extends (h : Plain cs) (left : List Char) :
    ∃ more, numberText (cs ++ left) = cs ++ more := by
  cases h
  case whole hw =>
    have hd := (isDigits_iff.mp hw).2
    have ⟨more, hm⟩ := takeWhile_prefix_numberText (cs ++ left)
    rw [List.takeWhile_append_of_pos hd, List.append_assoc] at hm
    exact ⟨_, hm.symm⟩
  case point ws fs hw hf =>
    have hd := (isDigits_iff.mp hw).2
    obtain ⟨hn, hf⟩ := isDigits_iff.mp hf
    obtain ⟨f, gs, rfl⟩ := List.exists_cons_of_ne_nil hn
    have hp : ∀ c ∈ ('.' :: f :: (gs ++ left)).head?, c.isDigit = false := by simp [Char.isDigit]
    have ht : (f :: (gs ++ left)).takeWhile Char.isDigit = f :: gs ++ left.takeWhile Char.isDigit :=
      List.takeWhile_append_of_pos hf
    simp only [List.append_assoc, List.cons_append, numberText, takeWhile_append hd hp,
      dropWhile_append hd hp, ht, hf f (List.mem_cons_self ..), if_true]
    exact ⟨_, rfl⟩

theorem numberText_append (h : Plain cs) (hl : Closes left) : numberText (cs ++ left) = cs := by
  have ⟨more, hm⟩ := numberText_extends h []
  have ha := numberText_append_numberRest cs
  rw [List.append_nil] at hm
  rw [hm, List.append_assoc] at ha
  have hn : more = [] := (List.append_eq_nil_iff.mp (List.append_right_eq_self.mp ha)).1
  rw [numberText_append_left cs hl, hm, hn, List.append_nil]

theorem numberRest_append (h : Plain cs) (hl : Closes left) : numberRest (cs ++ left) = left := by
  have ha := numberText_append_numberRest (cs ++ left)
  rw [numberText_append h hl] at ha
  exact List.append_cancel_left ha

theorem scanNumber_append_plain (sign : List Char) (h : Plain cs) (hl : Closes left) :
    scanNumber sign (cs ++ left) =
      .lexeme (.number (.ofList (sign ++ cs))) (sign ++ cs) left := by
  simp only [scanNumber, numberText_append h hl, numberRest_append h hl]

theorem scanWord_append_left (h : ∀ c ∈ cs, isWordChar c)
    (hl : ∀ c ∈ left.head?, isWordChar c = false) : scanWord (cs ++ left) = wordLexeme cs left := by
  simp only [scanWord, takeWhile_append h hl, dropWhile_append h hl]

theorem wordLexeme_call (h : keyword? (.ofList word) = none) (left : List Char) :
    wordLexeme word ('(' :: ')' :: left) =
      .lexeme (.function (.ofList (word ++ ['(', ')']))) (word ++ ['(', ')']) left := by
  simp only [wordLexeme, h]

theorem wordLexeme_identifier (h : keyword? (.ofList word) = none)
    (hl : ∀ more, left ≠ '(' :: ')' :: more) :
    wordLexeme word left = .lexeme (.identifier (.ofList word)) word left := by
  simp only [wordLexeme, h]

-- Behind a name, only an opening parenthesis makes a difference.
theorem wordLexeme_name (h : IsName cs) (hl : Closes left) :
    wordLexeme cs left = .lexeme (.identifier (.ofList cs)) cs left := by
  refine wordLexeme_identifier h.free ?_
  rintro more rfl
  exact absurd (hl '(' rfl) (by decide)

theorem inside_escape (cs : List Char) : Inside (Text.escape cs) := by
  induction cs using Text.escape_induction
  case nil            => exact .nil
  case backslash ih   => exact .escape (by decide) ih
  case quote ih       => exact .escape (by decide) ih
  case plain hb hq ih => exact .plain hq hb ih

-- The closing quote is found whatever follows it.
theorem scan_quote (cs left : List Char) :
    scan '"' (Text.escape cs ++ '"' :: left) =
      .lexeme (.string (.ofList (Text.quote cs))) (Text.quote cs) left := by
  simp [scan, scanQuoted, scanString_closed (inside_escape cs), Text.quote]

theorem keyword_start (h : (word, kind) ∈ keywords) :
    ∃ c cs, word.toList = c :: cs ∧ isWordStart c := by
  have ha : ∀ entry ∈ keywords, ∃ c cs, entry.1.toList = c :: cs ∧ isWordStart c := by
    simp [keywords]
    decide
  exact ha _ h

theorem keyword_chars (h : (word, kind) ∈ keywords) : ∀ c ∈ word.toList, isWordChar c := by
  have ha : ∀ entry ∈ keywords, ∀ c ∈ entry.1.toList, isWordChar c := by
    simp [keywords]
    decide
  exact ha _ h

theorem wordLexeme_keyword (h : (word, kind) ∈ keywords) (left : List Char) :
    wordLexeme word.toList left = .lexeme kind word.toList left := by
  have ha : ∀ entry ∈ keywords, keyword? entry.1 = some entry.2 := by decide
  simp only [wordLexeme, String.ofList_toList, ha _ h]

namespace Cuts

theorem number (h : Signed cs) (hl : Closes left) :
    Cuts (cs ++ left) [.number (.ofList cs)] left := by
  cases h
  case plus h =>
    have ⟨d, ds, hc, hd⟩ := h.head_digit
    have hs := scanNumber_append_plain [] h hl
    subst hc
    exact .single <| (scan_digit hd).trans hs
  case minus cs h =>
    have ⟨d, ds, hc, hd⟩ := h.head_digit
    have hs := scanNumber_append_plain ['-'] h hl
    have hh : ((cs ++ left).headD ' ').isDigit := by simp [hc, hd]
    exact .single <| (if_pos hh).trans hs

-- Names, calls and keywords are told apart once the whole word is read.
theorem word (hs : ∃ c ds, cs = c :: ds ∧ isWordStart c) (ha : ∀ c ∈ cs, isWordChar c)
    (hl : ∀ c ∈ left.head?, isWordChar c = false)
    (hw : wordLexeme cs left = .lexeme kind text after) : Cuts (cs ++ left) [kind] after := by
  have ⟨c, ds, hc, hstart⟩ := hs
  have hscan := (scanWord_append_left ha hl).trans hw
  subst hc
  exact .single <| (scan_word hstart).trans hscan

theorem name (h : IsName cs) (hl : Closes left) :
    Cuts (cs ++ left) [.identifier (.ofList cs)] left :=
  .word h.start h.chars (hl.head_false rfl) (wordLexeme_name h hl)

theorem function (h : IsName cs) :
    Cuts (cs ++ '(' :: ')' :: left) [.function (.ofList (cs ++ ['(', ')']))] left := by
  have hp : ∀ c ∈ ('(' :: ')' :: left).head?, isWordChar c = false := by simp; decide
  apply Cuts.word h.start h.chars hp
  simp only [wordLexeme, h.free]
  rfl

theorem keyword (word : String) (h : (word, kind) ∈ keywords) (hl : Closes left) :
    Cuts (word.toList ++ left) [kind] left :=
  .word (keyword_start h) (keyword_chars h) (hl.head_false rfl) (wordLexeme_keyword h left)

theorem connective (op : Connective) (hl : Closes left) :
    Cuts (op.symbol.toList ++ left) [.connective op] left := by
  cases op
  case and => exact .keyword "AND" (by decide) hl
  case or  => exact .keyword "OR" (by decide) hl

theorem quoted (cs left : List Char) :
    Cuts (Text.quote cs ++ left) [.string (.ofList (Text.quote cs))] left := by
  simpa [Text.quote] using Cuts.single (scan_quote cs left)

theorem comparison (op : Comparison) (hl : Closes left) :
    Cuts (op.symbol.toList ++ left) [.comparison op] left := by
  cases op
  case gt       => exact .single (c := '>') (scanPair_single (hl.head_ne (by decide)))
  case lt       => exact .single (c := '<') (scanPair_single (hl.head_ne (by decide)))
  case ge       => exact .single (c := '>') rfl
  case le       => exact .single (c := '<') rfl
  case eq       => exact .single (c := '=') rfl
  case neq      => exact .single (c := '!') rfl
  case contains => exact .single (c := '~') rfl

end Cuts

end FilterQuery.Lexer
