import FilterQuery.Proofs.Lexer.Spelling
import FilterQuery.Proofs.Sql.Grammar

namespace FilterQuery.Sql

open Lexer (Closes takeWhile_append dropWhile_append)

def blanks : List Char := [' ', '\t', '\n', '\r', '\x0b', '\x0c']

def isWordStart (c : Char) : Bool :=
  c.isAlpha || c == '_' || 128 ≤ c.toNat

def isWordPart (c : Char) : Bool :=
  isWordStart c || c.isDigit || c == '$'

def isNumeralPart (c : Char) : Bool :=
  isWordPart c || c == '.'

def operatorParts : List Char := "+-*/<>=~!@#%^&|?\x60".toList

def isOperatorPart (c : Char) : Bool :=
  operatorParts.contains c

-- What is read up to a closing quote, and what is left behind it.
abbrev Quoted := Option (List Char × List Char)

def Quoted.prepend (cs : List Char) (q : Quoted) : Quoted :=
  q.map fun (body, left) => (cs ++ body, left)

def Quoted.lexeme (l : List Char → Lexeme) (q : Quoted) : Option (Lexeme × List Char) :=
  q.map fun (body, left) => (l body, left)

-- The text of a name; two quotes stand for one.
def scanName : List Char → Quoted
  | [] => none
  | '"' :: '"' :: cs => (scanName cs).prepend ['"']
  | '"' :: cs => some ([], cs)
  | c :: cs => (scanName cs).prepend [c]

-- A string as it is written. Neither a doubled quote nor, where escapes have a meaning, a quote behind a
-- backslash closes it.
def scanString (escapes : Bool) : List Char → Quoted
  | [] => none
  | '\'' :: '\'' :: cs => (scanString escapes cs).prepend ['\'', '\'']
  | '\'' :: cs => some ([], cs)
  | '\\' :: c :: cs =>
    if escapes then (scanString escapes cs).prepend ['\\', c]
    else (scanString escapes (c :: cs)).prepend ['\\']
  | c :: cs => (scanString escapes cs).prepend [c]

-- Digits, and more digits behind a point or none.
def isNumeral (cs : List Char) : Bool :=
  Numeral.isDigits (cs.takeWhile Char.isDigit) &&
    match cs.dropWhile Char.isDigit with
    | [] => true
    | c :: fs => c == '.' && Numeral.isDigits fs

def operators : List String := ["=", "<>", ">", ">=", "<", "<=", "-", "*"]

-- The words that conditions and queries are written with.
def keywords : List String :=
  ["SELECT", "FROM", "WHERE", "OR", "AND", "NOT", "IS", "NULL", "IN", "LIKE", "ESCAPE", "TRUE", "FALSE"]

-- The lexeme that begins with `c`, and what is left behind it. Operators, words and numerals are as long as
-- possible.
def scan (c : Char) (cs : List Char) : Option (Lexeme × List Char) :=
  if c = '"' then (scanName cs).lexeme fun name => .name (.ofList name)
  else if c = '\'' then (scanString false cs).lexeme (.string false)
  else if (c = 'E' ∨ c = 'e') ∧ cs.head? = some '\'' then
    (scanString true cs.tail).lexeme (.string true)
  else if isWordStart c then
    let left := cs.dropWhile isWordPart
    -- other letters before a string give it another meaning
    if left.head? = some '\'' then none
    else some (.word (.ofList ((c :: cs.takeWhile isWordPart).map Char.toUpper)), left)
  else if c.isDigit then
    let text := c :: cs.takeWhile isNumeralPart
    if isNumeral text then some (.numeral (.ofList text), cs.dropWhile isNumeralPart) else none
  else if c = '(' ∨ c = ')' ∨ c = ',' then some (.symbol (.ofList [c]), cs)
  else
    let text := String.ofList (c :: cs.takeWhile isOperatorPart)
    if text ∈ operators then some (.symbol text, cs.dropWhile isOperatorPart) else none

theorem Quoted.prepend_eq_some_iff {q : Quoted} :
    q.prepend cs = some (body, left) ↔ ∃ body', q = some (body', left) ∧ cs ++ body' = body := by
  simp [prepend]

theorem scanName_length (h : scanName cs = some (name, left)) : left.length ≤ cs.length := by
  fun_induction scanName cs generalizing name
  all_goals grind [Quoted.prepend_eq_some_iff]

theorem scanString_length (h : scanString escapes cs = some (body, left)) : left.length ≤ cs.length := by
  fun_induction scanString escapes cs generalizing body
  all_goals grind [Quoted.prepend_eq_some_iff]

theorem Quoted.lexeme_length {q : Quoted} (hq : ∀ {body left}, q = some (body, left) → left.length ≤ n)
    (h : q.lexeme f = some (l, left)) : left.length ≤ n := by
  have ⟨_, hs, he⟩ := Option.map_eq_some_iff.mp h
  cases he
  exact hq hs

theorem scan_length (h : scan c cs = some (l, left)) : left.length ≤ cs.length := by
  have hd : ∀ p, (cs.dropWhile p).length ≤ cs.length := fun _ => List.length_dropWhile_le ..
  have ht : cs.tail.length ≤ cs.length := List.length_tail ▸ Nat.sub_le ..
  simp only [scan] at h
  split_ifs at h
  case pos => exact Quoted.lexeme_length scanName_length h
  case pos => exact Quoted.lexeme_length scanString_length h
  case pos => exact Nat.le_trans (Quoted.lexeme_length scanString_length h) ht
  all_goals cases h
  case neg => exact hd _
  case pos => exact hd _
  case pos => exact Nat.le_refl _
  case pos => exact hd _

-- The lexemes of a text; none where it is not read.
def lexemes? : List Char → Option (List Lexeme)
  | [] => some []
  | c :: cs =>
    if c ∈ blanks then lexemes? cs
    else match _h : scan c cs with
      | none => none
      | some (l, left) => (lexemes? left).map (l :: ·)
termination_by cs => cs.length
decreasing_by
  · exact Nat.lt_succ_self _
  · exact Nat.lt_succ_of_le (scan_length _h)

theorem lexemes?_nil : lexemes? [] = some [] := by
  rw [lexemes?]

theorem lexemes?_space (cs : List Char) : lexemes? (' ' :: cs) = lexemes? cs := by
  rw [lexemes?]
  exact if_pos (by decide)

-- The characters at which `scan` does something else than to look for an operator.
def isSpecial (c : Char) : Bool :=
  ['"', '\'', '(', ')', ',', 'E', 'e'].contains c || isWordStart c || c.isDigit

theorem isSpecial_operatorParts : operatorParts.all fun c => !isSpecial c := by
  decide

theorem isOperatorPart_operators : operators.all fun text => text.toList.all isOperatorPart := by
  decide

theorem scan_of_not_isSpecial (h : isSpecial c = false) (cs : List Char) :
    scan c cs =
      if .ofList (c :: cs.takeWhile isOperatorPart) ∈ operators then
        some (.symbol (.ofList (c :: cs.takeWhile isOperatorPart)), cs.dropWhile isOperatorPart)
      else none := by
  simp only [isSpecial, Bool.or_eq_false_iff, List.contains_eq_mem, decide_eq_false_iff_not, List.mem_cons,
    List.not_mem_nil, or_false, not_or] at h
  simp [scan, h, -String.ofList_cons]

theorem isOperatorPart_of_mem (h : .ofList cs ∈ operators) : ∀ c ∈ cs, isOperatorPart c := by
  have ha := List.all_eq_true.mp isOperatorPart_operators _ h
  rwa [String.toList_ofList, List.all_eq_true] at ha

-- No lexeme begins with a blank.
theorem not_mem_blanks_of_scan (h : scan c cs = some (l, left)) : c ∉ blanks := by
  have hb : blanks.all fun c => !isSpecial c && !isOperatorPart c := by decide
  intro hm
  have hc := List.all_eq_true.mp hb c hm
  simp only [Bool.and_eq_true, Bool.not_eq_true'] at hc
  rw [scan_of_not_isSpecial hc.1] at h
  split at h
  case isFalse    => cases h
  case isTrue hs =>
    have hp := isOperatorPart_of_mem hs c (List.mem_cons_self ..)
    exact nomatch hp.symm.trans hc.2

theorem lexemes?_of_scan (h : scan c cs = some (l, left)) :
    lexemes? (c :: cs) = (lexemes? left).map (l :: ·) := by
  rw [lexemes?, if_neg (not_mem_blanks_of_scan h)]
  split <;> simp_all

-- With a separator behind it, the text `cs` falls into the lexemes `xs`.
def Spells (cs : List Char) (xs : List Lexeme) : Prop :=
  ∀ left, Closes left → lexemes? (cs ++ left) = (lexemes? left).map (xs ++ ·)

namespace Spells

theorem nil : Spells [] [] := fun left _ => by simp

theorem lexemes? (h : Spells cs xs) : lexemes? cs = some xs := by
  simpa [lexemes?_nil] using h [] .nil

theorem space (h : Spells cs xs) (h' : Spells ds ys) : Spells (cs ++ ' ' :: ds) (xs ++ ys) := by
  intro left hl
  rw [List.append_assoc, List.cons_append, h _ .space, lexemes?_space, h' left hl]
  simp [Function.comp_def]

theorem comma (h : Spells cs xs) (h' : Spells ds ys) :
    Spells (cs ++ ',' :: ' ' :: ds) (xs ++ .symbol "," :: ys) := by
  intro left hl
  have hc : scan ',' (' ' :: (ds ++ left)) = some (.symbol ",", ' ' :: (ds ++ left)) := rfl
  simp only [List.append_assoc, List.cons_append]
  rw [h _ .comma, lexemes?_of_scan hc, lexemes?_space, h' left hl]
  simp [Function.comp_def]

theorem paren (h : Spells cs xs) : Spells ('(' :: (cs ++ [')'])) (parenthesized xs) := by
  intro left hl
  have ho : scan '(' (cs ++ ')' :: left) = some (.symbol "(", cs ++ ')' :: left) := rfl
  have hc : scan ')' left = some (.symbol ")", left) := rfl
  simp only [List.cons_append, List.append_assoc, List.nil_append]
  rw [lexemes?_of_scan ho, h _ .closeParen, lexemes?_of_scan hc]
  simp [Function.comp_def, parenthesized]

theorem single (h : ∀ left, Closes left → scan c (cs ++ left) = some (l, left)) : Spells (c :: cs) [l] :=
  fun left hl => lexemes?_of_scan (h left hl)

end Spells

theorem scanName_quote (hl : left.head? ≠ some '"') : scanName ('"' :: left) = some ([], left) := by
  rw [scanName]
  rintro cs rfl
  exact hl rfl

theorem scanName_append (cs : List Char) (hl : left.head? ≠ some '"') :
    scanName ((cs.flatMap fun c => if c = '"' then ['"', '"'] else [c]) ++ '"' :: left) = some (cs, left) := by
  induction cs
  case nil => exact scanName_quote hl
  case cons c cs ih =>
    rw [List.flatMap_cons, List.append_assoc]
    split
    case isTrue hc => simp [scanName, ih, hc, Quoted.prepend]
    case isFalse hc =>
      rw [List.singleton_append, scanName, ih]
      · rfl
      all_goals simp [hc]

theorem scanString_quote (hl : left.head? ≠ some '\'') : scanString escapes ('\'' :: left) = some ([], left) := by
  rw [scanString]
  rintro cs rfl
  exact hl rfl

-- A character that is written as it is does neither begin an escape nor close the string.
theorem escapeChar_cases (c : Char) :
    (∃ d, escapeChar c = ['\\', d]) ∨ escapeChar c = [c] ∧ c ≠ '\\' ∧ c ≠ '\'' := by
  unfold escapeChar
  split <;> first | exact .inl ⟨_, rfl⟩ | exact .inr ⟨rfl, ‹_›, ‹_›⟩

theorem scanString_plain (hc : c ≠ '\\') (hq : c ≠ '\'') (cs : List Char) :
    scanString escapes (c :: cs) = (scanString escapes cs).prepend [c] := by
  rw [scanString]
  all_goals simp [hc, hq]

theorem scanString_escaped (cs : List Char) (hl : left.head? ≠ some '\'') :
    scanString true (cs.flatMap escapeChar ++ '\'' :: left) = some (cs.flatMap escapeChar, left) := by
  induction cs
  case nil => exact scanString_quote hl
  case cons c cs ih =>
    rw [List.flatMap_cons, List.append_assoc]
    rcases escapeChar_cases c with ⟨d, hd⟩ | ⟨hd, hb, hq⟩
    case inl => simp [hd, scanString, ih, Quoted.prepend]
    case inr => simp [hd, scanString_plain hb hq, ih, Quoted.prepend]

-- Where no backslash is written, every character stands for itself.
theorem scanString_unescaped {cs : List Char} (hb : '\\' ∉ cs.flatMap escapeChar)
    (hl : left.head? ≠ some '\'') :
    scanString false (cs.flatMap escapeChar ++ '\'' :: left) = some (cs.flatMap escapeChar, left) := by
  induction cs
  case nil => exact scanString_quote hl
  case cons c cs ih =>
    rw [List.flatMap_cons, List.mem_append, not_or] at hb
    rw [List.flatMap_cons, List.append_assoc]
    rcases escapeChar_cases c with ⟨d, hd⟩ | ⟨hd, hc, hq⟩
    case inl => simp [hd] at hb
    case inr => simp [hd, scanString_plain hc hq, ih hb.2, Quoted.prepend]

namespace Spells

theorem name (text : String) : Spells (nameText text).toList [.name text] := by
  let body := text.toList.flatMap fun c => if c = '"' then ['"', '"'] else [c]
  have hs : ∀ left, Closes left → scan '"' (body ++ ['"'] ++ left) = some (.name text, left) := by
    intro left hl
    have hq : '"' ∉ Lexer.separators := by decide
    rw [List.append_assoc, List.singleton_append, scan, if_pos rfl, scanName_append _ (hl.head_ne hq)]
    simp [Quoted.lexeme]
  simpa [nameText] using single hs

theorem string (s : String) :
    let body := s.toList.flatMap escapeChar
    Spells (stringText s).toList [.string (body.contains '\\') body] := by
  intro body
  have hq : '\'' ∉ Lexer.separators := by decide
  simp only [stringText, String.toList_ofList]
  split
  case isTrue hb =>
    have hs : ∀ left, Closes left →
        scan 'E' ('\'' :: body ++ ['\''] ++ left) = some (.string true body, left) := by
      intro left hl
      simp [scan, Quoted.lexeme, body, scanString_escaped _ (hl.head_ne hq)]
    rw [show body.contains '\\' = true from hb]
    exact single hs
  case isFalse hb =>
    have hn : '\\' ∉ body := fun hm => hb (List.contains_iff_mem.mpr hm)
    have hs : ∀ left, Closes left →
        scan '\'' (body ++ ['\''] ++ left) = some (.string false body, left) := by
      intro left hl
      simp [scan, Quoted.lexeme, body, scanString_unescaped hn (hl.head_ne hq)]
    rw [show body.contains '\\' = false from Bool.not_eq_true _ ▸ hb]
    exact single hs

end Spells

theorem scan_word (hc : isWordStart c) (ha : ∀ d ∈ cs, isWordPart d) (hl : Closes left) :
    scan c (cs ++ left) = some (.word (.ofList ((c :: cs).map Char.toUpper)), left) := by
  have hq : left.head? ≠ some '\'' := hl.head_ne (by decide)
  have hs : (cs ++ left).head? ≠ some '\'' := by
    cases cs
    case nil  => exact hq
    case cons =>
      intro he
      cases he
      exact absurd (ha _ (List.mem_cons_self ..)) (by decide)
  have hp := hl.head_false (p := isWordPart) rfl
  rw [scan, if_neg (by rintro rfl; exact absurd hc (by decide)),
    if_neg (by rintro rfl; exact absurd hc (by decide)), if_neg (hs ·.2), if_pos hc]
  simp only [takeWhile_append ha hp, dropWhile_append ha hp, if_neg hq]

theorem isSpecial_of_isOperatorPart (h : isOperatorPart c) : isSpecial c = false := by
  simpa using List.all_eq_true.mp isSpecial_operatorParts c (List.contains_iff_mem.mp h)

theorem isOperatorPart_of_isDigit (h : c.isDigit) : isOperatorPart c = false := by
  by_contra ho
  have hs := isSpecial_of_isOperatorPart (Bool.not_eq_false _ ▸ ho)
  simp [isSpecial, h] at hs

theorem scan_operator (ho : String.ofList (c :: cs) ∈ operators)
    (hl : ∀ d ∈ left.head?, isOperatorPart d = false) :
    scan c (cs ++ left) = some (.symbol (.ofList (c :: cs)), left) := by
  have ⟨hc, ha⟩ := List.forall_mem_cons.mp <| isOperatorPart_of_mem ho
  rw [scan_of_not_isSpecial (isSpecial_of_isOperatorPart hc), takeWhile_append ha hl, dropWhile_append ha hl]
  exact if_pos ho

theorem isWordStart_of_isDigit (h : c.isDigit) : isWordStart c = false := by
  refine Bool.eq_false_iff.mpr fun hw => ?_
  simp only [isWordStart, Bool.or_eq_true, beq_iff_eq, decide_eq_true_eq] at hw
  rcases hw with (hw | rfl) | hw
  case inl.inl => exact Lexer.not_isDigit_of_isAlpha hw h
  case inl.inr => exact absurd h (by decide)
  case inr     =>
    have hd : 48 ≤ c.toNat ∧ c.toNat ≤ 57 := Char.isDigit_iff_toNat.mp h
    omega

theorem isNumeral_plain (h : Numeral.Plain cs) : isNumeral cs := by
  cases h
  case whole hw =>
    have hd := (Numeral.isDigits_iff.mp hw).2
    simp [isNumeral, List.takeWhile_eq_self_iff.mpr hd, List.dropWhile_eq_nil_iff.mpr hd, hw]
  case point hw hf =>
    have hd := (Numeral.isDigits_iff.mp hw).2
    have hp : '.'.isDigit = false := rfl
    simp [isNumeral, List.takeWhile_append_of_pos hd, List.dropWhile_append_of_pos hd, hp, hw, hf]

theorem isNumeralPart_of_plain (h : Numeral.Plain cs) : ∀ c ∈ cs, isNumeralPart c := by
  have hd : ∀ {c : Char}, c.isDigit → isNumeralPart c := fun h => by simp [isNumeralPart, isWordPart, h]
  cases h
  case whole hw => exact fun c hc => hd <| (Numeral.isDigits_iff.mp hw).2 c hc
  case point hw hf =>
    refine List.forall_mem_append.mpr ⟨fun c hc => ?_, List.forall_mem_cons.mpr ⟨rfl, fun c hc => ?_⟩⟩
    · exact hd <| (Numeral.isDigits_iff.mp hw).2 c hc
    · exact hd <| (Numeral.isDigits_iff.mp hf).2 c hc

theorem scan_numeral (h : Numeral.Plain (c :: cs)) (hl : Closes left) :
    scan c (cs ++ left) = some (.numeral (.ofList (c :: cs)), left) := by
  have ⟨_, _, he, hd⟩ := h.head_digit
  cases he
  have ha := (List.forall_mem_cons.mp (isNumeralPart_of_plain h)).2
  have hp := hl.head_false (p := isNumeralPart) rfl
  have hn : ['"', '\'', 'E', 'e'].all fun d => !d.isDigit := by decide
  have hq : c ∉ ['"', '\'', 'E', 'e'] := fun hm => by simpa [hd] using List.all_eq_true.mp hn c hm
  simp only [List.mem_cons, List.not_mem_nil, or_false, not_or] at hq
  simp [scan, hq, isWordStart_of_isDigit hd, hd, takeWhile_append ha hp, dropWhile_append ha hp,
    isNumeral_plain h]

namespace Spells

theorem word (hc : isWordStart c) (ha : ∀ d ∈ cs, isWordPart d) :
    Spells (c :: cs) [.word (.ofList ((c :: cs).map Char.toUpper))] :=
  single fun _ hl => scan_word hc ha hl

theorem keyword (text : String) (h : text ∈ keywords) : Spells text.toList [.word text] := by
  have hk : keywords.all fun text => text.toList.head?.any isWordStart &&
      text.toList.all fun c => isWordPart c && c.toUpper == c := by decide
  have hk := List.all_eq_true.mp hk text h
  simp only [Bool.and_eq_true, List.all_eq_true, beq_iff_eq] at hk
  have ⟨hc, ha⟩ := hk
  generalize he : text.toList = cs at *
  cases cs
  case nil => cases hc
  case cons c cs =>
    have hp := fun d hd => (ha d (List.mem_cons_of_mem c hd)).1
    have hu : (c :: cs).map Char.toUpper = c :: cs :=
      (List.map_congr_left fun d hd => (ha d hd).2).trans (List.map_id' _)
    have ht : .ofList ((c :: cs).map Char.toUpper) = text := by rw [hu, ← he, String.ofList_toList]
    exact ht ▸ word hc hp

theorem operator (h : text ∈ operators) : Spells text.toList [.symbol text] := by
  have hn : ∀ text ∈ operators, text.toList ≠ [] := by decide
  have ⟨c, cs, he⟩ := List.exists_cons_of_ne_nil (hn text h)
  have ht : .ofList (c :: cs) = text := by rw [← he, String.ofList_toList]
  rw [he]
  exact single fun _ hl => ht ▸ scan_operator (ht ▸ h) (hl.head_false rfl)

theorem numeral (h : Numeral.Plain cs) : Spells cs [.numeral (.ofList cs)] := by
  have ⟨_, _, he, _⟩ := h.head_digit
  subst he
  exact single fun _ hl => scan_numeral h hl

-- A minus is an operator.
theorem minus (h : Spells (c :: cs) xs) (hc : isOperatorPart c = false) :
    Spells ('-' :: c :: cs) (.symbol "-" :: xs) := by
  intro left hl
  have ho : ∀ d ∈ ((c :: cs) ++ left).head?, isOperatorPart d = false := by simpa using hc
  have hs : scan '-' ((c :: cs) ++ left) = some (.symbol "-", (c :: cs) ++ left) :=
    @scan_operator '-' [] _ (by decide) ho
  rw [List.cons_append, lexemes?_of_scan hs, h left hl]
  simp [Function.comp_def]

end Spells

end FilterQuery.Sql
