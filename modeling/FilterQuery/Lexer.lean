import FilterQuery.ParseError
import FilterQuery.Text.Size

namespace FilterQuery
namespace Lexer

-- The characters that may stand between two lexemes.
def isGap (c : Char) : Bool :=
  c == ' ' || c == '\t' || c == '\n' || c == '\r'

def isWordStart (c : Char) : Bool :=
  c.isAlpha || c == '_'

def isWordChar (c : Char) : Bool :=
  c.isAlphanum || c == '_'

-- The characters that may follow a backslash in a string.
def isEscape (c : Char) : Bool :=
  c == '"' || c == '\\' || c == 'n' || c == 't' || c == 'r'

-- The words that are not identifiers.
def keywords : List (String × Token.Kind) :=
  [("AND", .connective .and), ("OR", .connective .or), ("NOT", .not), ("IN", .membership),
   ("is", .comparison .eq), ("true", .boolean true), ("false", .boolean false), ("null", .null)]

def keyword? (word : String) : Option Token.Kind :=
  keywords.lookup word

-- The first lexeme of a text and what follows it, or why there is none: then `culprit` is the part of the
-- text at fault, and `skipped` the part before it.
inductive Scan
  | lexeme (kind : Token.Kind) (text rest : List Char)
  | fault (cause : ParseError.Cause) (skipped culprit : List Char)
  deriving DecidableEq

-- Digits, and a point with digits after it if there is one.
def numberText (cs : List Char) : List Char :=
  let whole := cs.takeWhile Char.isDigit
  match cs.dropWhile Char.isDigit with
  | '.' :: c :: rest =>
    if c.isDigit then whole ++ '.' :: (c :: rest).takeWhile Char.isDigit else whole
  | _ => whole

def numberRest (cs : List Char) : List Char :=
  match cs.dropWhile Char.isDigit with
  | '.' :: c :: rest =>
    if c.isDigit then (c :: rest).dropWhile Char.isDigit else '.' :: c :: rest
  | rest => rest

-- The digits alone, or with a fraction behind them.
@[elab_as_elim]
theorem number_cases {motive : List Char → List Char → List Char → Prop}
    (fraction : ∀ cs c rest, cs.dropWhile Char.isDigit = '.' :: c :: rest → c.isDigit →
      motive cs (cs.takeWhile Char.isDigit ++ '.' :: (c :: rest).takeWhile Char.isDigit)
        ((c :: rest).dropWhile Char.isDigit))
    (whole : ∀ cs, (∀ c rest, cs.dropWhile Char.isDigit = '.' :: c :: rest → ¬c.isDigit) →
      motive cs (cs.takeWhile Char.isDigit) (cs.dropWhile Char.isDigit))
    (cs : List Char) : motive cs (numberText cs) (numberRest cs) := by
  by_cases h : ∃ c rest, cs.dropWhile Char.isDigit = '.' :: c :: rest ∧ c.isDigit
  case pos =>
    obtain ⟨c, rest, hl, hc⟩ := h
    simpa [numberText, numberRest, hl, hc] using fraction cs c rest hl hc
  case neg =>
    have hn (c rest) (hl : cs.dropWhile Char.isDigit = '.' :: c :: rest) : ¬c.isDigit :=
      fun hc => h ⟨c, rest, hl, hc⟩
    have ht : numberText cs = cs.takeWhile Char.isDigit := by
      unfold numberText
      split <;> simp_all
    have hr : numberRest cs = cs.dropWhile Char.isDigit := by
      unfold numberRest
      split <;> simp_all
    rw [ht, hr]
    exact whole cs hn

theorem numberText_append_numberRest (cs : List Char) : numberText cs ++ numberRest cs = cs := by
  induction cs using number_cases
  case fraction cs c rest hl _ =>
    rw [List.append_assoc, List.cons_append, List.takeWhile_append_dropWhile, ← hl, List.takeWhile_append_dropWhile]
  case whole => exact List.takeWhile_append_dropWhile

theorem takeWhile_prefix_numberText (cs : List Char) : cs.takeWhile Char.isDigit <+: numberText cs := by
  induction cs using number_cases
  case fraction => exact List.prefix_append ..
  case whole    => exact List.prefix_rfl

theorem numberText_ne_nil {c : Char} (h : c.isDigit) (cs : List Char) : numberText (c :: cs) ≠ [] := by
  have ⟨more, hm⟩ := takeWhile_prefix_numberText (c :: cs)
  rw [← hm, List.takeWhile_cons_of_pos h]
  exact nofun

-- What follows the opening quote: the inside of the string up to its closing quote, or its first
-- defect.
inductive StringScan
  | closed (inside rest : List Char)
  | unterminated
  | badEscape (before : List Char) (c : Char)
  deriving DecidableEq

def StringScan.prepend (cs : List Char) : StringScan → StringScan
  | closed inside rest => closed (cs ++ inside) rest
  | unterminated => unterminated
  | badEscape before c => badEscape (cs ++ before) c

def scanString : List Char → StringScan
  | [] => .unterminated
  | ['\\'] => .unterminated
  | '\\' :: c :: cs => if isEscape c then (scanString cs).prepend ['\\', c] else .badEscape [] c
  | '"' :: cs => .closed [] cs
  | c :: cs => (scanString cs).prepend [c]

theorem StringScan.prepend_eq_closed {s : StringScan} {cs inside rest : List Char}
    (h : s.prepend cs = closed inside rest) :
    ∃ inside', s = closed inside' rest ∧ inside = cs ++ inside' := by
  cases s <;> simp_all [prepend]

-- The recursion of `scanString`, by what stands at the front.
@[elab_as_elim]
theorem scanString_induction {motive : List Char → StringScan → Prop}
    (nil       : motive [] .unterminated)
    (backslash : motive ['\\'] .unterminated)
    (escape    : ∀ c cs, isEscape c → motive cs (scanString cs) →
      motive ('\\' :: c :: cs) ((scanString cs).prepend ['\\', c]))
    (badEscape : ∀ c cs, ¬isEscape c → motive ('\\' :: c :: cs) (.badEscape [] c))
    (quote     : ∀ cs, motive ('"' :: cs) (.closed [] cs))
    (plain     : ∀ c cs, c ≠ '\\' → c ≠ '"' → motive cs (scanString cs) →
      motive (c :: cs) ((scanString cs).prepend [c]))
    (cs : List Char) : motive cs (scanString cs) := by
  fun_induction scanString cs
  · exact nil
  · exact backslash
  · exact escape _ _ ‹_› ‹_›
  · exact badEscape _ _ ‹_›
  · exact quote _
  · refine plain _ _ ?_ ‹_› ‹_›
    rintro rfl
    cases ‹List Char› <;> simp_all

theorem scanString_append {cs inside rest : List Char} (h : scanString cs = .closed inside rest) :
    inside ++ '"' :: rest = cs := by
  induction cs using scanString_induction generalizing inside
  case nil       => cases h
  case backslash => cases h
  case escape ih =>
    obtain ⟨inside', hs, rfl⟩ := StringScan.prepend_eq_closed h
    simp [ih hs]
  case badEscape => cases h
  case quote     => cases h; rfl
  case plain ih  =>
    obtain ⟨inside', hs, rfl⟩ := StringScan.prepend_eq_closed h
    simp [ih hs]

-- An operator that is one character longer if `=` follows.
def scanPair (c : Char) (single double : Token.Kind) : List Char → Scan
  | '=' :: cs => .lexeme double [c, '='] cs
  | cs => .lexeme single [c] cs

-- An operator that must be followed by `=`.
def scanEquals (c : Char) (kind : Token.Kind) : List Char → Scan
  | '=' :: cs => .lexeme kind [c, '='] cs
  | _ => .fault (.incompleteOperator c) [] [c]

def scanNumber (sign cs : List Char) : Scan :=
  let text := sign ++ numberText cs
  .lexeme (.number (.ofList text)) text (numberRest cs)

-- The lexeme of a word: a keyword, a name with `()` right behind it, or a name.
def wordLexeme (word rest : List Char) : Scan :=
  match keyword? (.ofList word) with
  | some kind => .lexeme kind word rest
  | none =>
    match rest with
    | '(' :: ')' :: rest =>
      let call := word ++ ['(', ')']
      .lexeme (.function (.ofList call)) call rest
    | rest => .lexeme (.identifier (.ofList word)) word rest

def scanWord (cs : List Char) : Scan :=
  wordLexeme (cs.takeWhile isWordChar) (cs.dropWhile isWordChar)

def scanQuoted (cs : List Char) : Scan :=
  match scanString cs with
  | .closed inside rest =>
    let raw := '"' :: inside ++ ['"']
    .lexeme (.string (.ofList raw)) raw rest
  | .unterminated => .fault .unterminatedString [] ('"' :: cs)
  | .badEscape before c => .fault (.invalidEscape c) ('"' :: before) ['\\', c]

-- Reads the lexeme that starts with `c`.
def scan (c : Char) (cs : List Char) : Scan :=
  match c with
  | '=' => .lexeme (.comparison .eq) ['='] cs
  | '(' => .lexeme .openParen ['('] cs
  | ')' => .lexeme .closeParen [')'] cs
  | '[' => .lexeme .openBracket ['['] cs
  | ']' => .lexeme .closeBracket [']'] cs
  | ',' => .lexeme .comma [','] cs
  | '<' => scanPair '<' (.comparison .lt) (.comparison .le) cs
  | '>' => scanPair '>' (.comparison .gt) (.comparison .ge) cs
  | '!' => scanEquals '!' (.comparison .neq) cs
  | '~' => scanEquals '~' (.comparison .contains) cs
  | '-' => if (cs.headD ' ').isDigit then scanNumber ['-'] cs else .fault .missingDigit [] ['-']
  | '"' => scanQuoted cs
  | c =>
    if c.isDigit then scanNumber [] (c :: cs)
    else if isWordStart c then scanWord (c :: cs)
    else .fault (.unexpectedChar c) [] [c]

theorem scanPair_append (h : scanPair c single double cs = .lexeme kind text rest) :
    text ++ rest = c :: cs ∧ text ≠ [] := by
  unfold scanPair at h
  split at h <;> cases h <;> simp

theorem scanEquals_append (h : scanEquals c k cs = .lexeme kind text rest) :
    text ++ rest = c :: cs ∧ text ≠ [] := by
  unfold scanEquals at h
  split at h <;> cases h
  simp

theorem scanNumber_append (h : scanNumber sign cs = .lexeme kind text rest) :
    text ++ rest = sign ++ cs := by
  cases h
  simp [numberText_append_numberRest]

-- The cases of `wordLexeme`.
@[elab_as_elim]
theorem wordLexeme_cases {motive : List Char → List Char → Scan → Prop}
    (keyword : ∀ word kind rest, keyword? (.ofList word) = some kind →
      motive word rest (.lexeme kind word rest))
    (call : ∀ word rest, keyword? (.ofList word) = none →
      motive word ('(' :: ')' :: rest)
        (.lexeme (.function (.ofList (word ++ ['(', ')']))) (word ++ ['(', ')']) rest))
    (name : ∀ word rest, keyword? (.ofList word) = none → (∀ more, rest ≠ '(' :: ')' :: more) →
      motive word rest (.lexeme (.identifier (.ofList word)) word rest))
    (word rest : List Char) : motive word rest (wordLexeme word rest) := by
  unfold wordLexeme
  split
  · exact keyword _ _ _ ‹_›
  · split
    · exact call _ _ ‹_›
    · exact name _ _ ‹_› ‹_›

theorem wordLexeme_append (h : wordLexeme word after = .lexeme kind text rest) :
    text ++ rest = word ++ after ∧ (word ≠ [] → text ≠ []) := by
  induction word, after using wordLexeme_cases <;> cases h <;> simp

theorem scanWord_append (h : scanWord cs = .lexeme kind text rest) : text ++ rest = cs :=
  (wordLexeme_append h).1.trans List.takeWhile_append_dropWhile

theorem scanQuoted_append (h : scanQuoted cs = .lexeme kind text rest) :
    text ++ rest = '"' :: cs ∧ text ≠ [] := by
  unfold scanQuoted at h
  cases hs : scanString cs <;> rw [hs] at h <;> cases h
  case closed => simp [← scanString_append hs]

theorem isWordChar_of_isWordStart {c : Char} (h : isWordStart c) : isWordChar c := by
  simp_all [isWordStart, isWordChar, Char.isAlphanum, or_assoc]
  exact h.elim .inl (.inr ∘ .inr)

-- The characters that a lexeme can start with, besides letters, digits and `_`.
def marks : List Char := ['=', '(', ')', '[', ']', ',', '<', '>', '!', '~', '-', '"']

-- The cases of `scan`, by the first character.
@[elab_as_elim]
theorem scan_cases {motive : Char → List Char → Scan → Prop}
    (equals       : ∀ cs, motive '=' cs (.lexeme (.comparison .eq) ['='] cs))
    (openParen    : ∀ cs, motive '(' cs (.lexeme .openParen ['('] cs))
    (closeParen   : ∀ cs, motive ')' cs (.lexeme .closeParen [')'] cs))
    (openBracket  : ∀ cs, motive '[' cs (.lexeme .openBracket ['['] cs))
    (closeBracket : ∀ cs, motive ']' cs (.lexeme .closeBracket [']'] cs))
    (comma        : ∀ cs, motive ',' cs (.lexeme .comma [','] cs))
    (less         : ∀ cs, motive '<' cs (scanPair '<' (.comparison .lt) (.comparison .le) cs))
    (greater      : ∀ cs, motive '>' cs (scanPair '>' (.comparison .gt) (.comparison .ge) cs))
    (exclamation  : ∀ cs, motive '!' cs (scanEquals '!' (.comparison .neq) cs))
    (tilde        : ∀ cs, motive '~' cs (scanEquals '~' (.comparison .contains) cs))
    (minus        : ∀ cs, (cs.headD ' ').isDigit → motive '-' cs (scanNumber ['-'] cs))
    (loneMinus    : ∀ cs, ¬(cs.headD ' ').isDigit → motive '-' cs (.fault .missingDigit [] ['-']))
    (quote        : ∀ cs, motive '"' cs (scanQuoted cs))
    (digit        : ∀ c cs, c.isDigit → motive c cs (scanNumber [] (c :: cs)))
    (word         : ∀ c cs, ¬c.isDigit → isWordStart c → motive c cs (scanWord (c :: cs)))
    (unexpected   : ∀ c cs, c ∉ marks → ¬c.isDigit → ¬isWordStart c →
      motive c cs (.fault (.unexpectedChar c) [] [c]))
    (c : Char) (cs : List Char) : motive c cs (scan c cs) := by
  unfold scan
  split
  · exact equals _
  · exact openParen _
  · exact closeParen _
  · exact openBracket _
  · exact closeBracket _
  · exact comma _
  · exact less _
  · exact greater _
  · exact exclamation _
  · exact tilde _
  · split
    · exact minus _ ‹_›
    · exact loneMinus _ ‹_›
  · exact quote _
  · split
    · exact digit _ _ ‹_›
    · split
      · exact word _ _ ‹_› ‹_›
      · exact unexpected _ _ (by simp_all [marks]) ‹_› ‹_›

-- A lexeme and what follows it make up the text.
theorem scan_append (h : scan c cs = .lexeme kind text rest) : text ++ rest = c :: cs := by
  induction c, cs using scan_cases
  case less        => exact (scanPair_append h).1
  case greater     => exact (scanPair_append h).1
  case exclamation => exact (scanEquals_append h).1
  case tilde       => exact (scanEquals_append h).1
  case minus       => exact scanNumber_append h
  case quote       => exact (scanQuoted_append h).1
  case digit       => exact scanNumber_append h
  case word        => exact scanWord_append h
  all_goals cases h <;> rfl

-- No lexeme is empty.
theorem scan_text_ne_nil (h : scan c cs = .lexeme kind text rest) : text ≠ [] := by
  induction c, cs using scan_cases
  case less        => exact (scanPair_append h).2
  case greater     => exact (scanPair_append h).2
  case exclamation => exact (scanEquals_append h).2
  case tilde       => exact (scanEquals_append h).2
  case minus       => cases h; simp
  case quote       => exact (scanQuoted_append h).2
  case digit hd    => cases h; exact numberText_ne_nil hd _
  case word hw     => exact (wordLexeme_append h).2 (by simp [isWordChar_of_isWordStart hw])
  all_goals cases h <;> simp

theorem scan_rest_length (h : scan c cs = .lexeme kind text rest) : rest.length < cs.length + 1 := by
  have ht := congrArg List.length (scan_append h)
  have hp := List.length_pos_iff.2 (scan_text_ne_nil h)
  simp at ht
  omega

end Lexer

-- A place in a text: what is left of it, and the bytes before that.
structure Lexer where
  rest : List Char
  offset : Nat := 0
  finished : Bool := false
  deriving DecidableEq

namespace Lexer

def ofText (text : String) : Lexer := { rest := text.toList }

-- The next token and the place after it. The end of the text is a token too; after it, and after
-- an error, there is none.
def next (l : Lexer) : Option (Except ParseError Token) × Lexer :=
  if l.finished then (none, l)
  else
    let start := l.offset + Text.size (l.rest.takeWhile isGap)
    match l.rest.dropWhile isGap with
    | [] => (some (.ok (.endAt start)), ⟨[], start, true⟩)
    | c :: cs =>
      match scan c cs with
      | .lexeme kind text rest =>
        let stop := start + Text.size text
        (some (.ok ⟨kind, start, stop⟩), ⟨rest, stop, false⟩)
      | .fault cause skipped culprit =>
        let start := start + Text.size skipped
        let stop := start + Text.size culprit
        (some (.error ⟨cause, start, stop⟩),
          ⟨(c :: cs).drop (skipped.length + culprit.length), stop, true⟩)

-- How much is left to do: nothing once finished.
def work (l : Lexer) : Nat :=
  if l.finished then 0 else l.rest.length + 1

theorem work_next_lt {l : Lexer} (h : l.next.1 = some r) : l.next.2.work < l.work := by
  unfold next at h ⊢
  split
  · simp_all
  · split
    · simp_all [work]
    · rename_i c cs hd
      have hle := (List.dropWhile_sublist isGap (l := l.rest)).length_le
      rw [hd, List.length_cons] at hle
      split
      · rename_i hs
        have := scan_rest_length hs
        simp_all [work]
        omega
      · simp_all [work]

-- The tokens up to the end of the text, or the first error.
def tokens (l : Lexer) : Except ParseError (List Token) :=
  match _h : l.next.1 with
  | none => .ok []
  | some (.error e) => .error e
  | some (.ok t) => l.next.2.tokens.map (t :: ·)
termination_by l.work
decreasing_by exact work_next_lt _h

end Lexer

-- The tokens of a text, the last of them its end.
def tokenize (text : String) : Except ParseError (List Token) :=
  (Lexer.ofText text).tokens

end FilterQuery
