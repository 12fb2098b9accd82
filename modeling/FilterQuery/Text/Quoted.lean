namespace FilterQuery.Text

-- A backslash goes before every backslash and every double quote.
def escape : List Char → List Char
  | [] => []
  | '\\' :: cs => '\\' :: '\\' :: escape cs
  | '"' :: cs => '\\' :: '"' :: escape cs
  | c :: cs => c :: escape cs

-- What the character after a backslash stands for.
def unescapeChar : Char → Char
  | 'n' => '\n'
  | 't' => '\t'
  | 'r' => '\r'
  | c => c

-- A backslash and the character after it stand for one character; a last, lone one for itself.
def unescape : List Char → List Char
  | [] => []
  | '\\' :: c :: cs => unescapeChar c :: unescape cs
  | c :: cs => c :: unescape cs

@[elab_as_elim]
theorem escape_induction {motive : List Char → List Char → Prop} (nil : motive [] [])
    (backslash : ∀ cs, motive cs (escape cs) → motive ('\\' :: cs) ('\\' :: '\\' :: escape cs))
    (quote : ∀ cs, motive cs (escape cs) → motive ('"' :: cs) ('\\' :: '"' :: escape cs))
    (plain : ∀ c cs, c ≠ '\\' → c ≠ '"' → motive cs (escape cs) → motive (c :: cs) (c :: escape cs))
    (cs : List Char) : motive cs (escape cs) := by
  fun_induction escape cs
  · exact nil
  · exact backslash _ ‹_›
  · exact quote _ ‹_›
  · exact plain _ _ ‹_› ‹_› ‹_›

theorem unescape_plain (hb : c ≠ '\\') (cs : List Char) : unescape (c :: cs) = c :: unescape cs := by
  rw [unescape]
  simp_all

theorem unescape_escape (cs : List Char) : unescape (escape cs) = cs := by
  induction cs using escape_induction
  case nil             => rfl
  case backslash ih    => simp [unescape, unescapeChar, ih]
  case quote ih        => simp [unescape, unescapeChar, ih]
  case plain hb _ ih   => rw [unescape_plain hb, ih]

def quote (cs : List Char) : List Char :=
  '"' :: escape cs ++ ['"']

-- The text between the quotes; a text that is not between two of them is taken as it is.
def stripQuotes : List Char → List Char
  | '"' :: cs => if cs.getLast? = some '"' then cs.dropLast else '"' :: cs
  | cs => cs

def unquote (cs : List Char) : List Char :=
  unescape (stripQuotes cs)

@[simp]
theorem stripQuotes_quote (cs : List Char) : stripQuotes (quote cs) = escape cs := by
  simp [stripQuotes, quote]

theorem unquote_quote (cs : List Char) : unquote (quote cs) = cs := by
  simp [unquote, unescape_escape]

end FilterQuery.Text
