import FilterQuery.Proofs.Sql.Grouping

namespace FilterQuery.Sql

-- The character that is meant by one behind a backslash. The codes of characters, which begin with an octal digit
-- or with a letter of their own, are not read.
def unescape? (c : Char) : Option Char :=
  if c ∈ "01234567xuU".toList then none
  else match c with
    | 'b' => some '\x08'
    | 'f' => some '\x0c'
    | 'n' => some '\n'
    | 'r' => some '\r'
    | 't' => some '\t'
    | c => some c

-- The text that is meant by the inside of a string.
def decode (escapes : Bool) : List Char → Option (List Char)
  | [] => some []
  | '\'' :: '\'' :: cs => (decode escapes cs).map ('\'' :: ·)
  | '\\' :: c :: cs =>
    if escapes then (unescape? c).bind fun d => (decode escapes cs).map (d :: ·)
    else (decode escapes (c :: cs)).map ('\\' :: ·)
  | c :: cs => (decode escapes cs).map (c :: ·)

-- What is written between the quotes, and whether escapes have a meaning there.
def written (s : String) : Bool × List Char :=
  let body := s.toList.flatMap escapeChar
  (body.contains '\\', body)

-- The escapes of NUL and of U+001A mean something else to PostgreSQL.
def Denotes (inside : Bool × List Char) (text : String) : Prop :=
  '\x00' ∉ text.toList → '\x1a' ∉ text.toList → decode inside.1 inside.2 = some text.toList

theorem unescape?_of_escapeChar (h : escapeChar c = ['\\', d]) (h₀ : c ≠ '\x00') (hz : c ≠ '\x1a') :
    unescape? d = some c := by
  unfold escapeChar at h
  split at h <;> first | contradiction | (cases h <;> decide)

theorem decode_plain (hc : c ≠ '\\') (hq : c ≠ '\'') (cs : List Char) :
    decode escapes (c :: cs) = (decode escapes cs).map (c :: ·) := by
  rw [decode]
  all_goals simp [hc, hq]

theorem decode_escaped {cs : List Char} (h₀ : '\x00' ∉ cs) (hz : '\x1a' ∉ cs) :
    decode true (cs.flatMap escapeChar) = some cs := by
  induction cs
  case nil => rfl
  case cons c cs ih =>
    rw [List.mem_cons, not_or] at h₀ hz
    have ih := ih h₀.2 hz.2
    rcases escapeChar_cases c with ⟨d, hd⟩ | ⟨hd, hb, hq⟩
    case inl =>
      have hu := unescape?_of_escapeChar hd (Ne.symm h₀.1) (Ne.symm hz.1)
      simp [hd, decode, hu, ih]
    case inr => simp [hd, decode_plain hb hq, ih]

theorem decode_unescaped {cs : List Char} (h : '\\' ∉ cs.flatMap escapeChar) :
    decode false (cs.flatMap escapeChar) = some cs := by
  induction cs
  case nil => rfl
  case cons c cs ih =>
    rw [List.flatMap_cons, List.mem_append, not_or] at h
    rcases escapeChar_cases c with ⟨d, hd⟩ | ⟨hd, hb, hq⟩
    case inl => simp [hd] at h
    case inr => simp [hd, decode_plain hb hq, ih h.2]

theorem denotes_written (s : String) : Denotes (written s) s := by
  intro h₀ hz
  simp only [written]
  cases hb : (s.toList.flatMap escapeChar).contains '\\'
  case false => exact decode_unescaped <| by simpa using hb
  case true  => exact decode_escaped h₀ hz

-- U+001A comes back as another character.
example : decode true (escapeChar '\x1a') = some ['z'] := by decide

def Lexeme.name? : Lexeme → Option String
  | name text => some text
  | _ => none

def Lexeme.string? : Lexeme → Option (Bool × List Char)
  | string escapes body => some (escapes, body)
  | _ => none

section

variable {f : Lexeme → Option α} (hs : ∀ text, f (.symbol text) = none)

include hs

theorem filterMap_parenthesized (xs : List Lexeme) : (parenthesized xs).filterMap f = xs.filterMap f := by
  simp [parenthesized, hs]

theorem filterMap_wrapLexemes (bare : Bool) (xs : List Lexeme) :
    (Predicate.wrapLexemes bare xs).filterMap f = xs.filterMap f := by
  cases bare
  case false => exact filterMap_parenthesized hs xs
  case true  => rfl

theorem filterMap_commaSeparated (values : List Constant) :
    (commaSeparated values).filterMap f = values.flatMap fun value => value.lexemes.filterMap f := by
  induction values
  case nil => rfl
  case cons value values ih =>
    cases values
    case nil  => simp [commaSeparated]
    case cons =>
      simp only [commaSeparated, List.map_cons, List.intercalate_cons_cons] at ih ⊢
      simp [hs, ih]

variable (hw : ∀ text, f (.word text) = none)

include hw

theorem filterMap_binary (p q : Predicate) (op : Connective) :
    (Predicate.binary p op q).lexemes.filterMap f = p.lexemes.filterMap f ++ q.lexemes.filterMap f := by
  simp only [Predicate.lexemes, List.filterMap_append, List.filterMap_cons, hw, filterMap_wrapLexemes hs]

theorem filterMap_not (p : Predicate) : (Predicate.not p).lexemes.filterMap f = p.lexemes.filterMap f := by
  simp only [Predicate.lexemes, List.filterMap_cons, hw, filterMap_wrapLexemes hs]

end

-- The fields that a condition names, from left to right. Null is asked for apart from the other values.
def fields : Expr → List String
  | .condition left .. => [left.field]
  | .membership left values =>
    (if ∃ v ∈ values, v.kind ≠ .null then [left.field] else []) ++
      if ∃ v ∈ values, v.kind = .null then [left.field] else []
  | .binary left _ right => fields left ++ fields right
  | .not e | .paren e => fields e
  | .boolean _ => []

def valueTexts (v : Value) : List String :=
  if v.kind = .string then [v.text] else []

-- The texts that a condition holds, from left to right: strings, and patterns with their escape character.
def texts : Expr → List String
  | .condition _ .contains right => [containsPattern right.text, "\\"]
  | .condition _ _ right => valueTexts right
  | .membership _ values => values.flatMap valueTexts
  | .binary left _ right => texts left ++ texts right
  | .not e | .paren e => texts e
  | .boolean _ => []

theorem names_constant (value : Constant) : value.lexemes.filterMap Lexeme.name? = [] := by
  cases value
  case boolean            => rfl
  case number negative _  => cases negative <;> rfl
  case string             => rfl

theorem names_commaSeparated (values : List Constant) :
    (commaSeparated values).filterMap Lexeme.name? = [] := by
  rw [filterMap_commaSeparated fun _ => rfl]
  simp [names_constant]

theorem strings_ofNumeral (cs : List Char) : (Constant.ofNumeral cs).lexemes.filterMap Lexeme.string? = [] := by
  unfold Constant.ofNumeral
  split <;> rfl

theorem strings_literal (h : literal v = .ok l) :
    l.constant.lexemes.filterMap Lexeme.string? = (valueTexts v).map written := by
  obtain ⟨text, kind⟩ := v
  cases kind <;> simp only [literal, reduceCtorEq, Except.ok.injEq] at h
  case boolean => subst h; rfl
  case string  => subst h; rfl
  case number  =>
    split at h <;> cases h
    all_goals exact strings_ofNumeral _

theorem strings_literals (h : Literals values ls) :
    (commaSeparated (ls.map Literal.constant)).filterMap Lexeme.string? =
      (values.flatMap valueTexts).map written := by
  rw [filterMap_commaSeparated fun _ => rfl]
  induction h
  case nil           => rfl
  case cons hl _ ih  => simp [strings_literal hl, ih]

theorem flatMap_filter_null {f : Value → List α} (hf : ∀ v, v.kind = .null → f v = []) (values : List Value) :
    (values.filter (·.kind ≠ .null)).flatMap f = values.flatMap f := by
  induction values
  case nil => rfl
  case cons v values ih =>
    by_cases hv : v.kind = .null
    case pos => simpa [hv, hf v hv] using ih
    case neg => simpa [hv] using ih

theorem valueTexts_of_null (v : Value) (h : v.kind = .null) : valueTexts v = [] := by
  simp [valueTexts, h]

namespace Lowers

theorem names (h : Lowers table e p) : p.lexemes.filterMap Lexeme.name? = (fields e).map table.column := by
  have hs : ∀ text, (Lexeme.symbol text).name? = none := fun _ => rfl
  have hw : ∀ text, (Lexeme.word text).name? = none := fun _ => rfl
  induction h
  case compare =>
    simp only [Predicate.lexemes, List.filterMap_cons, Lexeme.name?, names_constant]
    rfl
  case contains     => rfl
  case isNull       => rfl
  case isNotNull    => rfl
  case amongNothing => rfl
  case amongNull values field hv hn =>
    obtain ⟨v, hm⟩ := List.exists_mem_of_ne_nil _ hv
    have hnull : ∃ v ∈ values, v.kind = .null := ⟨v, hm, hn v hm⟩
    have hother : ¬∃ v ∈ values, v.kind ≠ .null := by simpa using hn
    simp only [fields, if_pos hnull, if_neg hother]
    rfl
  case among values ls field hv hn hl =>
    obtain ⟨v, hm⟩ := List.exists_mem_of_ne_nil _ hv
    have hnull : ¬∃ v ∈ values, v.kind = .null := by simpa using hn
    have hother : ∃ v ∈ values, v.kind ≠ .null := ⟨v, hm, hn v hm⟩
    simp only [fields, if_neg hnull, if_pos hother, Predicate.lexemes, List.filterMap_cons, Lexeme.name?,
      filterMap_parenthesized hs, names_commaSeparated]
    rfl
  case amongOrNull values ls field hn hl hne =>
    obtain ⟨v, hm⟩ := List.exists_mem_of_ne_nil _ (hne ∘ hl.eq_nil_iff.mp)
    obtain ⟨hm, hk⟩ := List.mem_filter.mp hm
    have hother : ∃ v ∈ values, v.kind ≠ .null := ⟨v, hm, of_decide_eq_true hk⟩
    rw [filterMap_binary hs hw]
    simp only [fields, if_pos hn, if_pos hother, Predicate.lexemes, List.filterMap_cons, Lexeme.name?,
      filterMap_parenthesized hs, names_commaSeparated]
    rfl
  case binary ihl ihr => rw [filterMap_binary hs hw, ihl, ihr, fields, List.map_append]
  case not ih         => rw [filterMap_not hs hw, ih, fields]
  case paren ih       => exact ih
  case boolean        => rfl

theorem strings (h : Lowers table e p) : p.lexemes.filterMap Lexeme.string? = (texts e).map written := by
  have hs : ∀ text, (Lexeme.symbol text).string? = none := fun _ => rfl
  have hw : ∀ text, (Lexeme.word text).string? = none := fun _ => rfl
  induction h
  case compare op relation right l field hk hr hl =>
    have ht : texts (.condition { field } op right) = valueTexts right := by
      cases op <;> first | rfl | cases hr
    simp only [Predicate.lexemes, List.filterMap_cons, Lexeme.string?, strings_literal hl, ht]
  case contains => rfl
  case isNull hk | isNotNull hk => simp [texts, valueTexts, hk, Predicate.lexemes, Lexeme.string?]
  case amongNothing => rfl
  case amongNull values field hv hn =>
    have ht : values.flatMap valueTexts = [] :=
      List.flatMap_eq_nil_iff.mpr fun v hm => valueTexts_of_null v (hn v hm)
    simp [texts, ht, Predicate.lexemes, Lexeme.string?]
  case among hl =>
    simp only [Predicate.lexemes, List.filterMap_cons, Lexeme.string?, filterMap_parenthesized hs,
      strings_literals hl, texts]
  case amongOrNull hl hne =>
    rw [filterMap_binary hs hw]
    simp only [Predicate.lexemes, List.filterMap_cons, Lexeme.string?, filterMap_parenthesized hs,
      strings_literals hl, flatMap_filter_null valueTexts_of_null, texts]
    exact List.append_nil _
  case binary ihl ihr => rw [filterMap_binary hs hw, ihl, ihr, texts, List.map_append]
  case not ih         => rw [filterMap_not hs hw, ih, texts]
  case paren ih       => exact ih
  case boolean        => rfl

end Lowers

end FilterQuery.Sql
