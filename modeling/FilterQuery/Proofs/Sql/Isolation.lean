import FilterQuery.Proofs.Sql.Contents

namespace FilterQuery

-- Names and values are blanked out, but for the kinds of the values.
def Value.shape (v : Value) : Value :=
  match v.kind with
  | .null => .null
  | .boolean => .boolean true
  | .number => .number "0"
  | .string => .string ""
  | .function => .function ""

def Accessor.shape (a : Accessor) : Accessor :=
  { a with field := "" }

def Expr.shape : Expr → Expr
  | condition left op right => condition left.shape op right.shape
  | membership left values => membership left.shape (values.map Value.shape)
  | binary left op right => binary left.shape op right.shape
  | not e => not e.shape
  | paren e => paren e.shape
  | boolean _ => boolean true

@[simp]
theorem Value.kind_shape (v : Value) : v.shape.kind = v.kind := by
  simp only [shape]
  split <;> exact Eq.symm ‹_›

namespace Sql

-- What is left of a lexeme without its content. TRUE and FALSE are the content of a boolean.
def Lexeme.shape : Lexeme → Lexeme
  | word text => word (if text = "FALSE" then "TRUE" else text)
  | name _ => name ""
  | string .. => string false []
  | numeral _ => numeral "0"
  | symbol text => symbol text

def Lexeme.isNumeral : Lexeme → Bool
  | numeral _ => true
  | _ => false

-- A minus before a numeral is a part of the number.
def shapes : List Lexeme → List Lexeme
  | [] => []
  | .symbol "-" :: .numeral _ :: xs => .numeral "0" :: shapes xs
  | x :: xs => x.shape :: shapes xs

def Literal.shape : Literal → Literal
  | boolean _ => boolean true
  | integer _ | real _ => integer 0
  | string _ => string ""

namespace Predicate

def shape : Predicate → Predicate
  | compare _ relation value => compare "" relation value.shape
  | like .. => like "" ""
  | isNull _ => isNull ""
  | isNotNull _ => isNotNull ""
  | among _ values => among "" (values.map Literal.shape)
  | constant _ => constant true
  | binary left op right => binary left.shape op right.shape
  | not p => not p.shape

theorem isSimple_shape (p : Predicate) : p.shape.isSimple = p.isSimple := by
  cases p <;> rfl

theorem isJoinedBy_shape (op : Connective) (p : Predicate) : p.shape.isJoinedBy op = p.isJoinedBy op := by
  cases p <;> rfl

end Predicate

theorem shapes_cons (hx : x ≠ .symbol "-") (xs : List Lexeme) : shapes (x :: xs) = x.shape :: shapes xs := by
  rw [shapes]
  exact fun _ _ he => absurd he hx

@[elab_as_elim]
theorem shapes_induction {motive : List Lexeme → List Lexeme → Prop} (nil : motive [] [])
    (negative : ∀ text xs, motive xs (shapes xs) →
      motive (.symbol "-" :: .numeral text :: xs) (.numeral "0" :: shapes xs))
    (other : ∀ x xs, (∀ text ys, x = .symbol "-" → xs ≠ .numeral text :: ys) → motive xs (shapes xs) →
      motive (x :: xs) (x.shape :: shapes xs))
    (xs : List Lexeme) : motive xs (shapes xs) := by
  fun_induction shapes xs
  · exact nil
  · exact negative _ _ ‹_›
  · exact other _ _ ‹_› ‹_›

-- Only a numeral joins with what stands before it.
theorem shapes_append (hy : y.isNumeral = false) : shapes (xs ++ y :: ys) = shapes xs ++ shapes (y :: ys) := by
  induction xs using shapes_induction
  case nil         => rfl
  case negative ih => simp [shapes, ih]
  case other x xs hx ih =>
    rw [List.cons_append, shapes, ih, List.cons_append]
    rintro text zs rfl hz
    cases xs
    case nil    => cases hz; cases hy
    case cons z => exact hx text _ rfl (congrArg (· :: _) (List.cons.inj hz).1)

theorem shapes_ofNumeral (cs : List Char) : shapes (Constant.ofNumeral cs).lexemes = [.numeral "0"] := by
  unfold Constant.ofNumeral
  split <;> rfl

namespace Literal

theorem shapes_shape (l : Literal) : shapes l.shape.constant.lexemes = shapes l.constant.lexemes := by
  have hn : ∀ n, shapes (integer n).constant.lexemes = [.numeral "0"] := fun _ => shapes_ofNumeral _
  cases l
  case boolean b => cases b <;> rfl
  case integer n => exact (hn 0).trans (hn n).symm
  case real x    => exact (hn 0).trans (shapes_ofNumeral _).symm
  case string    => rfl

@[simp]
theorem shape_shape (l : Literal) : l.shape.shape = l.shape := by
  cases l <;> rfl

end Literal

theorem shapes_commaSeparated (ls : List Literal) :
    shapes (commaSeparated ((ls.map Literal.shape).map Literal.constant)) =
      shapes (commaSeparated (ls.map Literal.constant)) := by
  induction ls
  case nil => rfl
  case cons l ls ih =>
    cases ls
    case nil  => simpa [commaSeparated] using l.shapes_shape
    case cons =>
      have hc : .symbol "," ≠ Lexeme.symbol "-" := by decide
      simp only [commaSeparated, List.map_cons, List.intercalate_cons_cons, List.append_assoc,
        List.singleton_append] at ih ⊢
      rw [shapes_append rfl, shapes_append rfl, shapes_cons hc, shapes_cons hc, ih, l.shapes_shape]

theorem shapes_parenthesized (xs : List Lexeme) : shapes (parenthesized xs) = parenthesized (shapes xs) := by
  have ho : .symbol "(" ≠ Lexeme.symbol "-" := by decide
  rw [parenthesized, List.cons_append, shapes_cons ho, shapes_append rfl]
  rfl

theorem shapes_wrapLexemes (bare : Bool) (xs : List Lexeme) :
    shapes (Predicate.wrapLexemes bare xs) = Predicate.wrapLexemes bare (shapes xs) := by
  cases bare
  case false => exact shapes_parenthesized xs
  case true  => rfl

theorem Predicate.shapes_lexemes (p : Predicate) : shapes p.shape.lexemes = shapes p.lexemes := by
  induction p
  case compare _ relation l =>
    cases relation <;> simp [shape, lexemes, shapes, Relation.symbol, l.shapes_shape, Lexeme.shape]
  case like       => rfl
  case isNull     => rfl
  case isNotNull  => rfl
  case among _ ls =>
    simp [shape, lexemes, shapes, shapes_parenthesized, shapes_commaSeparated, Lexeme.shape, -List.map_map]
  case constant b => cases b <;> rfl
  case binary l op r ihl ihr =>
    have hw : .word op.symbol ≠ Lexeme.symbol "-" := by simp
    simp only [shape, lexemes, isSimple_shape, isJoinedBy_shape]
    rw [shapes_append rfl, shapes_append rfl, shapes_cons hw, shapes_cons hw]
    simp only [shapes_wrapLexemes, ihl, ihr]
  case not p ih =>
    simp only [shape, lexemes, isSimple_shape, shapes, shapes_wrapLexemes, ih]

theorem literal_shape (h : literal v = .ok l) : literal v.shape = .ok l.shape := by
  obtain ⟨text, kind⟩ := v
  cases kind <;> simp only [literal, reduceCtorEq, Except.ok.injEq] at h
  case boolean => subst h; rfl
  case string  => subst h; rfl
  case number  =>
    have hz : literal (.number "0") = .ok (.integer 0) := by decide
    split at h <;> cases h
    all_goals exact hz

theorem Literals.shape (h : Literals values ls) : Literals (values.map Value.shape) (ls.map Literal.shape) := by
  induction h
  case nil          => exact .nil
  case cons hl _ ih => exact .cons (literal_shape hl) ih

theorem filter_shape (values : List Value) :
    (values.map Value.shape).filter (·.kind ≠ .null) =
      (values.filter (·.kind ≠ .null)).map Value.shape := by
  simp only [List.filter_map, Function.comp_def, Value.kind_shape]

namespace Lowers

-- The shape of an expression becomes a condition too, and that one has the shape of the condition.
theorem exists_shape (h : Lowers table e p) : ∃ q, Lowers { name := "" } e.shape q ∧ q.shape = p.shape := by
  induction h
  case compare hk hr hl =>
    refine ⟨_, .compare (by rwa [Value.kind_shape]) hr (literal_shape hl), ?_⟩
    simp [Predicate.shape]
  case contains hk hf =>
    exact ⟨_, .contains (by rwa [Value.kind_shape]) (by rwa [Value.kind_shape]), rfl⟩
  case isNull hk    => exact ⟨_, .isNull (by rwa [Value.kind_shape]), rfl⟩
  case isNotNull hk => exact ⟨_, .isNotNull (by rwa [Value.kind_shape]), rfl⟩
  case amongNothing => exact ⟨_, .amongNothing, rfl⟩
  case amongNull values _ hv hn =>
    have hn : ∀ v ∈ values.map Value.shape, v.kind = .null := by simpa using hn
    exact ⟨_, .amongNull (by simpa using hv) hn, rfl⟩
  case among values _ _ hv hn hl =>
    have hn : ∀ v ∈ values.map Value.shape, v.kind ≠ .null := by simpa using hn
    refine ⟨_, .among (by simpa using hv) hn hl.shape, ?_⟩
    simp [Predicate.shape]
  case amongOrNull values _ _ hn hl hne =>
    have hn : ∃ v ∈ values.map Value.shape, v.kind = .null := by simpa using hn
    refine ⟨_, .amongOrNull hn (filter_shape _ ▸ hl.shape) (by simpa using hne), ?_⟩
    simp [Predicate.shape]
  case binary ihl ihr =>
    have ⟨_, hl, hsl⟩ := ihl
    have ⟨_, hr, hsr⟩ := ihr
    exact ⟨_, .binary hl hr, by simp [Predicate.shape, hsl, hsr]⟩
  case not ih =>
    have ⟨_, h, hs⟩ := ih
    exact ⟨_, .not h, by simp [Predicate.shape, hs]⟩
  case paren ih =>
    have ⟨_, h, hs⟩ := ih
    exact ⟨_, .paren h, hs⟩
  case boolean => exact ⟨_, .boolean, rfl⟩

theorem shape_eq (h : Lowers table e p) (h' : Lowers table' e' q) (he : e'.shape = e.shape) :
    q.shape = p.shape := by
  have ⟨_, hp, hsp⟩ := h.exists_shape
  have ⟨_, hq, hsq⟩ := h'.exists_shape
  rw [he] at hq
  rw [← hsp, ← hsq, hq.unique hp]

end Lowers

theorem lexemes?_of_compile (h : compile table (some e) = .ok sql)
    (hf : ∀ p, Lowers table e p → ∀ l ∈ p.literals, l.Finite) :
    ∃ p, Lowers table e p ∧
      lexemes? sql.toList =
        some ([.word "SELECT", .symbol "*", .word "FROM", .name table.name, .word "WHERE"] ++ p.lexemes) := by
  cases hp : toPredicate table e
  case error => simp [compile, hp, Except.map] at h
  case ok p =>
    have hl := toPredicate_eq_ok_iff.mp hp
    have ht : selectText table (some p) = sql := by simpa [compile, hp, Except.map] using h
    exact ⟨p, hl, ht ▸ (Spells.select table <| .predicate <| hf p hl).lexemes?⟩

-- Every name in a query is one lexeme that holds the name of the table or the column, and every text of the
-- expression is one string that stands for it. Other names, values and columns put others in their places, and
-- nothing else is changed.
theorem compile_isolates (table : Table) (e : Expr) (sql : String) (h : compile table (some e) = .ok sql)
    (hf : ∀ p, Lowers table e p → ∀ l ∈ p.literals, l.Finite) :
    ∃ xs, lexemes? sql.toList = some xs ∧
      xs.filterMap Lexeme.name? = table.name :: (fields e).map table.column ∧
      List.Forall₂ Denotes (xs.filterMap Lexeme.string?) (texts e) ∧
      ∀ table' e' sql', e'.shape = e.shape → compile table' (some e') = .ok sql' →
        (∀ p, Lowers table' e' p → ∀ l ∈ p.literals, l.Finite) →
        ∃ ys, lexemes? sql'.toList = some ys ∧ shapes ys = shapes xs := by
  have ⟨p, hl, hx⟩ := lexemes?_of_compile h hf
  refine ⟨_, hx, ?names, ?strings, fun table' e' sql' he h' hf' => ?shapes⟩
  case names => exact congrArg (table.name :: ·) hl.names
  case strings =>
    show List.Forall₂ Denotes (p.lexemes.filterMap Lexeme.string?) (texts e)
    rw [hl.strings, List.forall₂_map_left_iff]
    exact List.forall₂_same.mpr fun s _ => denotes_written s
  case shapes =>
    have ⟨q, hl', hy⟩ := lexemes?_of_compile h' hf'
    refine ⟨_, hy, ?_⟩
    have hs : shapes q.lexemes = shapes p.lexemes := by
      rw [← q.shapes_lexemes, ← p.shapes_lexemes, hl.shape_eq hl' he]
    simp [shapes, Lexeme.shape, hs]

-- Quotes, backslashes and comments are a part of the names and the strings.
theorem compile_isolates_quotes :
    let table : Table := { name := "a\"b", columns := [("s", "x\" OR TRUE --")] }
    let e : Expr := .binary (.condition ⟨"s", none⟩ .eq (.string "' OR TRUE --\\")) .or
      (.condition ⟨"t", none⟩ .contains (.string "5%'"))
    let sql := "SELECT * FROM \"a\"\"b\" WHERE \"x\"\" OR TRUE --\" = E'\\' OR TRUE --\\\\' OR " ++
      "\"t\" LIKE E'%5\\\\%\\'%' ESCAPE E'\\\\'"
    let plain : Table := { name := "runs" }
    let e' : Expr := .binary (.condition ⟨"n", none⟩ .eq (.string "")) .or
      (.condition ⟨"n", none⟩ .contains (.string "x"))
    let sql' := "SELECT * FROM \"runs\" WHERE \"n\" = '' OR \"n\" LIKE '%x%' ESCAPE E'\\\\'"
    compile table (some e) = .ok sql ∧ compile plain (some e') = .ok sql' ∧
    ∃ xs, lexemes? sql.toList = some xs ∧
      xs.filterMap Lexeme.name? = ["a\"b", "x\" OR TRUE --", "t"] ∧
      List.Forall₂ Denotes (xs.filterMap Lexeme.string?) ["' OR TRUE --\\", "%5\\%'%", "\\"] ∧
      ∃ ys, lexemes? sql'.toList = some ys ∧ shapes ys = shapes xs := by
  intro table e sql plain e' sql'
  have h : compile table (some e) = .ok sql := by decide +kernel
  have h' : compile plain (some e') = .ok sql' := by decide +kernel
  have hf : ∀ p ∈ (toPredicate table e).toOption, ∀ l ∈ p.literals, l.Finite := by decide +kernel
  have hf' : ∀ p ∈ (toPredicate plain e').toOption, ∀ l ∈ p.literals, l.Finite := by decide +kernel
  have ⟨xs, hx, hn, hs, hsame⟩ := compile_isolates table e sql h fun p hp => hf p hp.mem_toOption
  exact ⟨h, h', xs, hx, hn, hs, hsame plain e' sql' rfl h' fun p hp => hf' p hp.mem_toOption⟩

end Sql
end FilterQuery
