import FilterQuery.Proofs.Numeral.RoundTrip
import FilterQuery.Proofs.Sql.Lexing
import FilterQuery.Proofs.Sql.Lowering
import FilterQuery.Proofs.Sql.Unambiguous

namespace FilterQuery.Sql

-- A numeral with its sign.
def Constant.ofNumeral : List Char → Constant
  | '-' :: cs => .number true (.ofList cs)
  | cs => .number false (.ofList cs)

theorem Constant.ofNumeral_plain (h : Numeral.Plain cs) : ofNumeral cs = .number false (.ofList cs) := by
  have ⟨d, ds, he, hd⟩ := h.head_digit
  subst he
  rw [ofNumeral]
  rintro _ he
  cases he
  exact absurd hd (by decide)

namespace Literal

-- How a literal is written.
def constant : Literal → Constant
  | boolean b => .boolean b
  | integer n => .ofNumeral (toString n).toList
  | real x => .ofNumeral x.toText.toList
  | string s =>
    let body := s.toList.flatMap escapeChar
    .string (body.contains '\\') body

def Finite : Literal → Prop
  | real x => x.isFinite
  | _ => True

instance : DecidablePred Finite
  | real x => inferInstanceAs (Decidable (x.isFinite = true))
  | boolean _ | integer _ | string _ => isTrue trivial

end Literal

namespace Predicate

def literals : Predicate → List Literal
  | compare _ _ value => [value]
  | among _ values => values
  | binary left _ right => left.literals ++ right.literals
  | not p => p.literals
  | like .. | isNull _ | isNotNull _ | constant _ => []

-- The tree that the text of a predicate is meant to be.
def condition : Predicate → Condition
  | compare column relation value => .compare (.column column) relation (.constant value.constant)
  | like column pattern =>
    .like (.column column) (.constant (Literal.string pattern).constant)
      (.constant (Literal.string "\\").constant)
  | isNull column => .isNull (.column column)
  | isNotNull column => .isNotNull (.column column)
  | among column values => .among (.column column) (values.map Literal.constant)
  | constant b => .constant (.boolean b)
  | binary left op right => .binary left.condition op right.condition
  | not p => .not p.condition

def wrapLexemes (bare : Bool) (xs : List Lexeme) : List Lexeme :=
  if bare then xs else parenthesized xs

def lexemes : Predicate → List Lexeme
  | compare column relation value => .name column :: .symbol relation.symbol :: value.constant.lexemes
  | like column pattern =>
    .name column :: .word "LIKE" :: ((Literal.string pattern).constant.lexemes ++
      .word "ESCAPE" :: (Literal.string "\\").constant.lexemes)
  | isNull column => [.name column, .word "IS", .word "NULL"]
  | isNotNull column => [.name column, .word "IS", .word "NOT", .word "NULL"]
  | among column values =>
    .name column :: .word "IN" :: parenthesized (commaSeparated (values.map Literal.constant))
  | constant b => (Constant.boolean b).lexemes
  | binary left op right =>
    wrapLexemes (left.isSimple || left.isJoinedBy op) left.lexemes ++
      .word op.symbol :: wrapLexemes right.isSimple right.lexemes
  | not p => .word "NOT" :: wrapLexemes p.isSimple p.lexemes

end Predicate

-- Puts something in the place of a numeral.
def Lexeme.mapNumeral (f : String → Lexeme) : Lexeme → Lexeme
  | numeral text => f text
  | x => x

@[simp]
theorem Lexeme.map_mapNumeral_numeral (xs : List Lexeme) : xs.map (mapNumeral numeral) = xs :=
  List.map_id'' (fun x => by cases x <;> rfl) xs

theorem map_parenthesized (xs : List Lexeme) :
    (parenthesized xs).map (.mapNumeral f) = parenthesized (xs.map (.mapNumeral f)) := by
  simp [parenthesized, Lexeme.mapNumeral]

theorem map_wrapLexemes (bare : Bool) (xs : List Lexeme) :
    (Predicate.wrapLexemes bare xs).map (.mapNumeral f) = Predicate.wrapLexemes bare (xs.map (.mapNumeral f)) := by
  cases bare
  case false => exact map_parenthesized xs
  case true  => rfl

namespace Spells

theorem signed (h : Numeral.Signed cs) : Spells cs (Constant.ofNumeral cs).lexemes := by
  cases h
  case minus h =>
    have ⟨d, ds, he, hd⟩ := h.head_digit
    subst he
    exact .minus (.numeral h) (isOperatorPart_of_isDigit hd)
  case plus h  => exact Constant.ofNumeral_plain h ▸ .numeral h

theorem boolean (b : Bool) : Spells (if b then "TRUE" else "FALSE").toList (Constant.boolean b).lexemes := by
  cases b
  case false => exact .keyword "FALSE" (by decide)
  case true  => exact .keyword "TRUE" (by decide)

theorem literal {l : Literal} (h : l.Finite) : Spells l.text.toList l.constant.lexemes := by
  cases l
  case boolean b => exact .boolean b
  case integer n => exact .signed (Numeral.signed_toString n)
  case real x    => exact .signed (Double.signed_toText h)
  case string s  => exact .string s

theorem literals {ls : List Literal}
    (h : ∀ l ∈ ls, Spells l.text.toList (l.constant.lexemes.map (.mapNumeral f))) :
    Spells (String.intercalate ", " (ls.map Literal.text)).toList
      ((commaSeparated (ls.map Literal.constant)).map (.mapNumeral f)) := by
  induction ls
  case nil => exact .nil
  case cons l ls ih =>
    have hl := h l (List.mem_cons_self ..)
    have ih := ih fun m hm => h m (List.mem_cons_of_mem _ hm)
    cases ls
    case nil  => simpa [commaSeparated] using hl
    case cons =>
      simpa [String.intercalate_cons_cons, commaSeparated, List.intercalate_cons_cons, Lexeme.mapNumeral]
        using hl.comma ih

theorem relation (r : Relation) : Spells r.symbol.toList [.symbol r.symbol] := by
  cases r <;> exact .operator (by decide)

theorem connective (op : Connective) : Spells op.symbol.toList [.word op.symbol] := by
  cases op <;> exact .keyword _ (by decide)

theorem wrap (bare : Bool) (h : Spells text.toList xs) :
    Spells (Predicate.wrap bare text).toList (Predicate.wrapLexemes bare xs) := by
  cases bare
  case false => simpa [Predicate.wrap, Predicate.wrapLexemes] using h.paren
  case true  => exact h

-- The text falls into the lexemes of the predicate if those of its literals do, or what stands in the place of
-- their numerals.
theorem predicate_map {p : Predicate}
    (h : ∀ l ∈ p.literals, Spells l.text.toList (l.constant.lexemes.map (.mapNumeral f))) :
    Spells p.text.toList (p.lexemes.map (.mapNumeral f)) := by
  induction p
  case compare column r value =>
    have hv := h value (List.mem_singleton_self _)
    simpa [Predicate.text, Predicate.lexemes, Lexeme.mapNumeral] using (name column).space <| (relation r).space hv
  case like column pattern =>
    have he := (keyword "ESCAPE" (by decide)).space (string "\\")
    have hl := (keyword "LIKE" (by decide)).space <| (string pattern).space he
    simpa [Predicate.text, Predicate.lexemes, Literal.constant, Constant.lexemes, Lexeme.mapNumeral]
      using (name column).space hl
  case isNull column =>
    have hi := (keyword "IS" (by decide)).space <| keyword "NULL" (by decide)
    simpa [Predicate.text, Predicate.lexemes, Lexeme.mapNumeral] using (name column).space hi
  case isNotNull column =>
    have hn := (keyword "NOT" (by decide)).space <| keyword "NULL" (by decide)
    have hi := (keyword "IS" (by decide)).space hn
    simpa [Predicate.text, Predicate.lexemes, Lexeme.mapNumeral] using (name column).space hi
  case among column values =>
    have hi := (keyword "IN" (by decide)).space (@literals _ values h).paren
    simpa [Predicate.text, Predicate.lexemes, map_parenthesized, Lexeme.mapNumeral] using (name column).space hi
  case constant b => exact .boolean b
  case binary left op right ihl ihr =>
    obtain ⟨hl, hr⟩ := List.forall_mem_append.mp h
    have hl := (ihl hl).wrap (left.isSimple || left.isJoinedBy op)
    have hr := (ihr hr).wrap right.isSimple
    simpa [Predicate.text, Predicate.lexemes, map_wrapLexemes, Lexeme.mapNumeral]
      using hl.space <| (connective op).space hr
  case not p ih =>
    have hp := (ih h).wrap p.isSimple
    simpa [Predicate.text, Predicate.lexemes, map_wrapLexemes, Lexeme.mapNumeral]
      using (keyword "NOT" (by decide)).space hp

theorem predicate {p : Predicate} (h : ∀ l ∈ p.literals, l.Finite) : Spells p.text.toList p.lexemes := by
  simpa using predicate_map (f := .numeral) fun l hl => by simpa using literal (h l hl)

end Spells

namespace Predicate

-- The tightest symbol that reads the text of a condition.
def level : Predicate → Symbol
  | binary _ op _ => .chain op
  | not _ => .negation
  | _ => .predicate

-- The text of a condition is right by itself.
def Readable (p : Predicate) : Prop :=
  Reads p.level p.lexemes p.condition

theorem Readable.whole (h : Readable p) : Reads (.chain .or) p.lexemes p.condition := by
  cases p
  case binary op _ =>
    cases op
    case and => exact .part h
    case or  => exact h
  case not => exact .part (.part h)
  all_goals exact .part (.part (.positive h))

-- Behind NOT, and so on every side of an operator.
theorem Readable.negation (h : Readable p) :
    Reads .negation (wrapLexemes p.isSimple p.lexemes) p.condition := by
  cases p
  case binary => exact .positive <| .operand <| .paren h.whole
  case not    => exact .positive <| .operand <| .paren h.whole
  all_goals exact .positive h

end Predicate

theorem Reads.part_of_negation (h : Reads .negation xs a) (op : Connective) : Reads (.part op) xs a := by
  cases op
  case and => exact h
  case or  => exact .part h

namespace Predicate

theorem Readable.left (h : Readable p) (op : Connective) :
    Reads (.chain op) (wrapLexemes (p.isSimple || p.isJoinedBy op) p.lexemes) p.condition := by
  cases hj : p.isJoinedBy op
  case false => exact Bool.or_false _ ▸ .part (h.negation.part_of_negation op)
  case true =>
    rw [Bool.or_true]
    cases p
    case binary o _ =>
      have ho : o = op := by simpa [isJoinedBy] using hj
      exact ho ▸ h
    all_goals cases hj

theorem Readable.binary (hp : Readable p) (hq : Readable q) (op : Connective) : Readable (.binary p op q) :=
  .chain (hp.left op) (hq.negation.part_of_negation op)

theorem readable_isNull (name : String) : Readable (.isNull name) :=
  .predicate .column .isNull

theorem readable_among (name : String) (hv : ls ≠ []) : Readable (.among name ls) :=
  .predicate .column <| .among (List.map_eq_nil_iff.not.mpr hv)

end Predicate

open Predicate in
theorem Lowers.readable (h : Lowers table e p) : p.Readable := by
  induction h
  case compare               => exact .predicate .column <| .compare .constant
  case contains              => exact .predicate .column <| .like .constant .constant
  case isNull                => exact readable_isNull _
  case isNotNull             => exact .predicate .column .isNotNull
  case amongNothing          => exact .operand .constant
  case amongNull             => exact readable_isNull _
  case among hv _ hl         => exact readable_among _ <| hv ∘ hl.eq_nil_iff.mpr
  case amongOrNull hne       => exact (readable_among _ hne).binary (readable_isNull _) .or
  case binary op _ _ ihl ihr => exact ihl.binary ihr op
  case not ih                => exact .not ih.negation
  case paren ih              => exact ih
  case boolean               => exact .operand .constant

theorem Spells.select (table : Table) (h : Spells p.text.toList xs) :
    Spells (selectText table (some p)).toList
      ([.word "SELECT", .symbol "*", .word "FROM", .name table.name, .word "WHERE"] ++ xs) := by
  have hw := (name table.name).space <| (keyword "WHERE" (by decide)).space h
  have hs := (keyword "SELECT" (by decide)).space <| (operator (by decide : "*" ∈ operators)).space <|
    (keyword "FROM" (by decide)).space hw
  have ht : selectText table (some p) = "SELECT * FROM " ++ nameText table.name ++ " WHERE " ++ p.text := rfl
  simpa [ht] using hs

-- The text behind WHERE has one reading, the tree that the expression becomes without its parentheses.
theorem compile_reads (table : Table) (e : Expr) (sql : String) (h : compile table (some e) = .ok sql)
    (hf : ∀ p, Lowers table e p → ∀ l ∈ p.literals, l.Finite) :
    ∃ p xs, Lowers table e p ∧
      lexemes? sql.toList =
        some ([.word "SELECT", .symbol "*", .word "FROM", .name table.name, .word "WHERE"] ++ xs) ∧
      ∀ c, Reads (.chain .or) xs c ↔ c = p.condition := by
  cases hp : toPredicate table e
  case error => simp [compile, hp, Except.map] at h
  case ok p =>
    have hl := toPredicate_eq_ok_iff.mp hp
    have ht : selectText table (some p) = sql := by simpa [compile, hp, Except.map] using h
    have hr := hl.readable.whole
    refine ⟨p, p.lexemes, hl, ?_, fun c => ⟨fun hc => hc.unique hr, fun hc => hc ▸ hr⟩⟩
    exact ht ▸ (Spells.select table <| .predicate <| hf p hl).lexemes?

-- One pair of parentheses disappears, and the list with the null brings a new one.
theorem compile_reads_grouped :
    let table : Table := { name := "runs", columns := [("s", "state")] }
    let e : Expr := .binary (.paren (.not (.membership ⟨"s", none⟩ [.string "new", .null]))) .and
      (.paren (.binary (.paren (.boolean true)) .or (.condition ⟨"n", none⟩ .ge (.number "-0.5"))))
    let sql := "SELECT * FROM \"runs\" WHERE (NOT (\"state\" IN ('new') OR \"state\" IS NULL)) AND " ++
      "(TRUE OR \"n\" >= -0.5)"
    compile table (some e) = .ok sql ∧
    ∃ p xs, Lowers table e p ∧
      lexemes? sql.toList =
        some ([.word "SELECT", .symbol "*", .word "FROM", .name table.name, .word "WHERE"] ++ xs) ∧
      ∀ c, Reads (.chain .or) xs c ↔ c = p.condition := by
  intro table e sql
  have h : compile table (some e) = .ok sql := by decide +kernel
  have hf : ∀ p ∈ (toPredicate table e).toOption, ∀ l ∈ p.literals, l.Finite := by decide +kernel
  refine ⟨h, compile_reads table e sql h fun p hp => hf p ?_⟩
  rw [toPredicate_eq_ok_iff.mpr hp]
  rfl

end FilterQuery.Sql
