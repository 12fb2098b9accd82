import FilterQuery.Proofs.Numeral.Magnitude
import FilterQuery.Proofs.Sql.Contents
import FilterQuery.Proofs.Sql.Defects
import FilterQuery.Proofs.Sql.Operands

namespace FilterQuery.Sql

open Numeral (Signed Overflows Fits int? int64? splitSign)

def numberTexts (v : Value) : List String :=
  if v.kind = .number then [v.text] else []

-- The numbers that a condition compares with, from left to right. The search in a text takes them for texts.
def numbers : Expr → List String
  | .condition _ .contains _ => []
  | .condition _ _ right => numberTexts right
  | .membership _ values => values.flatMap numberTexts
  | .binary left _ right => numbers left ++ numbers right
  | .not e | .paren e => numbers e
  | .boolean _ => []

-- A number and what is read where it was meant.
def Writes (number operand : String) : Prop :=
  ∃ l, literal (.number number) = .ok l ∧ l.operands = [operand]

theorem numberTexts_of_null (v : Value) (h : v.kind = .null) : numberTexts v = [] := by
  simp [numberTexts, h]

theorem numbers_condition (left : Accessor) (ho : op ≠ .contains) :
    numbers (.condition left op right) = numberTexts right := by
  cases op <;> first | rfl | exact absurd rfl ho

theorem writes_literal (h : literal v = .ok l) : List.Forall₂ Writes (numberTexts v) l.operands := by
  obtain ⟨text, kind⟩ := v
  cases kind
  case number =>
    cases l
    case integer => exact .cons ⟨_, h, rfl⟩ .nil
    case real    => exact .cons ⟨_, h, rfl⟩ .nil
    all_goals
      simp only [literal] at h
      split at h <;> cases h
  all_goals cases h
  case boolean => exact .nil
  case string  => exact .nil

theorem writes_literals (h : Literals values ls) :
    List.Forall₂ Writes (values.flatMap numberTexts) (ls.flatMap Literal.operands) :=
  List.rel_flatMap h fun _ _ => writes_literal

theorem Lowers.writes (h : Lowers table e p) :
    List.Forall₂ Writes (numbers e) (p.literals.flatMap Literal.operands) := by
  induction h
  case compare op relation right l field hk hr hl =>
    have ho : op ≠ .contains := by
      rintro rfl
      cases hr
    rw [numbers_condition _ ho]
    simpa [Predicate.literals] using writes_literal hl
  case contains => exact .nil
  case isNull hk | isNotNull hk =>
    rw [numbers_condition _ (by decide), numberTexts_of_null _ hk]
    exact .nil
  case amongNothing => exact .nil
  case amongNull values field hv hn =>
    have ht : values.flatMap numberTexts = [] :=
      List.flatMap_eq_nil_iff.mpr fun v hm => numberTexts_of_null v (hn v hm)
    rw [numbers, ht]
    exact .nil
  case among hl => exact writes_literals hl
  case amongOrNull hl hne =>
    rw [numbers, ← flatMap_filter_null numberTexts_of_null]
    simpa [Predicate.literals] using writes_literals hl
  case binary ihl ihr => simpa [Predicate.literals, numbers] using List.rel_append ihl ihr
  case not ih         => exact ih
  case paren ih       => exact ih
  case boolean        => exact .nil

theorem exists_operands (h : compile table (some e) = .ok sql) :
    ∃ xs, lexemes? sql.toList = some xs ∧ List.Forall₂ Writes (numbers e) (operands xs) := by
  cases hp : toPredicate table e
  case error => simp [compile, hp, Except.map] at h
  case ok p =>
    have hl := toPredicate_eq_ok_iff.mp hp
    have ht : selectText table (some p) = sql := by simpa [compile, hp, Except.map] using h
    refine ⟨_, ht ▸ (Spells.select table <| .predicate_map fun l _ => .literal_spelled l).lexemes?, ?_⟩
    have ho : operands ([.word "SELECT", .symbol "*", .word "FROM", .name table.name, .word "WHERE"] ++
        p.lexemes.map (.mapNumeral spelled)) = operands (p.lexemes.map (.mapNumeral spelled)) := rfl
    rw [ho, operands_predicate]
    exact hl.writes

theorem mem_numberTexts_iff : number ∈ numberTexts v ↔ v = .number number := by
  obtain ⟨text, kind⟩ := v
  simp only [numberTexts]
  split <;> simp_all [Value.number, eq_comm]

theorem mem_values_of_mem_numbers (h : number ∈ numbers e) : .number number ∈ e.values := by
  induction e
  case condition left op right =>
    have hn : number ∈ numberTexts right := by cases op <;> first | exact h | cases h
    simp [Expr.values, mem_numberTexts_iff.mp hn]
  case membership left values =>
    obtain ⟨v, hv, hn⟩ := List.mem_flatMap.mp h
    exact mem_numberTexts_iff.mp hn ▸ hv
  case binary ihl ihr => exact List.mem_append.mpr <| (List.mem_append.mp h).imp ihl ihr
  case not ih   => exact ih h
  case paren ih => exact ih h
  case boolean  => cases h

theorem signed_of_parse (h : parse text context config = .ok (some e)) (hn : number ∈ numbers e) :
    Signed number.toList :=
  (wellFormed_of_parse h).values _ (mem_values_of_mem_numbers hn)

theorem Writes.cases (h : Writes number operand) :
    (∃ n, int64? number = some n ∧ operand = toString n) ∨
      int64? number = none ∧ ∃ x, Double.read? number = some x ∧ operand = realText x := by
  obtain ⟨l, hl, ho⟩ := h
  simp only [literal, Value.number] at hl
  cases hi : int64? number <;> cases hx : Double.read? number <;> simp only [hi, hx] at hl <;> cases hl <;> cases ho
  case some.none => exact .inl ⟨_, rfl, rfl⟩
  case some.some => exact .inl ⟨_, rfl, rfl⟩
  case none.some => exact .inr ⟨rfl, _, rfl, rfl⟩

theorem realText_infinite (negative : Bool) :
    realText (.signed negative Double.infinityRank (Nat.le_refl _)) = if negative then "-INF" else "INF" := by
  cases negative <;> decide +kernel

theorem read?_realText {x : Double} (hx : x ≠ .nan) : Double.read? (realText x) = some x := by
  cases hf : x.isFinite
  case true => simp [realText, hf, Double.read?_toText hf]
  case false =>
    rcases Double.eq_of_not_isFinite hf with rfl | ⟨negative, rfl⟩
    case inl => exact absurd rfl hx
    case inr =>
      rw [realText_infinite]
      cases negative <;> decide +kernel

theorem read?_signed_toList (hs : Signed number.toList) :
    Double.read? number = some (.signed (splitSign number.toList).1
      (Double.rankOf (splitSign number.toList).2) (Double.rankOf_le_infinityRank _)) := by
  simpa using Double.read?_signed hs

theorem literal_overflows (hs : Signed number.toList) (ho : Overflows number.toList) :
    literal (.number number) =
      .ok (.real (.signed (splitSign number.toList).1 Double.infinityRank (Nat.le_refl _))) := by
  have hi : int64? number = none := Option.eq_none_iff_forall_ne_some.mpr fun n hi =>
    have ⟨hi, hf⟩ := Numeral.int64?_eq_some_iff.mp hi
    Numeral.not_overflows_of_fits hi hf ho
  simp only [literal, Value.number, hi, read?_signed_toList hs, Double.rankOf_of_overflows ho]

theorem Writes.infinite (hs : Signed number.toList) (h : Writes number operand) (ho : Overflows number.toList) :
    operand = if (splitSign number.toList).1 then "-INF" else "INF" := by
  obtain ⟨l, hl, hw⟩ := h
  cases hl.symm.trans (literal_overflows hs ho)
  exact (List.cons.inj hw).1.symm.trans (realText_infinite _)

theorem Writes.signed (hs : Signed number.toList) (h : Writes number operand) (ho : ¬Overflows number.toList) :
    Signed operand.toList := by
  rcases h.cases with ⟨n, hi, rfl⟩ | ⟨_, x, hx, rfl⟩
  case inl => exact Numeral.signed_toString n
  case inr =>
    have hf : x.isFinite := (Double.isFinite_read?_iff hs (by rwa [String.ofList_toList])).mpr ho
    simpa [realText, hf] using Double.signed_toText hf

theorem Writes.integer (hs : Signed number.toList) (h : Writes number operand) (hn : int? number.toList = some n) :
    Fits n ∧ operand = toString n ∨
      ¬Fits n ∧ ∃ x, x ≠ .nan ∧ Double.read? number = some x ∧ operand = realText x := by
  rcases h.cases with ⟨m, hi, rfl⟩ | ⟨hi, x, hx, rfl⟩
  case inl =>
    have ⟨hm, hf⟩ := Numeral.int64?_eq_some_iff.mp hi
    cases hn.symm.trans hm
    exact .inl ⟨hf, rfl⟩
  case inr =>
    refine .inr ⟨?beyond, x, ?number, hx, rfl⟩
    case beyond => exact fun hf => nomatch hi.symm.trans (Numeral.int64?_eq_some_iff.mpr ⟨hn, hf⟩)
    case number =>
      rintro rfl
      exact nomatch hx.symm.trans (read?_signed_toList hs)

theorem toString_ne_realText (hm : Fits m) (hn : ¬Fits n) (hs : Signed number.toList)
    (hi : int? number.toList = some n) (hx : Double.read? number = some x) : toString m ≠ realText x := by
  cases hf : x.isFinite
  case true =>
    rw [← number.ofList_toList] at hx
    simpa [realText, hf] using Double.toString_ne_toText hm hn hs hi hx hf
  case false =>
    intro he
    have hm := Numeral.int?_toString m
    rw [he] at hm
    rcases Double.eq_of_not_isFinite hf with rfl | ⟨negative, rfl⟩
    case inl => cases hm
    case inr =>
      rw [realText_infinite] at hm
      cases negative <;> cases hm

-- Two integers with the same spelling are the same, or both are beyond 64 bits and rounded to the same number.
theorem Writes.integers (hs : Signed a.toList) (hs' : Signed b.toList) (h : Writes a operand) (h' : Writes b operand)
    (hm : int? a.toList = some m) (hn : int? b.toList = some n) :
    m = n ∨ ¬Fits m ∧ ¬Fits n ∧ Double.read? a = Double.read? b := by
  rcases h.integer hs hm with ⟨hf, ho⟩ | ⟨hf, x, hx, hr, ho⟩ <;>
    rcases h'.integer hs' hn with ⟨hf', ho'⟩ | ⟨hf', x', hx', hr', ho'⟩
  case inl.inl =>
    have hi := Numeral.int?_toString m
    rw [← ho, ho', Numeral.int?_toString] at hi
    exact .inl (Option.some.inj hi).symm
  case inl.inr => exact absurd (ho.symm.trans ho') (toString_ne_realText hf hf' hs' hn hr')
  case inr.inl => exact absurd (ho'.symm.trans ho) (toString_ne_realText hf' hf hs hm hr)
  case inr.inr =>
    have hr'' := read?_realText hx
    rw [← ho, ho', read?_realText hx'] at hr''
    exact .inr ⟨hf, hf', by rw [hr, hr', hr'']⟩

theorem writes_of_compile (h : parse text context config = .ok (some e)) (hc : compile table (some e) = .ok sql) :
    ∃ xs, lexemes? sql.toList = some xs ∧
      List.Forall₂ (fun number operand => Signed number.toList ∧ Writes number operand) (numbers e) (operands xs) := by
  have ⟨xs, hx, hw⟩ := exists_operands hc
  exact ⟨xs, hx, (List.forall₂_and_left _ _).mpr ⟨fun number hn => signed_of_parse h hn, hw⟩⟩

theorem forall₂_of_common {R : α → γ → Prop} {S : β → γ → Prop} (hr : List.Forall₂ R as cs)
    (hs : List.Forall₂ S bs cs) (ht : ∀ a b c, R a c → S b c → T a b) : List.Forall₂ T as bs := by
  induction hr generalizing bs
  case nil =>
    cases hs
    exact .nil
  case cons ha _ ih =>
    cases hs
    case cons hb hs => exact .cons (ht _ _ _ ha hb) (ih hs)

-- Every number is read as a numeral, but from half way between the greatest finite number and 2 ^ 1024 on it is
-- a bare word.
theorem compile_numbers (text : String) (context : Option Context) (config : Option Config) (e : Expr)
    (h : parse text context config = .ok (some e)) (table : Table) (sql : String)
    (hc : compile table (some e) = .ok sql) :
    ∃ xs, lexemes? sql.toList = some xs ∧
      List.Forall₂ (fun number operand =>
          (¬Overflows number.toList → Signed operand.toList) ∧
          (Overflows number.toList → operand = if (splitSign number.toList).1 then "-INF" else "INF"))
        (numbers e) (operands xs) := by
  have ⟨xs, hx, hw⟩ := writes_of_compile h hc
  exact ⟨xs, hx, hw.imp fun _ _ ⟨hs, hw⟩ => ⟨hw.signed hs, hw.infinite hs⟩⟩

theorem compile_numbers_mixed :
    let e : Expr := .binary (.condition ⟨"a", none⟩ .lt (.number "-0.50")) .or
      (.membership ⟨"b", none⟩ [.number "007", .null])
    let sql := "SELECT * FROM \"runs\" WHERE \"a\" < -0.5 OR (\"b\" IN (7) OR \"b\" IS NULL)"
    parse "a < -0.50 OR b IN [007, null]" = .ok (some e) ∧ compile { name := "runs" } (some e) = .ok sql ∧
    ∃ xs, lexemes? sql.toList = some xs ∧
      List.Forall₂ (fun number operand =>
          (¬Overflows number.toList → Signed operand.toList) ∧
          (Overflows number.toList → operand = if (splitSign number.toList).1 then "-INF" else "INF"))
        ["-0.50", "007"] (operands xs) := by
  intro e sql
  have h : parse "a < -0.50 OR b IN [007, null]" = .ok (some e) := by decide +kernel
  have hc : compile { name := "runs" } (some e) = .ok sql := by decide +kernel
  exact ⟨h, hc, compile_numbers _ none none e h _ sql hc⟩

-- The least power of ten that overflows is accepted as a number, and is none in the query.
theorem compile_numbers_infinite :
    let number := String.ofList ('1' :: List.replicate 309 '0')
    let e : Expr := .condition ⟨"a", none⟩ .eq (.number number)
    let sql := "SELECT * FROM \"test_results\" WHERE \"a\" = inf"
    parse ("a = " ++ number) = .ok (some e) ∧ compile { name := "test_results" } (some e) = .ok sql ∧
    ¬∃ xs, lexemes? sql.toList = some xs ∧
      List.Forall₂ (fun _ operand => Signed operand.toList) (numbers e) (operands xs) := by
  intro number e sql
  have hn : number.toList = '1' :: List.replicate 309 '0' := String.toList_ofList
  have hs : Signed number.toList := hn ▸ .plus (.whole (by decide +kernel))
  have ho : Overflows number.toList := by
    rw [hn]
    decide +kernel
  have hp : parse e.canonical = .ok (some e) := by
    refine parse_canonical ⟨trivial, Nat.zero_le _, ?accessors, ?values⟩ fun v _ => v.unresolved_none
    case accessors =>
      have hw : Lexer.IsName ['a'] := ⟨⟨_, _, rfl, rfl⟩, List.forall_mem_singleton.mpr rfl, by decide⟩
      exact List.forall_mem_singleton.mpr ⟨hw, nofun⟩
    case values => exact List.forall_mem_singleton.mpr hs
  have hc : compile { name := "test_results" } (some e) = .ok sql := by
    have hl := literal_overflows hs ho
    rw [hn] at hl
    have hp : Lowers { name := "test_results" } e _ := .compare nofun rfl hl
    rw [compile, toPredicate_eq_ok_iff.mpr hp]
    decide +kernel
  refine ⟨hp, hc, ?_⟩
  rintro ⟨xs, hx, hf⟩
  have hx' : lexemes? sql.toList = some [.word "SELECT", .symbol "*", .word "FROM", .name "test_results",
    .word "WHERE", .name "a", .symbol "=", .word "INF"] := by decide +kernel
  cases hx'.symm.trans hx
  have hi : Signed "INF".toList := (List.forall₂_cons.mp hf).1
  obtain ⟨d, ds, he, hd⟩ := hi.plain.head_digit
  have hw : (splitSign "INF".toList).2 = ['I', 'N', 'F'] := by decide
  cases hw.symm.trans he
  exact absurd hd (by decide)

-- An integer of 64 bits is kept, any other is rounded. So two filters with the same query differ in integers only
-- where both are beyond 64 bits and nearest to the same number.
theorem compile_integers (text : String) (context : Option Context) (config : Option Config) (e : Expr)
    (h : parse text context config = .ok (some e)) (table : Table) (sql : String)
    (hc : compile table (some e) = .ok sql) :
    (∃ xs, lexemes? sql.toList = some xs ∧
      List.Forall₂ (fun number operand => ∀ n, int? number.toList = some n →
          (Fits n → int? operand.toList = some n) ∧
          (¬Fits n → Double.read? operand = Double.read? number))
        (numbers e) (operands xs)) ∧
    ∀ text' context' config' e' table', parse text' context' config' = .ok (some e') →
      compile table' (some e') = .ok sql →
      List.Forall₂ (fun a b => ∀ m n, int? a.toList = some m → int? b.toList = some n →
          m = n ∨ ¬Fits m ∧ ¬Fits n ∧ Double.read? a = Double.read? b)
        (numbers e) (numbers e') := by
  have ⟨xs, hx, hw⟩ := writes_of_compile h hc
  refine ⟨⟨xs, hx, hw.imp ?kept⟩, ?apart⟩
  case kept =>
    intro number operand ⟨hs, hw⟩ n hn
    rcases hw.integer hs hn with ⟨hf, rfl⟩ | ⟨hf, x, hx, hr, rfl⟩
    case inl => exact ⟨fun _ => Numeral.int?_toString n, fun hf' => absurd hf hf'⟩
    case inr => exact ⟨fun hf' => absurd hf' hf, fun _ => (read?_realText hx).trans hr.symm⟩
  case apart =>
    intro _ _ _ _ _ h' hc'
    have ⟨ys, hy, hw'⟩ := writes_of_compile h' hc'
    cases hx.symm.trans hy
    exact forall₂_of_common hw hw' fun _ _ _ ⟨hs, hw⟩ ⟨hs', hw'⟩ _ _ => hw.integers hs hs' hw'

-- The limits of 64 bits are kept, one of them a value of the context; 2 ^ 64 - 1 and 2 ^ 64 are written alike.
theorem compile_integers_limits :
    let context : Context := ⟨[("MIN()", .number (.integer (-9223372036854775808)))]⟩
    let limits : Expr := .membership ⟨"a", none⟩ [.number "9223372036854775807", .number "-9223372036854775808"]
    let e : Expr := .binary limits .and (.condition ⟨"b", none⟩ .eq (.number "18446744073709551615"))
    let e' : Expr := .binary limits .and (.condition ⟨"b", none⟩ .eq (.number "18446744073709551616"))
    let table : Table := { name := "runs" }
    let sql := "SELECT * FROM \"runs\" WHERE \"a\" IN (9223372036854775807, -9223372036854775808) AND " ++
      "\"b\" = 18446744073709552000"
    parse "a IN [9223372036854775807, MIN()] AND b = 18446744073709551615" (some context) = .ok (some e) ∧
    compile table (some e) = .ok sql ∧ compile table (some e') = .ok sql ∧
    (∃ xs, lexemes? sql.toList = some xs ∧
      List.Forall₂ (fun number operand => ∀ n, int? number.toList = some n →
          (Fits n → int? operand.toList = some n) ∧
          (¬Fits n → Double.read? operand = Double.read? number))
        ["9223372036854775807", "-9223372036854775808", "18446744073709551615"] (operands xs)) ∧
    List.Forall₂ (fun a b => ∀ m n, int? a.toList = some m → int? b.toList = some n →
        m = n ∨ ¬Fits m ∧ ¬Fits n ∧ Double.read? a = Double.read? b)
      ["9223372036854775807", "-9223372036854775808", "18446744073709551615"]
      ["9223372036854775807", "-9223372036854775808", "18446744073709551616"] := by
  intro context limits e e' table sql
  have h : parse "a IN [9223372036854775807, MIN()] AND b = 18446744073709551615" (some context) =
      .ok (some e) := by decide +kernel
  have h' : parse "a IN [9223372036854775807, -9223372036854775808] AND b = 18446744073709551616" =
      .ok (some e') := by decide +kernel
  have hc : compile table (some e) = .ok sql := by decide +kernel
  have hc' : compile table (some e') = .ok sql := by decide +kernel
  obtain ⟨hkept, hsame⟩ := compile_integers _ (some context) none e h table sql hc
  exact ⟨h, hc, hc', hkept, hsame _ none none e' table h' hc'⟩

-- The first integer beyond 64 bits and the next one are written as a third one.
theorem compile_integers_rounded :
    let e : Expr := .condition ⟨"id", none⟩ .eq (.number "9223372036854775808")
    let e' : Expr := .condition ⟨"id", none⟩ .eq (.number "9223372036854775809")
    let table : Table := { name := "test_results" }
    let sql := "SELECT * FROM \"test_results\" WHERE \"id\" = 9223372036854776000"
    parse "id = 9223372036854775808" = .ok (some e) ∧ parse "id = 9223372036854775809" = .ok (some e') ∧
    compile table (some e) = .ok sql ∧ compile table (some e') = .ok sql ∧
    ¬∃ xs, lexemes? sql.toList = some xs ∧
      List.Forall₂ (fun number operand => int? operand.toList = int? number.toList) (numbers e) (operands xs) := by
  intro e e' table sql
  refine ⟨by decide +kernel, by decide +kernel, by decide +kernel, by decide +kernel, ?_⟩
  rintro ⟨xs, hx, hf⟩
  have hx' : lexemes? sql.toList = some [.word "SELECT", .symbol "*", .word "FROM", .name "test_results",
    .word "WHERE", .name "id", .symbol "=", .numeral "9223372036854776000"] := by decide +kernel
  cases hx'.symm.trans hx
  exact absurd (List.forall₂_cons.mp hf).1 (by decide +kernel)

end FilterQuery.Sql
