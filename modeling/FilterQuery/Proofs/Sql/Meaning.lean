import FilterQuery.Proofs.Numeral.Magnitude
import FilterQuery.Proofs.Sql.Pattern

namespace FilterQuery

-- The literal that a value stands for, by its kind. A number is an integer if it is written as one of 64 bits.
def Value.literal? (v : Value) : Option Sql.Literal :=
  match v.kind with
  | .null | .function => none
  | .boolean => some (.boolean (v.text = "true"))
  | .string => some (.string v.text)
  | .number =>
    match (Numeral.int? v.text.toList).filter (Numeral.Fits ·) with
    | some n => some (.integer n)
    | none => (Double.read? v.text).map .real

namespace Sql

variable {α : Type} (holds : Relation → α → Literal → Bool) (text : α → String)

-- Whether a value that is not NULL stands in this comparison.
def asks (op : Comparison) (v : Value) (a : α) : Bool :=
  match op with
  | .eq => v.literal?.any (holds .eq a)
  | .neq => v.literal?.any (holds .ne a)
  | .gt => v.literal?.any (holds .gt a)
  | .ge => v.literal?.any (holds .ge a)
  | .lt => v.literal?.any (holds .lt a)
  | .le => v.literal?.any (holds .le a)
  | .contains => decide (v.text.toList <:+: (text a).toList)

-- Whether a value that is not NULL equals one of these values.
def equalsOne (values : List Value) (a : α) : Bool :=
  decide (∃ v ∈ values, v.kind ≠ .null ∧ v.literal?.any (holds .eq a))

-- A null in the list stands for NULL, so that the answer is always known. Without one, NULL may be anything, but
-- not in an empty list.
def isAmong (values : List Value) (a : Option α) : Truth :=
  if ∃ v ∈ values, v.kind = .null then .ofBool (a.all (equalsOne holds values))
  else if values = [] then .no
  else .known (equalsOne holds values) a

-- What an expression says about the fields of a row.
def meaning (row : String → Option α) : Expr → Truth
  | .condition left op right =>
    if right.kind ≠ .null then .known (asks holds text op right) (row left.field)
    else match op with
      | .eq => .ofBool (row left.field).isNone
      | .neq => .ofBool (row left.field).isSome
      | _ => .unknown
  | .membership left values => isAmong holds values (row left.field)
  | .binary left op right => .join op (meaning row left) (meaning row right)
  | .not e => (meaning row e).not
  | .paren e => meaning row e
  | .boolean b => .ofBool b

variable {holds text}

theorem literal?_of_literal (h : literal v = .ok l) : v.literal? = some l := by
  simp only [literal] at h
  cases hk : v.kind <;> simp only [hk] at h
  case null     => cases h
  case function => cases h
  case boolean  => cases h; simp only [Value.literal?, hk]
  case string   => cases h; simp only [Value.literal?, hk]
  case number =>
    have hf : (Numeral.int? v.text.toList).filter (Numeral.Fits ·) = Numeral.int64? v.text := by
      ext n
      simp [Numeral.int64?_eq_some_iff, Option.filter_eq_some_iff]
    simp only [Value.literal?, hk, hf]
    cases hi : Numeral.int64? v.text <;> simp only [hi] at h
    case some => cases h; rfl
    case none => cases hx : Double.read? v.text <;> simp only [hx] at h <;> cases h; rfl

theorem asks_of_relation (hr : relation? op = some relation) (hl : literal v = .ok l) :
    asks holds text op v = (holds relation · l) := by
  funext a
  cases op <;> cases hr <;> simp [asks, literal?_of_literal hl]

theorem asks_contains :
    asks holds text .contains v = ((Comparisons.ofText holds text).like · (containsPattern v.text)) :=
  funext fun a => (like_containsPattern v.text a).symm

theorem equalsOne_of_null (hn : ∀ v ∈ values, v.kind = .null) (a : α) : equalsOne holds values a = false := by
  simp only [equalsOne, decide_eq_false_iff_not]
  exact fun ⟨v, hm, hk, _⟩ => hk <| hn v hm

theorem isAmong_of_null (hv : values ≠ []) (hn : ∀ v ∈ values, v.kind = .null) (a : Option α) :
    isAmong holds values a = .ofBool a.isNone := by
  have ⟨v, hm⟩ := List.exists_mem_of_ne_nil _ hv
  rw [isAmong, if_pos ⟨v, hm, hn v hm⟩]
  cases a
  case none => rfl
  case some => rw [Option.all_some, equalsOne_of_null hn, Option.isNone_some]

theorem isAmong_congr (h : ∀ v, v ∈ values ↔ v ∈ values') (a : Option α) :
    isAmong holds values a = isAmong holds values' a := by
  have he : equalsOne holds values = equalsOne holds values' := by
    funext a
    simp only [equalsOne, h]
  simp only [isAmong, List.eq_nil_iff_forall_not_mem, h, he]

namespace Literals

theorem kind_ne_null (h : Literals values ls) : ∀ v ∈ values, v.kind ≠ .null := by
  induction h
  case nil          => exact nofun
  case cons hl _ ih => exact List.forall_mem_cons.mpr ⟨kind_ne_null_of_literal hl, ih⟩

theorem any_holds_iff (h : Literals values ls) :
    ls.any (holds .eq a) ↔ ∃ v ∈ values, v.literal?.any (holds .eq a) := by
  induction h
  case nil          => simp
  case cons hl _ ih => simp [ih, literal?_of_literal hl]

theorem truth_among (h : Literals values ls) (hne : values ≠ []) :
    (Predicate.among name ls).truth (.ofText holds text) row = isAmong holds values (row name) := by
  have hk : ¬∃ v ∈ values, v.kind = .null := fun ⟨v, hv, hk⟩ => h.kind_ne_null v hv hk
  rw [isAmong, if_neg hk, if_neg hne]
  cases hr : row name
  case none => exact Predicate.truth_among_null hr <| hne ∘ h.eq_nil_iff.mpr
  case some =>
    rw [Predicate.truth_among_value hr, Truth.known]
    congr 1
    rw [Bool.eq_iff_iff, Comparisons.ofText, h.any_holds_iff, equalsOne, decide_eq_true_iff]
    exact exists_congr fun v => and_congr_right fun hv => (and_iff_right <| h.kind_ne_null v hv).symm

theorem truth_among_or_null (h : Literals (values.filter (·.kind ≠ .null)) ls) (hne : ls ≠ [])
    (hn : ∃ v ∈ values, v.kind = .null) :
    (Predicate.binary (.among name ls) .or (.isNull name)).truth (.ofText holds text) row =
      isAmong holds values (row name) := by
  rw [Predicate.truth, Predicate.truth, Truth.join, isAmong, if_pos hn]
  cases hr : row name
  case none => rw [Predicate.truth_among_null hr hne]; rfl
  case some =>
    rw [Predicate.truth_among_value hr, Option.isNone_some, Truth.or_ofBool, Bool.or_false]
    congr 1
    rw [Bool.eq_iff_iff, Comparisons.ofText, h.any_holds_iff, Option.all_some, equalsOne, decide_eq_true_iff]
    simp [and_assoc]

end Literals

theorem Lowers.truth_eq_meaning (h : Lowers table e p) (row : String → Option α) :
    p.truth (.ofText holds text) row = meaning holds text (row ∘ table.column) e := by
  induction h
  case compare hk hr hl      => simp [Predicate.truth, Comparisons.ofText, meaning, hk, asks_of_relation hr hl]
  case contains hk _         => simp [Predicate.truth, meaning, hk, asks_contains]
  case isNull hk             => simp [Predicate.truth, meaning, hk]
  case isNotNull hk          => simp [Predicate.truth, meaning, hk]
  case amongNothing          => simp [Predicate.truth, meaning, isAmong, Truth.ofBool]
  case amongNull hv hn       => exact (isAmong_of_null hv hn _).symm
  case among hv _ hl         => exact hl.truth_among hv
  case amongOrNull hn hl hne => exact hl.truth_among_or_null hne hn
  case binary ihl ihr        => simp [Predicate.truth, meaning, ihl, ihr]
  case not ih                => simp [Predicate.truth, meaning, ih]
  case paren ih              => exact ih
  case boolean               => rfl

-- The lists may name the same values in another order, and more or less often.
inductive SameLists : Expr → Expr → Prop
  | condition : SameLists (.condition left op right) (.condition left op right)
  | membership (h : ∀ v, v ∈ values ↔ v ∈ values') :
    SameLists (.membership left values) (.membership left values')
  | binary : SameLists left left' → SameLists right right' →
    SameLists (.binary left op right) (.binary left' op right')
  | not : SameLists e e' → SameLists (.not e) (.not e')
  | paren : SameLists e e' → SameLists (.paren e) (.paren e')
  | boolean : SameLists (.boolean b) (.boolean b)

theorem SameLists.meaning_eq (h : SameLists e e') (row : String → Option α) :
    meaning holds text row e = meaning holds text row e' := by
  induction h
  case condition      => rfl
  case membership h   => exact isAmong_congr h _
  case binary ihl ihr => simp only [meaning, ihl, ihr]
  case not ih         => simp only [meaning, ih]
  case paren ih       => exact ih
  case boolean        => rfl

theorem SameLists.lowers (h : SameLists e e') (hl : Lowers table e p) : ∃ p', Lowers table e' p' := by
  induction h generalizing p
  case condition => exact ⟨p, hl⟩
  case membership h =>
    have ⟨hn, hv⟩ := exists_membership_eq_ok_iff.mp ⟨p, membership_eq_ok_iff.mpr hl⟩
    have ⟨p', hl⟩ := exists_membership_eq_ok_iff.mpr ⟨hn, fun v hm => hv v <| (h v).mpr hm⟩
    exact ⟨p', membership_eq_ok_iff.mp hl⟩
  case binary ihl ihr =>
    have .binary hl hr := hl
    have ⟨_, hl⟩ := ihl hl
    have ⟨_, hr⟩ := ihr hr
    exact ⟨_, .binary hl hr⟩
  case not ih =>
    have .not hl := hl
    have ⟨_, hl⟩ := ih hl
    exact ⟨_, .not hl⟩
  case paren ih =>
    have .paren hl := hl
    have ⟨_, hl⟩ := ih hl
    exact ⟨_, .paren hl⟩
  case boolean => exact ⟨p, hl⟩

-- The condition of an expression means what the expression means, row by row, and lists that name the same
-- values select the same rows. A field without a column of another name has the column of its own.
theorem truth_of_toPredicate (holds : Relation → α → Literal → Bool) (text : α → String) (table : Table) (e : Expr)
    (p : Predicate) (h : toPredicate table e = .ok p) :
    let S := Comparisons.ofText holds text
    (∀ row, p.truth S row =
      meaning holds text (fun field => row ((table.columns.lookup field).getD field)) e) ∧
    ∀ e', SameLists e e' →
      ∃ p', toPredicate table e' = .ok p' ∧ ∀ row, p'.truth S row = p.truth S row := by
  intro S
  have hl := toPredicate_eq_ok_iff.mp h
  refine ⟨hl.truth_eq_meaning, fun e' he => ?_⟩
  have ⟨p', hl'⟩ := he.lowers hl
  refine ⟨p', toPredicate_eq_ok_iff.mpr hl', fun row => ?_⟩
  rw [hl'.truth_eq_meaning, hl.truth_eq_meaning, he.meaning_eq]

-- The columns hold literals, of which only the integers have an order.
theorem truth_of_toPredicate_repeated :
    let holds : Relation → Literal → Literal → Bool
      | .eq, a, b => a = b
      | .ne, a, b => a ≠ b
      | .gt, .integer a, .integer b => a > b
      | .ge, .integer a, .integer b => a ≥ b
      | .lt, .integer a, .integer b => a < b
      | .le, .integer a, .integer b => a ≤ b
      | _, _, _ => false
    let text : Literal → String
      | .string s => s
      | _ => ""
    let S := Comparisons.ofText holds text
    let table : Table := { name := "runs", columns := [("size", "bytes")] }
    let e (sizes : List Value) : Expr :=
      .binary (.not (.membership ⟨"size", none⟩ sizes)) .and
        (.binary (.condition ⟨"size", none⟩ .ge (.number "3")) .or
          (.binary (.membership ⟨"done", none⟩ [.boolean false]) .and
            (.condition ⟨"state", none⟩ .neq (.string "new"))))
    let p : Predicate :=
      .binary (.not (.binary (.among "bytes" [.integer 1, .integer 2]) .or (.isNull "bytes"))) .and
        (.binary (.compare "bytes" .ge (.integer 3)) .or
          (.binary (.among "done" [.boolean false]) .and (.compare "state" .ne (.string "new"))))
    (∀ row, p.truth S row = meaning holds text (fun field => row ((table.columns.lookup field).getD field))
      (e [.number "1", .null, .number "2"])) ∧
    ∃ p', toPredicate table (e [.number "2", .number "2", .null, .number "1"]) = .ok p' ∧
      ∀ row, p'.truth S row = p.truth S row := by
  intro holds text S table e p
  have h := truth_of_toPredicate holds text table (e [.number "1", .null, .number "2"]) p (by decide)
  refine ⟨h.1, h.2 _ <| .binary (.not <| .membership fun v => ?_) <|
    .binary .condition <| .binary (.membership fun _ => .rfl) .condition⟩
  simp only [List.mem_cons, List.not_mem_nil, or_false]
  tauto

end Sql
end FilterQuery
