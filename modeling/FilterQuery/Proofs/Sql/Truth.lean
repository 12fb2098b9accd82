import FilterQuery.Sql.Predicate

namespace FilterQuery.Sql

inductive Truth
  | no
  | unknown
  | yes
  deriving DecidableEq

namespace Truth

def ofBool (b : Bool) : Truth :=
  if b then yes else no

def not : Truth → Truth
  | no => yes
  | unknown => unknown
  | yes => no

def and : Truth → Truth → Truth
  | no, _ | _, no => no
  | yes, yes => yes
  | _, _ => unknown

def or : Truth → Truth → Truth
  | yes, _ | _, yes => yes
  | no, no => no
  | _, _ => unknown

def join : Connective → Truth → Truth → Truth
  | .and => and
  | .or => or

theorem or_ofBool (a b : Bool) : (ofBool a).or (ofBool b) = ofBool (a || b) := by
  cases a <;> cases b <;> rfl

end Truth

-- How the values of a column compare with literals, and which patterns they match.
structure Comparisons (α : Type) where
  holds : Relation → α → Literal → Bool
  like : α → String → Bool

variable {α : Type} (S : Comparisons α)

-- Nothing is known of NULL.
def Truth.known (ask : α → Bool) : Option α → Truth
  | none => unknown
  | some a => ofBool (ask a)

-- A row has NULL in those columns for which there is `none`.
def Predicate.truth (row : String → Option α) : Predicate → Truth
  | compare column relation value => .known (S.holds relation · value) (row column)
  | like column pattern => .known (S.like · pattern) (row column)
  | isNull column => .ofBool (row column).isNone
  | isNotNull column => .ofBool (row column).isSome
  | among column values =>
    (values.map fun value => .known (S.holds .eq · value) (row column)).foldr .or .no
  | constant b => .ofBool b
  | binary left op right => .join op (left.truth row) (right.truth row)
  | not p => (p.truth row).not

variable {S}

theorem Predicate.truth_among_null (hr : row name = none) (hl : ls ≠ []) :
    (among name ls).truth S row = .unknown := by
  induction ls
  case nil => contradiction
  case cons l ls ih =>
    rw [truth, hr] at ih ⊢
    by_cases h : ls = []
    case pos => simp [h, Truth.known, Truth.or]
    case neg => rw [List.map_cons, List.foldr_cons, ih h]; rfl

theorem Predicate.truth_among_value (hr : row name = some a) :
    (among name ls).truth S row = .ofBool (ls.any (S.holds .eq a)) := by
  induction ls
  case nil     => rfl
  case cons ih =>
    simp only [truth, hr, Truth.known] at ih
    simp [truth, hr, Truth.known, ih, Truth.or_ofBool]

end FilterQuery.Sql
