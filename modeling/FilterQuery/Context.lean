import FilterQuery.Expr.Basic
import FilterQuery.Json.Basic

namespace FilterQuery

-- At most one value for each call, which is known by its text, brackets included.
structure Context where
  bindings : List (String × Json) := []
  deriving Inhabited

namespace Context

def isEmpty (context : Context) : Bool :=
  context.bindings.isEmpty

def get? (context : Context) (call : String) : Option Json :=
  context.bindings.lookup call

def erase (context : Context) (call : String) : Context :=
  ⟨context.bindings.filter (·.1 != call)⟩

def insert (context : Context) (call : String) (value : Json) : Context :=
  ⟨(call, value) :: (context.erase call).bindings⟩

@[simp]
theorem get?_empty (call : String) : get? ⟨[]⟩ call = none := rfl

@[simp]
theorem get?_insert_self (context : Context) (call : String) (value : Json) :
    (context.insert call value).get? call = some value := by
  simp [get?, insert]

theorem get?_erase (context : Context) (call other : String) :
    (context.erase call).get? other = if other = call then none else context.get? other := by
  simp only [get?, erase]
  induction context.bindings with
  | nil => simp
  | cons b bs ih =>
    obtain ⟨n, v⟩ := b
    by_cases hn : n = call
    case pos =>
      rw [List.filter_cons_of_neg (by simp [hn]), ih]
      by_cases ho : other = call
      case pos => simp [ho]
      case neg => simp [List.lookup_cons, hn, beq_eq_false_iff_ne.2 ho]
    case neg =>
      rw [List.filter_cons_of_pos (by simp [hn])]
      by_cases ho : other = n
      case pos => simp [ho, hn]
      case neg => simp [List.lookup_cons, beq_eq_false_iff_ne.2 ho, ih]

theorem get?_insert (context : Context) (call other : String) (value : Json) :
    (context.insert call value).get? other =
      if other = call then some value else context.get? other := by
  by_cases h : other = call
  · simp [h]
  · simpa [get?, insert, List.lookup_cons, beq_eq_false_iff_ne.2 h, h] using context.get?_erase call other

end Context

-- The literal for a JSON value. Arrays and objects have none of their own and become their text.
def Value.ofJson : Json → Value
  | .null => .null
  | .boolean b => .boolean b
  | .number (.integer n) => .number (toString n)
  | .number (.real x _) => .number x.toText
  | .string s => .string s
  | json => .string json.text

-- The value of a function call, which without a binding stays a call.
def Value.resolve (context : Option Context) (call : String) : Value :=
  match context.bind (·.get? call) with
  | some json => .ofJson json
  | none => .function call

end FilterQuery
