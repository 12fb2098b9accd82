import FilterQuery.Proofs.RoundTrip

namespace FilterQuery
namespace Expr

-- How many expressions the longest path leads through.
def height : Expr → Nat
  | condition .. | membership .. | boolean _ => 1
  | binary left _ right => max left.height right.height + 1
  | not e | paren e => e.height + 1

-- The height when a chain counts once, as for a walk that follows the left operands in a loop.
def levels : Expr → Nat
  | condition .. | membership .. | boolean _ => 1
  | binary left _ right => max left.levels (right.levels + 1)
  | not e | paren e => e.levels + 1

-- How many ANDs and ORs there are.
def connectives : Expr → Nat
  | condition .. | membership .. | boolean _ => 0
  | binary left _ right => left.connectives + right.connectives + 1
  | not e | paren e => e.connectives

theorem height_le (e : Expr) : e.height ≤ e.nesting + e.connectives + 1 := by
  induction e
  case condition   => exact Nat.le_refl _
  case membership  => exact Nat.le_refl _
  case binary l _ r ihl ihr =>
    simp only [height, nesting, connectives]
    omega
  case not e ih    => simp only [height, nesting, connectives]; omega
  case paren e ih  => simp only [height, nesting, connectives]; omega
  case boolean     => exact Nat.le_refl _

-- An operand of NOT has no operator, a part of AND no OR: between two NOTs or parentheses there is one chain of
-- each at most.
theorem levels_le {e : Expr} (h : e.Layered) :
    e.levels ≤ 3 * e.nesting + 3 ∧ (¬e.isOr → e.levels ≤ 3 * e.nesting + 2) ∧
      (¬e.isBinary → e.levels ≤ 3 * e.nesting + 1) := by
  induction e
  case condition  => simp [levels, nesting]
  case membership => simp [levels, nesting]
  case boolean    => simp [levels, nesting]
  case binary l op r ihl ihr =>
    cases op
    case or =>
      obtain ⟨hl, hr, ho⟩ := h
      have hl := (ihl hl).1
      have hr := (ihr hr).2.1 ho
      refine ⟨?_, (absurd rfl ·), (absurd rfl ·)⟩
      simp only [levels, nesting]
      omega
    case and =>
      obtain ⟨hl, hr, ho, hb⟩ := h
      have hl := (ihl hl).2.1 ho
      have hr := (ihr hr).2.2 hb
      have hn : (binary l .and r).levels ≤ 3 * (binary l .and r).nesting + 2 := by
        simp only [levels, nesting]
        omega
      exact ⟨Nat.le_succ_of_le hn, fun _ => hn, (absurd rfl ·)⟩
  case not e ih =>
    have h := (ih h.1).2.2 h.2
    simp only [levels, nesting]
    omega
  case paren e ih =>
    have h := (ih h).1
    simp only [levels, nesting]
    omega

-- `true AND … AND true` with `n` connectives.
def conjunctions : Nat → Expr
  | 0 => boolean true
  | n + 1 => binary (conjunctions n) .and (boolean true)

theorem height_conjunctions (n : Nat) : (conjunctions n).height = n + 1 := by
  induction n
  case zero    => rfl
  case succ ih => simp [conjunctions, height, ih]

theorem wellFormed_conjunctions (n : Nat) : (conjunctions n).WellFormed := by
  induction n
  case zero => exact ⟨trivial, Nat.zero_le _, List.forall_mem_nil _, List.forall_mem_nil _⟩
  case succ n ih =>
    have ho : ¬(conjunctions n).isOr := by cases n <;> simp [conjunctions, isOr]
    have ⟨hl, hs, ha, hv⟩ := ih
    refine ⟨⟨hl, trivial, ho, nofun⟩, ?shallow, ?accessors, ?values⟩
    case shallow   => simpa [conjunctions, nesting] using hs
    case accessors => simpa [conjunctions, accessors] using ha
    case values    => simpa [conjunctions, values] using hv

end Expr

-- Chains make trees as high as one likes.
theorem height_unbounded :
    ¬∃ bound, ∀ text context config e, parse text context config = .ok (some e) → e.height ≤ bound := by
  intro ⟨bound, h⟩
  have hp : parse (Expr.conjunctions bound).canonical = .ok (some (.conjunctions bound)) :=
    parse_canonical (Expr.wellFormed_conjunctions bound) fun v _ => v.unresolved_none
  have hle := h _ none none _ hp
  rw [Expr.height_conjunctions] at hle
  exact Nat.not_succ_le_self bound hle

-- All of the height comes from chains, beyond what NOT and parentheses may add to it.
theorem height_le_of_parse (text : String) (context : Option Context) (config : Option Config) (e : Expr)
    (h : parse text context config = .ok (some e)) :
    e.levels ≤ 3 * maxDepth + 3 ∧ e.height ≤ maxDepth + e.connectives + 1 := by
  have hw := wellFormed_of_parse h
  have hl := (Expr.levels_le hw.layered).1
  have hh := e.height_le
  have hn := hw.shallow
  omega

theorem height_le_of_parse_chain :
    let e : Expr := .binary (.binary (.not (.paren (.boolean true))) .and
      (.condition ⟨"a", none⟩ .eq (.number "1"))) .or (.membership ⟨"b", none⟩ [])
    e.levels ≤ 3 * maxDepth + 3 ∧ e.height ≤ maxDepth + e.connectives + 1 := by
  intro e
  exact height_le_of_parse "NOT (true) AND a = 1 OR b IN []" none none e (by decide +kernel)

end FilterQuery
