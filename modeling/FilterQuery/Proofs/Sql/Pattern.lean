import FilterQuery.Proofs.Sql.Lowering
import FilterQuery.Proofs.Sql.Truth
import Mathlib.Data.List.Infix

namespace FilterQuery.Sql

inductive Piece
  -- any string
  | any
  -- any one character
  | one
  | char (c : Char)
  deriving DecidableEq

-- The pieces of a pattern in which a backslash makes the next character stand for itself. It must not be the last.
def pieces? : List Char → Option (List Piece)
  | [] => some []
  | ['\\'] => none
  | '\\' :: c :: cs => (pieces? cs).map (.char c :: ·)
  | '%' :: cs => (pieces? cs).map (.any :: ·)
  | '_' :: cs => (pieces? cs).map (.one :: ·)
  | c :: cs => (pieces? cs).map (.char c :: ·)

inductive Matches : List Piece → List Char → Prop
  | nil : Matches [] []
  | any (skipped : List Char) : Matches ps cs → Matches (.any :: ps) (skipped ++ cs)
  | one : Matches ps cs → Matches (.one :: ps) (c :: cs)
  | char : Matches ps cs → Matches (.char c :: ps) (c :: cs)

-- Tries every end of a text behind a piece that matches any string.
def accepts : List Piece → List Char → Bool
  | [], cs => cs.isEmpty
  | .any :: ps, cs => cs.tails.any (accepts ps)
  | .one :: ps, _ :: cs => accepts ps cs
  | .char d :: ps, c :: cs => c == d && accepts ps cs
  | _, [] => false

-- The columns have a text, and LIKE is that of SQL.
def Comparisons.ofText (holds : Relation → α → Literal → Bool) (text : α → String) : Comparisons α where
  holds := holds
  like a pattern := (pieces? pattern.toList).any (accepts · (text a).toList)

namespace Matches

theorem nil_iff : Matches [] cs ↔ cs = [] :=
  ⟨fun (.nil) => rfl, fun h => h ▸ .nil⟩

theorem any_iff : Matches (.any :: ps) cs ↔ ∃ left, left <:+ cs ∧ Matches ps left := by
  constructor
  case mp  => intro (.any skipped h); exact ⟨_, List.suffix_append .., h⟩
  case mpr => rintro ⟨left, ⟨skipped, rfl⟩, h⟩; exact .any skipped h

theorem one_iff : Matches (.one :: ps) cs ↔ ∃ c left, cs = c :: left ∧ Matches ps left := by
  constructor
  case mp  => intro (.one h); exact ⟨_, _, rfl, h⟩
  case mpr => rintro ⟨c, left, rfl, h⟩; exact .one h

theorem char_iff : Matches (.char c :: ps) cs ↔ ∃ left, cs = c :: left ∧ Matches ps left := by
  constructor
  case mp  => intro (.char h); exact ⟨_, rfl, h⟩
  case mpr => rintro ⟨left, rfl, h⟩; exact .char h

theorem chars_iff : Matches (word.map .char ++ ps) cs ↔ ∃ left, cs = word ++ left ∧ Matches ps left := by
  induction word generalizing cs
  case nil => simp
  case cons ih =>
    simp only [List.map_cons, List.cons_append, char_iff, ih]
    constructor
    case mp  => rintro ⟨_, rfl, left, rfl, h⟩; exact ⟨left, rfl, h⟩
    case mpr => rintro ⟨left, rfl, h⟩; exact ⟨_, rfl, left, rfl, h⟩

theorem accepts_iff : accepts ps cs ↔ Matches ps cs := by
  induction ps generalizing cs
  case nil => simp [accepts, nil_iff]
  case cons p ps ih =>
    cases p
    case any  => simp [accepts, any_iff, ih, List.mem_tails]
    case one  => cases cs <;> simp [accepts, one_iff, ih]
    case char => cases cs <;> simp [accepts, char_iff, ih, and_assoc]

-- With any string before it and behind it, a word is matched where it stands.
theorem infix_iff : Matches (.any :: word.map .char ++ [.any]) cs ↔ word <:+: cs := by
  rw [List.cons_append, any_iff]
  constructor
  case mp =>
    rintro ⟨_, ⟨before, rfl⟩, h⟩
    obtain ⟨after, rfl, _⟩ := chars_iff.mp h
    exact ⟨before, after, List.append_assoc ..⟩
  case mpr =>
    rintro ⟨before, after, rfl⟩
    rw [List.append_assoc]
    have ha : Matches [.any] (after ++ []) := .any after .nil
    exact ⟨_, List.suffix_append .., chars_iff.mpr ⟨_, rfl, List.append_nil after ▸ ha⟩⟩

end Matches

-- The characters that mean more than themselves in a pattern.
def specials : List Char := ['\\', '%', '_']

-- Every character is escaped by itself, for no replacement touches what an earlier one has put in.
theorem escapePattern_eq (cs : List Char) :
    escapePattern cs = cs.flatMap fun c => if c ∈ specials then ['\\', c] else [c] := by
  simp only [escapePattern, escapeEach, List.flatMap_assoc]
  congr 1
  funext c
  by_cases hb : c = '\\'
  case pos => simp [hb, specials]
  case neg =>
    by_cases hp : c = '%'
    case pos => simp [hp, specials]
    case neg => simp [hb, hp, specials]

theorem pieces?_plain (hc : c ∉ specials) (cs : List Char) : pieces? (c :: cs) = (pieces? cs).map (.char c :: ·) := by
  simp only [specials, List.mem_cons, List.not_mem_nil, or_false, not_or] at hc
  rw [pieces?]
  all_goals simp_all

-- Escaped, a word is one of plain characters in front of any pattern.
theorem pieces?_escapePattern (word cs : List Char) :
    pieces? (escapePattern word ++ cs) = (pieces? cs).map (word.map .char ++ ·) := by
  rw [escapePattern_eq]
  induction word
  case nil => simp
  case cons c word ih =>
    rw [List.flatMap_cons, List.append_assoc]
    by_cases hc : c ∈ specials
    case pos => simp [hc, pieces?, ih]; rfl
    case neg => simp [hc, pieces?_plain hc, ih]; rfl

theorem pieces?_containsPattern (word : String) :
    pieces? (containsPattern word).toList = some (.any :: word.toList.map .char ++ [.any]) := by
  rw [containsPattern, String.toList_ofList, List.cons_append, pieces?, pieces?_escapePattern]
  rfl

variable {α : Type} {holds : Relation → α → Literal → Bool} {text : α → String}

theorem like_containsPattern (word : String) (a : α) :
    (Comparisons.ofText holds text).like a (containsPattern word) = decide (word.toList <:+: (text a).toList) := by
  rw [Bool.eq_iff_iff, decide_eq_true_iff, ← Matches.infix_iff, ← Matches.accepts_iff]
  simp [Comparisons.ofText, pieces?_containsPattern]

theorem Truth.known_eq_yes_iff {ask : α → Bool} : known ask a = yes ↔ ∃ b, a = some b ∧ ask b := by
  cases a
  case none   => simp [known]
  case some b => cases h : ask b <;> simp [known, ofBool, h]

-- The pattern for a word is well-formed, and matches just those texts that the word is a part of; so a search selects
-- the rows in which it is, whatever its characters mean in patterns.
theorem containsPattern_exact (word : String) (table : Table) (field : String)
    (holds : Relation → α → Literal → Bool) (text : α → String) :
    (∃ pieces, pieces? (containsPattern word).toList = some pieces ∧
      ∀ s : String, Matches pieces s.toList ↔ word.toList <:+: s.toList) ∧
    ∀ v : Value, v.text = word → v.kind ≠ .null → v.kind ≠ .function →
      ∃ p, toPredicate table (.condition { field } .contains v) = .ok p ∧
        ∀ row, p.truth (.ofText holds text) row = .yes ↔
          ∃ a, row (table.column field) = some a ∧ word.toList <:+: (text a).toList := by
  refine ⟨⟨_, pieces?_containsPattern word, fun _ => Matches.infix_iff⟩, ?_⟩
  rintro v rfl hn hf
  refine ⟨_, toPredicate_eq_ok_iff.mpr <| .contains hn hf, fun row => ?_⟩
  simp only [Predicate.truth, Truth.known_eq_yes_iff, like_containsPattern, decide_eq_true_iff]

-- Unescaped, the percent sign would match `00 ` and the underscore `o`.
theorem containsPattern_exact_percent :
    let v : Value := .string "5%_f"
    let S : Comparisons String := .ofText (fun _ _ _ => false) id
    v.kind ≠ .null ∧ v.kind ≠ .function ∧
    ∃ p, toPredicate { name := "goods" } (.condition { field := "label" } .contains v) = .ok p ∧
      p.truth S (fun _ => some "now 5%_ff") = .yes ∧ p.truth S (fun _ => some "500 off") ≠ .yes := by
  intro v S
  have hn : v.kind ≠ .null := by decide
  have hf : v.kind ≠ .function := by decide
  have hc := (containsPattern_exact v.text { name := "goods" } "label" (fun _ _ _ => false) id).2
  have ⟨p, hp, hrow⟩ := hc v rfl hn hf
  refine ⟨hn, hf, p, hp, (hrow _).mpr ⟨_, rfl, by decide +kernel⟩, fun h => ?_⟩
  obtain ⟨_, ha, hi⟩ := (hrow _).mp h
  cases Option.some.inj ha
  exact absurd hi (by decide +kernel)

end FilterQuery.Sql
