import FilterQuery.Proofs.Numeral.Magnitude
import FilterQuery.Proofs.Sql.Grouping

namespace FilterQuery.Sql

open Numeral (Signed)

-- A numeral, or a word that is none of a query.
def Lexeme.number? : Lexeme → Option String
  | numeral text => some text
  | word text => if text ∈ keywords then none else some text
  | _ => none

-- The numbers among lexemes, `negative` behind a minus.
def operandsFrom (negative : Bool) : List Lexeme → List String
  | [] => []
  | x :: xs =>
    match x.number? with
    | some text => (if negative then "-" ++ text else text) :: operandsFrom false xs
    | none => operandsFrom (x = .symbol "-") xs

def operands (xs : List Lexeme) : List String :=
  operandsFrom false xs

-- What is read where a number was meant.
def spelled (text : String) : Lexeme :=
  if isNumeral text.toList then .numeral text else .word (.ofList (text.toList.map Char.toUpper))

def realText (x : Double) : String :=
  if x.isFinite then x.toText else .ofList (x.toText.toList.map Char.toUpper)

def Literal.operands : Literal → List String
  | integer n => [toString n]
  | real x => [realText x]
  | boolean _ | string _ => []

theorem operandsFrom_append (hy : y.number? = none) :
    operandsFrom negative (xs ++ y :: ys) = operandsFrom negative xs ++ operands (y :: ys) := by
  induction xs generalizing negative
  case nil          => simp [operandsFrom, operands, hy]
  case cons x xs ih => cases hx : x.number? <;> simp [operandsFrom, hx, ih]

theorem operands_cons (hx : x.number? = none) (hm : x ≠ .symbol "-") (xs : List Lexeme) :
    operands (x :: xs) = operands xs := by
  simp [operands, operandsFrom, hx, hm]

theorem operands_append (hy : y.number? = none) (hm : y ≠ .symbol "-") :
    operands (xs ++ y :: ys) = operands xs ++ operands ys := by
  rw [operands, operandsFrom_append hy, operands_cons hy hm]
  rfl

theorem operands_parenthesized (xs : List Lexeme) : operands (parenthesized xs) = operands xs := by
  rw [parenthesized, List.cons_append, operands_cons rfl (by decide), operands_append rfl (by decide)]
  exact List.append_nil _

theorem spelled_plain (h : Numeral.Plain cs) : spelled (.ofList cs) = .numeral (.ofList cs) := by
  simp [spelled, isNumeral_plain h]

theorem map_spelled_signed (h : Signed cs) :
    (Constant.ofNumeral cs).lexemes.map (.mapNumeral spelled) = (Constant.ofNumeral cs).lexemes := by
  cases h
  case plus h  => simp [Constant.ofNumeral_plain h, Constant.lexemes, Lexeme.mapNumeral, spelled_plain h]
  case minus h => simp [Constant.ofNumeral, Constant.lexemes, Lexeme.mapNumeral, spelled_plain h]

theorem operands_signed (h : Signed cs) : operands (Constant.ofNumeral cs).lexemes = [.ofList cs] := by
  cases h
  case plus h  => simp [Constant.ofNumeral_plain h, Constant.lexemes, operands, operandsFrom, Lexeme.number?]
  case minus h => simp [Constant.ofNumeral, Constant.lexemes, operands, operandsFrom, Lexeme.number?]

theorem Spells.letters (hc : isWordStart c) (ha : cs.all isWordPart) :
    Spells (c :: cs) [spelled (.ofList (c :: cs))] := by
  have hd : c.isDigit = false := by
    by_contra hd
    exact nomatch hc.symm.trans (isWordStart_of_isDigit (Bool.not_eq_false _ ▸ hd))
  have hs : spelled (.ofList (c :: cs)) = .word (.ofList ((c :: cs).map Char.toUpper)) := by
    simp [spelled, isNumeral, hd, Numeral.isDigits]
  exact hs ▸ .word hc (List.all_eq_true.mp ha)

-- What is no finite number is written in letters.
theorem Spells.real (x : Double) :
    Spells x.toText.toList ((Constant.ofNumeral x.toText.toList).lexemes.map (.mapNumeral spelled)) := by
  cases hf : x.isFinite
  case true =>
    have hs := Double.signed_toText hf
    exact (map_spelled_signed hs).symm ▸ .signed hs
  case false =>
    have hi : Spells ['i', 'n', 'f'] [spelled (.ofList ['i', 'n', 'f'])] := letters rfl (by decide)
    have hn : Spells ['N', 'a', 'N'] [spelled (.ofList ['N', 'a', 'N'])] := letters rfl (by decide)
    rcases Double.eq_of_not_isFinite hf with rfl | ⟨negative, rfl⟩
    case inl => exact hn
    case inr =>
      rw [Double.toText_infinite]
      cases negative
      case false => exact hi
      case true  => exact hi.minus rfl

theorem Spells.literal_spelled (l : Literal) :
    Spells l.text.toList (l.constant.lexemes.map (.mapNumeral spelled)) := by
  cases l
  case boolean b => cases b <;> exact .boolean _
  case integer n =>
    have hs := Numeral.signed_toString n
    exact (map_spelled_signed hs).symm ▸ .signed hs
  case real x    => exact .real x
  case string s  => exact .string s

theorem operands_literal (l : Literal) :
    operands (l.constant.lexemes.map (.mapNumeral spelled)) = l.operands := by
  cases l
  case boolean b => cases b <;> decide
  case integer n =>
    have hs := Numeral.signed_toString n
    rw [Literal.constant, map_spelled_signed hs, operands_signed hs, String.ofList_toList]
    rfl
  case real x =>
    simp only [Literal.constant, Literal.operands, realText]
    split
    case isTrue hf =>
      have hs := Double.signed_toText hf
      rw [map_spelled_signed hs, operands_signed hs, String.ofList_toList]
    case isFalse hf =>
      rcases Double.eq_of_not_isFinite (Bool.not_eq_true _ ▸ hf) with rfl | ⟨negative, rfl⟩
      case inl => decide +kernel
      case inr =>
        rw [Double.toText_infinite]
        cases negative <;> decide +kernel
  case string => rfl

theorem operands_wrapLexemes (bare : Bool) (xs : List Lexeme) :
    operands (Predicate.wrapLexemes bare xs) = operands xs := by
  cases bare
  case false => exact operands_parenthesized xs
  case true  => rfl

theorem operands_literals (ls : List Literal) :
    operands ((commaSeparated (ls.map Literal.constant)).map (.mapNumeral spelled)) =
      ls.flatMap Literal.operands := by
  induction ls
  case nil => rfl
  case cons l ls ih =>
    have hl := operands_literal l
    cases ls
    case nil  => simpa [commaSeparated] using hl
    case cons =>
      have hc : (Lexeme.symbol ",").mapNumeral spelled = .symbol "," := rfl
      simp only [commaSeparated, List.map_cons, List.intercalate_cons_cons, List.map_append, List.append_assoc,
        List.singleton_append] at ih ⊢
      rw [hc, operands_append rfl (by decide), ih, hl]
      rfl

theorem operands_predicate (p : Predicate) :
    operands (p.lexemes.map (.mapNumeral spelled)) = p.literals.flatMap Literal.operands := by
  have hw : ∀ op : Connective, (Lexeme.word op.symbol).number? = none := by rintro ⟨⟩ <;> rfl
  induction p
  case compare _ relation l =>
    have hr : .symbol relation.symbol ≠ Lexeme.symbol "-" := by cases relation <;> decide
    simp only [Predicate.lexemes, List.map_cons, Lexeme.mapNumeral]
    rw [operands_cons rfl (by simp), operands_cons rfl hr, operands_literal]
    exact (List.append_nil _).symm
  case like       => rfl
  case isNull     => rfl
  case isNotNull  => rfl
  case among _ ls =>
    simp only [Predicate.lexemes, List.map_cons, map_parenthesized, Lexeme.mapNumeral]
    rw [operands_cons rfl (by simp), operands_cons rfl (by simp), operands_parenthesized, operands_literals]
    rfl
  case constant b => cases b <;> rfl
  case binary l op r ihl ihr =>
    simp only [Predicate.lexemes, List.map_append, List.map_cons, map_wrapLexemes, Lexeme.mapNumeral]
    rw [operands_append (hw op) (by simp), operands_wrapLexemes, operands_wrapLexemes, ihl, ihr, Predicate.literals,
      List.flatMap_append]
  case not p ih =>
    simp only [Predicate.lexemes, List.map_cons, map_wrapLexemes, Lexeme.mapNumeral]
    rw [operands_cons rfl (by simp), operands_wrapLexemes, ih, Predicate.literals]

end FilterQuery.Sql
