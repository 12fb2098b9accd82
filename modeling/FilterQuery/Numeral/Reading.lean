import FilterQuery.Numeral.Double

namespace FilterQuery

attribute [local instance (high + 1)] instPowNat

namespace Numeral

-- The value of a run of decimal digits.
def natOfDigits (digits : List Char) : Nat :=
  Nat.ofDigitChars 10 digits 0

def isDigits (cs : List Char) : Bool :=
  !cs.isEmpty && cs.all Char.isDigit

-- Takes a sign off the front; `true` for a minus.
def splitSign : List Char → Bool × List Char
  | '-' :: cs => (true, cs)
  | '+' :: cs => (false, cs)
  | cs => (false, cs)

-- An optional sign and digits.
def int? (cs : List Char) : Option Int :=
  let (negative, digits) := splitSign cs
  if isDigits digits then
    some (if negative then -(natOfDigits digits : Int) else natOfDigits digits)
  else none

-- The integers that fit into 64 bits.
def int64? (s : String) : Option Int :=
  (int? s.toList).filter fun n => -2 ^ (63 : Nat) ≤ n && n < 2 ^ (63 : Nat)

end Numeral

namespace Double

open Numeral

-- The number nearest to `digits * 10 ^ exponent`. An exponent so large or so small that only infinity or
-- zero can be nearest is cut to one that is just as far out, so that the powers stay small.
def ofDecimal (negative : Bool) (digits : List Char) (exponent : Int) : Double :=
  let least : Int := -(digits.length + 330)
  let exponent : Int := max least (min exponent 330)
  let num := natOfDigits digits * one * 10 ^ exponent.toNat
  .signed negative (nearestRank num (10 ^ (-exponent).toNat)) (nearestRank_le_infinityRank ..)

-- The exponent part: nothing, or `e` and an integer.
def exponent? : List Char → Option Int
  | [] => some 0
  | c :: cs => if c = 'e' ∨ c = 'E' then int? cs else none

-- The part after the digits of a whole number: `.` and digits, then what follows.
def splitFraction : List Char → List Char × List Char
  | '.' :: cs => (cs.takeWhile Char.isDigit, cs.dropWhile Char.isDigit)
  | cs => ([], cs)

-- Digits with a decimal point anywhere among them or none, then an optional exponent.
def readDecimal? (negative : Bool) (cs : List Char) : Option Double :=
  let whole := cs.takeWhile Char.isDigit
  let (fraction, rest) := splitFraction (cs.dropWhile Char.isDigit)
  if whole.isEmpty && fraction.isEmpty then none
  else (exponent? rest).map fun e => ofDecimal negative (whole ++ fraction) (e - fraction.length)

-- Reads a decimal number, or one of the words for infinity and `nan` in any case.
def read? (s : String) : Option Double :=
  let (negative, body) := splitSign s.toList
  let word := String.ofList (body.map Char.toLower)
  if word = "inf" ∨ word = "infinity" then
    some (.signed negative infinityRank (Nat.le_refl _))
  else if word = "nan" then some .nan
  else readDecimal? negative body

end Double
end FilterQuery
