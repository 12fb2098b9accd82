import FilterQuery.Numeral.Double

namespace FilterQuery.Double

attribute [local instance (high + 1)] instPowNat

-- The number `digits * 10 ^ exponent`.
structure Decimal where
  digits : Nat
  exponent : Int
  deriving DecidableEq, Repr

-- Which of two equally near decimals is taken.
inductive Tie
  | up
  | even
  deriving DecidableEq

namespace Shortest

-- Every number other than zero has a digit among its first 340 decimals.
def places : Nat := 340

-- The number of a rank as a count of `10 ^ -places`, cut to an integer.
def scaled (rank : Nat) : Nat :=
  units rank * 10 ^ places / one

-- Holds when `count * 10 ^ (power - places)` reads as the number of this rank.
def readsBack (rank count power : Nat) : Bool :=
  nearestRank (count * 10 ^ power * one) (10 ^ places) == rank

-- Of the two neighbours `count` and `count + 1` on a grid, the one nearer to the number.
def nearer (tie : Tie) (rank count power : Nat) : Nat :=
  let twice := 2 * units rank * 10 ^ places
  let middle := (2 * count + 1) * 10 ^ power * one
  if twice < middle then count
  else if twice > middle then count + 1
  else match tie with
    | .up => count + 1
    | .even => count + count % 2

-- The point of the grid `10 ^ (power - places)` that reads back and is nearest.
def onGrid? (tie : Tie) (rank power : Nat) : Option Decimal :=
  let below := scaled rank / 10 ^ power
  let chosen :=
    match readsBack rank below power, readsBack rank (below + 1) power with
    | true, true => some (nearer tie rank below power)
    | true, false => some below
    | false, true => some (below + 1)
    | false, false => none
  chosen.map fun count => ⟨count, (power : Int) - places⟩

-- All the digits of the number.
def exact (rank : Nat) : Decimal :=
  ⟨units rank * 5 ^ (1074 : Nat), -1074⟩

-- Moves the zeros at the end of the digits into the exponent.
def stripZeros (digits : Nat) (exponent : Int) : Decimal :=
  if h : digits ≠ 0 ∧ digits % 10 = 0 then
    stripZeros (digits / 10) (exponent + 1)
  else ⟨digits, exponent⟩
termination_by digits
decreasing_by omega

-- The coarsest of the grids of 1 to 17 digits that holds a decimal which reads back.
def decimal (tie : Tie) (rank : Nat) : Decimal :=
  let length := (Nat.toDigits 10 (scaled rank)).length
  let found := (List.range 17).findSome? fun n => onGrid? tie rank (length - (n + 1))
  let d := found.getD (exact rank)
  stripZeros d.digits d.exponent

end Shortest

-- How the digits of a number are set out.
structure Layout where
  -- the exponents of the first digit for which no exponent is written; none: for all
  positional : Option (Int × Int)
  -- whether a whole number without exponent ends in ".0"
  wholePoint : Bool
  -- whether an exponent that is not negative has a sign
  plusSign : Bool
  tie : Tie

namespace Layout

-- Never an exponent, nothing after a whole number.
def plain : Layout := ⟨none, false, false, .up⟩

-- An exponent below 10 ^ -4 and from 10 ^ 16 on.
def debug : Layout := ⟨some (-4, 15), true, false, .up⟩

-- An exponent below 10 ^ -5 and from 10 ^ 16 on, with a sign.
def json : Layout := ⟨some (-5, 15), true, true, .even⟩

def zeros (n : Nat) : List Char := List.replicate n '0'

-- Digits with the decimal point after the first `point` of them.
def positionalDigits (layout : Layout) (digits : List Char) (point : Int) : List Char :=
  if point ≤ 0 then
    '0' :: '.' :: zeros (-point).toNat ++ digits
  else if point < digits.length then
    digits.take point.toNat ++ '.' :: digits.drop point.toNat
  else
    digits ++ zeros (point.toNat - digits.length) ++ (if layout.wholePoint then ['.', '0'] else [])

def exponentDigits (layout : Layout) (digits : List Char) (exponent : Int) : List Char :=
  let mantissa := match digits with
    | [] => []
    | [d] => [d]
    | d :: ds => d :: '.' :: ds
  let sign := if exponent < 0 then ['-'] else if layout.plusSign then ['+'] else []
  mantissa ++ 'e' :: sign ++ Nat.toDigits 10 exponent.natAbs

-- The text of a finite number without its sign.
def magnitude (layout : Layout) (rank : Nat) : List Char :=
  if rank = 0 then
    '0' :: (if layout.wholePoint then ['.', '0'] else [])
  else
    let d := Shortest.decimal layout.tie rank
    let digits := Nat.toDigits 10 d.digits
    let point := digits.length + d.exponent
    match layout.positional with
    | none => layout.positionalDigits digits point
    | some (low, high) =>
      if low ≤ point - 1 ∧ point - 1 ≤ high then layout.positionalDigits digits point
      else layout.exponentDigits digits (point - 1)

def text (layout : Layout) : Double → String
  | .nan => "NaN"
  | .signed negative rank _ =>
    let body := if rank < infinityRank then .ofList (layout.magnitude rank) else "inf"
    if negative then "-" ++ body else body

end Layout

-- The shortest decimal text that reads back, without an exponent.
def toText (x : Double) : String := Layout.plain.text x

end FilterQuery.Double
