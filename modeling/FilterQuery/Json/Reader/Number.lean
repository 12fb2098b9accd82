import FilterQuery.Json.Reader
import FilterQuery.Numeral.Reading

namespace FilterQuery.Json

attribute [local instance (high + 1)] instPowNat

namespace Number

def maxSignificand : Nat := 2 ^ (64 : Nat) - 1

def maxExponent : Nat := 2 ^ (31 : Nat) - 1

-- The largest power of ten that is finite.
def maxPower : Nat := 308

def powerRank (n : Nat) : Nat := Double.ofNatRank (10 ^ n)

-- Divides by a power of ten, in steps no larger than `maxPower`.
def scaleDown (rank exponent : Nat) : Nat :=
  if rank = 0 then 0
  else if exponent ≤ maxPower then Double.divRank rank (powerRank exponent)
  else scaleDown (Double.divRank rank (powerRank maxPower)) (exponent - maxPower)
termination_by exponent
decreasing_by simp only [maxPower] at *; omega

-- Multiplies by a power of ten; a result that has no power to multiply with is infinite.
def scaleUp (rank exponent : Nat) : Nat :=
  if rank = 0 then 0
  else if exponent ≤ maxPower then Double.mulRank rank (powerRank exponent)
  else Double.infinityRank

def scale (rank : Nat) : Int → Nat
  | .ofNat n => scaleUp rank n
  | .negSucc n => scaleDown rank (n + 1)

-- The number `significand * 10 ^ exponent`, if it is not too large.
def ofParts? (negative : Bool) (significand : Nat) (exponent : Int) : Option Number :=
  let rank := scale (Double.ofNatRank significand) exponent
  if h : rank < Double.infinityRank then
    some (.real (.signed negative rank (Nat.le_of_lt h)) (by simp [Double.isFinite, h]))
  else none

-- Takes digits into the significand while there is room; the others are returned.
def absorb (significand : Nat) : List Char → Nat × List Char
  | [] => (significand, [])
  | d :: ds =>
    let next := 10 * significand + (d.toNat - '0'.toNat)
    if next ≤ maxSignificand then absorb next ds else (significand, d :: ds)

end Number

namespace Reader

open Number

-- At most the digits that fit into 64 bits are used, then the power of ten is multiplied in, so the last bit may be
-- off.
def real (negative : Bool) (significand : Nat) (exponent : Int) : Reader Number :=
  match ofParts? negative significand exponent with
  | some n => return n
  | none => fail .numberOutOfRange

-- How many digits make an exponent overflow.
def overflowLength (value : Nat) : List Char → Option Nat
  | [] => none
  | d :: ds =>
    let next := 10 * value + (d.toNat - '0'.toNat)
    if next ≤ maxExponent then (overflowLength next ds).map (· + 1) else some 1

-- The exponent, from its letter on.
def exponent (negative : Bool) (significand : Nat) (before : Int) : Reader Number := do
  skipChar
  let down ← takeIf (· == '-')
  unless down do discard <| takeIf (· == '+')
  match ← peek? with
  | none => fail .endOfValue
  | some c =>
    if !c.isDigit then failAtNext .invalidNumber
    let start ← get
    let digits ← takeWhile Char.isDigit
    match overflowLength 0 digits with
    | some n =>
      if significand = 0 ∨ down then real negative 0 0
      else throw ⟨.numberOutOfRange, start.offset + n⟩
    | none =>
      let e : Int := Numeral.natOfDigits digits
      real negative significand (if down then before - e else before + e)

def startsExponent (c : Option Char) : Bool :=
  c == some 'e' || c == some 'E'

-- The fraction, from its point on.
def fraction (negative : Bool) (significand : Nat) (before : Int) : Reader Number := do
  skipChar
  let digits ← takeWhile Char.isDigit
  let next ← peek?
  if digits.isEmpty then
    failAtNext (if next.isNone then .endOfValue else .invalidNumber)
  let (significand, unused) := absorb significand digits
  let before := before - (digits.length - unused.length : Nat)
  if startsExponent next then exponent negative significand before
  else real negative significand before

-- A whole number that did not fit: the unused digits count as zeros.
def longInteger (negative : Bool) (significand unused : Nat) : Reader Number := do
  let next ← peek?
  if next = some '.' then fraction negative significand unused
  else if startsExponent next then exponent negative significand unused
  else real negative significand unused

-- What follows a whole number. Minus zero is no integer.
def shortInteger (negative : Bool) (significand : Nat) : Reader Number := do
  let next ← peek?
  if next = some '.' then fraction negative significand 0
  else if startsExponent next then exponent negative significand 0
  else if !negative then return .integer significand
  else if 0 < significand ∧ significand ≤ 2 ^ (63 : Nat) then return .integer (-significand)
  else real negative significand 0

-- A number.
def number : Reader Number := do
  let negative ← takeIf (· == '-')
  match ← peek? with
  | none => fail .endOfValue
  | some '0' =>
    skipChar
    if (← peek?).any Char.isDigit then failAtNext .invalidNumber
    shortInteger negative 0
  | some c =>
    if !c.isDigit then failAtNext .invalidNumber
    let (significand, unused) := absorb 0 (← takeWhile Char.isDigit)
    if unused.isEmpty then shortInteger negative significand
    else longInteger negative significand unused.length

-- One digit or more.
def laxDigits : Reader Unit := do
  if (← takeWhile Char.isDigit).isEmpty then failAtNext .invalidNumber

-- Anything that has the form of a number.
def laxNumber : Reader Unit := do
  discard <| takeIf (· == '-')
  if ← takeIf (· == '0') then
    if (← peek?).any Char.isDigit then failAtNext .invalidNumber
  else laxDigits
  if ← takeIf (· == '.') then laxDigits
  if ← takeIf (fun c => startsExponent (some c)) then
    discard <| takeIf (fun c => c == '+' || c == '-')
    laxDigits

end Reader
end FilterQuery.Json
