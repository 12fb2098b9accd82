namespace FilterQuery

-- Powers are those of the core library, also where a monoid of the numbers is in scope.
attribute [local instance (high + 1)] instPowNat

namespace Double

-- The finite numbers of one sign are ranked from zero upwards, so a rank is the bit pattern without its sign. Every
-- finite number is a multiple of 2 ^ -1074, and `units` counts that multiple.
def infinityRank : Nat := 2047 * 2 ^ (52 : Nat)

-- How many powers of two lie between the last digit of the number and 2 ^ -1074.
def scale (rank : Nat) : Nat := rank / 2 ^ (52 : Nat) - 1

def significand (rank : Nat) : Nat := rank - scale rank * 2 ^ (52 : Nat)

def units (rank : Nat) : Nat := significand rank * 2 ^ scale rank

-- The quotient rounded to an integer, an exact half to the even neighbour.
def roundQuotient (num den : Nat) : Nat :=
  let q := num / den
  let r := num % den
  if 2 * r < den then q
  else if 2 * r > den then q + 1
  else q + q % 2

-- The rank of the number nearest to `num / den` units.
def nearestRank (num den : Nat) : Nat :=
  let scale := Nat.log2 (num / den) - 52
  min infinityRank (scale * 2 ^ (52 : Nat) + roundQuotient num (den * 2 ^ scale))

theorem nearestRank_le_infinityRank (num den : Nat) : nearestRank num den ≤ infinityRank :=
  Nat.min_le_left ..

-- The units in one.
def one : Nat := 2 ^ (1074 : Nat)

def ofNatRank (n : Nat) : Nat := nearestRank (n * one) 1

def mulRank (a b : Nat) : Nat := nearestRank (units a * units b) one

def divRank (a b : Nat) : Nat := nearestRank (units a * one) (units b)

end Double

inductive Double
  | nan
  | signed (negative : Bool) (rank : Nat) (rank_le : rank ≤ Double.infinityRank)
  deriving DecidableEq

namespace Double

def zero : Double := .signed false 0 (Nat.zero_le _)

instance : Inhabited Double := ⟨zero⟩

def isFinite : Double → Bool
  | nan => false
  | signed _ rank _ => rank < infinityRank

-- Numerical equality: no number equals `nan`, and the two zeros are equal.
def equals : Double → Double → Bool
  | signed n₁ r₁ _, signed n₂ r₂ _ => r₁ == r₂ && (n₁ == n₂ || r₁ == 0)
  | _, _ => false

theorem equals_self {x : Double} (h : x.isFinite) : x.equals x := by
  cases x with
  | nan => simp [isFinite] at h
  | signed n r hr => simp [equals]

end Double
end FilterQuery
