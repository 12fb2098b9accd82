namespace FilterQuery.Text

-- Whether the code point is in one of the ranges, both ends included.
def inRanges (ranges : List (Nat × Nat)) (c : Char) : Bool :=
  ranges.any fun (first, last) => first ≤ c.toNat && c.toNat ≤ last

end FilterQuery.Text
