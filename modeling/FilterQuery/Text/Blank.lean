namespace FilterQuery.Text

-- Holds of the 25 characters with the Unicode property White_Space.
def isBlank (c : Char) : Bool :=
  let n := c.toNat
  (9 ≤ n && n ≤ 13) || n == 0x20 || n == 0x85 || n == 0xA0 || n == 0x1680 ||
  (0x2000 ≤ n && n ≤ 0x200A) || n == 0x2028 || n == 0x2029 || n == 0x202F || n == 0x205F ||
  n == 0x3000

def dropBlanks (cs : List Char) : List Char :=
  cs.dropWhile isBlank

def trimChars (cs : List Char) : List Char :=
  (dropBlanks (dropBlanks cs).reverse).reverse

-- Removes the blanks at both ends.
def trim (s : String) : String :=
  .ofList (trimChars s.toList)

-- The text before the first blank and the text after it; a text without a blank has nothing after.
def splitAtBlank (s : String) : String × String :=
  (.ofList (s.toList.takeWhile (!isBlank ·)), .ofList ((s.toList.dropWhile (!isBlank ·)).drop 1))

end FilterQuery.Text
