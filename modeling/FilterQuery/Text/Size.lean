namespace FilterQuery.Text

-- The number of bytes of a text in UTF-8.
def size : List Char → Nat
  | [] => 0
  | c :: cs => c.utf8Size + size cs

@[simp]
theorem size_nil : size [] = 0 := rfl

@[simp]
theorem size_cons (c : Char) (cs : List Char) : size (c :: cs) = c.utf8Size + size cs := rfl

@[simp]
theorem size_append (cs ds : List Char) : size (cs ++ ds) = size cs + size ds := by
  induction cs with
  | nil => simp
  | cons c cs ih => simp [ih, Nat.add_assoc]

theorem utf8ByteSize_ofList (cs : List Char) : (String.ofList cs).utf8ByteSize = size cs := by
  induction cs with
  | nil => simp
  | cons c cs ih => simp [ih, String.ofList_cons]

theorem size_toList (text : String) : size text.toList = text.utf8ByteSize := by
  rw [← utf8ByteSize_ofList, String.ofList_toList]

-- The first `n` bytes; none if a character stands across the cut, or the text is too short.
def takeBytes : Nat → List Char → Option (List Char)
  | 0, _ => some []
  | _ + 1, [] => none
  | n + 1, c :: cs =>
    if c.utf8Size ≤ n + 1 then (takeBytes (n + 1 - c.utf8Size) cs).map (c :: ·) else none

-- Leaves out the first `n` bytes; none if a character stands across the cut, or the text is too short.
def dropBytes : Nat → List Char → Option (List Char)
  | 0, cs => some cs
  | _ + 1, [] => none
  | n + 1, c :: cs => if c.utf8Size ≤ n + 1 then dropBytes (n + 1 - c.utf8Size) cs else none

theorem exists_utf8Size_eq (c : Char) : ∃ n, c.utf8Size = n + 1 :=
  Nat.exists_eq_add_one_of_ne_zero (Nat.ne_of_gt c.utf8Size_pos)

@[simp]
theorem takeBytes_size_append (cs ds : List Char) : takeBytes (size cs) (cs ++ ds) = some cs := by
  induction cs with
  | nil => simp [takeBytes]
  | cons c cs ih =>
    obtain ⟨n, hn⟩ := exists_utf8Size_eq c
    rw [size_cons, hn, Nat.add_right_comm, List.cons_append, takeBytes, hn,
      if_pos (by omega), show n + size cs + 1 - (n + 1) = size cs by omega, ih, Option.map_some]

@[simp]
theorem dropBytes_size_append (cs ds : List Char) : dropBytes (size cs) (cs ++ ds) = some ds := by
  induction cs with
  | nil => simp [dropBytes]
  | cons c cs ih =>
    obtain ⟨n, hn⟩ := exists_utf8Size_eq c
    rw [size_cons, hn, Nat.add_right_comm, List.cons_append, dropBytes, hn,
      if_pos (by omega), show n + size cs + 1 - (n + 1) = size cs by omega, ih]

-- A text can only be cut between characters.
theorem dropBytes_eq_some_iff : dropBytes n cs = some ds ↔ ∃ before, cs = before ++ ds ∧ n = size before := by
  constructor
  case mp =>
    intro h
    induction cs generalizing n <;> cases n
    case nil.zero | cons.zero =>
      cases h
      exact ⟨[], rfl, rfl⟩
    case nil.succ => cases h
    case cons.succ c cs ih n =>
      rw [dropBytes] at h
      split at h
      case isTrue =>
        obtain ⟨before, rfl, hn⟩ := ih h
        exact ⟨c :: before, rfl, by rw [size_cons]; omega⟩
      case isFalse => cases h
  case mpr =>
    rintro ⟨before, rfl, rfl⟩
    exact dropBytes_size_append ..

-- `é` takes two bytes.
example : dropBytes 1 ['é'] = none := rfl

end FilterQuery.Text
