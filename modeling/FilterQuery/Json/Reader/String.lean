import FilterQuery.Json.Reader

namespace FilterQuery.Json.Reader

def hexValue? (c : Char) : Option Nat :=
  if c.isDigit then some (c.toNat - '0'.toNat)
  else if 'a' ≤ c ∧ c ≤ 'f' then some (c.toNat - 'a'.toNat + 10)
  else if 'A' ≤ c ∧ c ≤ 'F' then some (c.toNat - 'A'.toNat + 10)
  else none

def hexUnit? (a b c d : Char) : Option Nat := do
  let a ← hexValue? a
  let b ← hexValue? b
  let c ← hexValue? c
  let d ← hexValue? d
  return ((a * 16 + b) * 16 + c) * 16 + d

-- Why the four bytes that should be hexadecimal digits are not.
def hexFault (cs : List Char) (offset : Nat) : Fault :=
  if Text.size cs < 4 then ⟨.endOfString, offset + Text.size cs⟩ else ⟨.invalidEscape, offset + 4⟩

def isHighSurrogate (n : Nat) : Bool := 0xD800 ≤ n && n ≤ 0xDBFF

def isLowSurrogate (n : Nat) : Bool := 0xDC00 ≤ n && n ≤ 0xDFFF

-- What the character after a backslash stands for, `u` apart.
def simpleEscape? : Char → Option Char
  | '"' => some '"'
  | '\\' => some '\\'
  | '/' => some '/'
  | 'b' => some '\x08'
  | 'f' => some '\x0c'
  | 'n' => some '\n'
  | 'r' => some '\r'
  | 't' => some '\t'
  | _ => none

-- Strict reading wants the two halves of a surrogate pair side by side, lax reading takes any four hexadecimal digits.
-- The inside of a string and the place behind its closing quote.
def inside (rigour : Rigour) (offset : Nat) : List Char → Except Fault (List Char × Cursor)
  | [] => .error ⟨.endOfString, offset⟩
  | '"' :: cs => .ok ([], ⟨cs, offset + 1⟩)
  | ['\\'] => .error ⟨.endOfString, offset + 1⟩
  | '\\' :: 'u' :: a :: b :: c :: d :: cs =>
    match hexUnit? a b c d with
    | none => .error (hexFault (a :: b :: c :: d :: cs) (offset + 2))
    | some n =>
      if rigour = .lax ∨ !(isHighSurrogate n || isLowSurrogate n) then do
        let (text, rest) ← inside rigour (offset + 6) cs
        return (Char.ofNat n :: text, rest)
      else if isLowSurrogate n then .error ⟨.loneSurrogate, offset + 6⟩
      else
        match cs with
        | [] => .error ⟨.endOfString, offset + 6⟩
        | ['\\'] => .error ⟨.endOfString, offset + 7⟩
        | '\\' :: 'u' :: a :: b :: c :: d :: cs =>
          match hexUnit? a b c d with
          | none => .error (hexFault (a :: b :: c :: d :: cs) (offset + 8))
          | some m =>
            if isLowSurrogate m then do
              let (text, rest) ← inside rigour (offset + 12) cs
              return (Char.ofNat (0x10000 + (n - 0xD800) * 0x400 + (m - 0xDC00)) :: text, rest)
            else .error ⟨.loneSurrogate, offset + 12⟩
        | '\\' :: 'u' :: cs => .error (hexFault cs (offset + 8))
        | '\\' :: _ => .error ⟨.missingSurrogate, offset + 8⟩
        | _ => .error ⟨.missingSurrogate, offset + 7⟩
  | '\\' :: 'u' :: cs => .error (hexFault cs (offset + 2))
  | '\\' :: c :: cs =>
    match simpleEscape? c with
    | none => .error ⟨.invalidEscape, offset + 2⟩
    | some e => do
      let (text, rest) ← inside rigour (offset + 2) cs
      return (e :: text, rest)
  | c :: cs =>
    if c.toNat < 0x20 then .error ⟨.controlCharacter, offset + 1⟩
    else do
      let (text, rest) ← inside rigour (offset + c.utf8Size) cs
      return (c :: text, rest)

-- A string, from its opening quote on.
def string (rigour : Rigour) : Reader String := do
  skipChar
  let c ← get
  match inside rigour c.offset c.rest with
  | .error fault => throw fault
  | .ok (text, rest) =>
    set rest
    return .ofList text

end FilterQuery.Json.Reader
