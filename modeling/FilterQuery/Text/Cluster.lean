import FilterQuery.Text.ClusterBreak

namespace FilterQuery.Text

-- The end of a text, as far as it matters for what can be joined to it.
structure Tail where
  -- the class of the last character; before the first character a text ends as after a control
  last : ClusterBreak := .control
  -- The regional indicators at the end are odd in number.
  oddRegionals : Bool := false
  -- A pictograph stands at the end, with only extenders after it.
  pictograph : Bool := false
  -- The same with a joiner after them.
  joinedPictograph : Bool := false
  -- A consonant stands at the end, with only extenders and joiners after it that do not part conjuncts.
  consonant : Bool := false
  -- The same with a linker among them.
  linkedConsonant : Bool := false
  deriving DecidableEq, Repr

namespace Tail

-- Extenders and joiners do not part the consonants of a conjunct, but the non-joiner does.
def keepsConjunct (c : Char) : Bool :=
  match ClusterBreak.ofChar c with
  | .extender => c != '\u200c'
  | .joiner => true
  | _ => false

def push (t : Tail) (c : Char) : Tail :=
  let cls := ClusterBreak.ofChar c
  { last := cls
    oddRegionals := cls = .regional && !t.oddRegionals
    pictograph := cls = .pictograph || (t.pictograph && cls = .extender)
    joinedPictograph := t.pictograph && cls = .joiner
    consonant := cls = .consonant || (t.consonant && keepsConjunct c)
    linkedConsonant :=
      t.consonant && keepsConjunct c && (t.linkedConsonant || ClusterBreak.isLinker c) }

-- Whether a character of class `next` goes into the cluster that ends here.
def joins (t : Tail) (next : ClusterBreak) : Bool :=
  match t.last, next with
  | .carriageReturn, .lineFeed => true
  | .carriageReturn, _ | .lineFeed, _ | .control, _ => false
  | _, .carriageReturn | _, .lineFeed | _, .control => false
  | .leadingJamo, .leadingJamo | .leadingJamo, .vowelJamo => true
  | .leadingJamo, .openSyllable | .leadingJamo, .closedSyllable => true
  | .openSyllable, .vowelJamo | .openSyllable, .trailingJamo => true
  | .vowelJamo, .vowelJamo | .vowelJamo, .trailingJamo => true
  | .closedSyllable, .trailingJamo | .trailingJamo, .trailingJamo => true
  | _, .extender | _, .joiner | _, .spacingMark => true
  | .prepended, _ => true
  | _, .consonant => t.linkedConsonant
  | _, .pictograph => t.joinedPictograph
  | _, .regional => t.oddRegionals
  | _, _ => false

end Tail

-- The clusters of `current`, the characters of the cluster at `t` with the last first, and what follows.
def clustersFrom (t : Tail) (current : List Char) : List Char → List (List Char)
  | [] => [current.reverse]
  | c :: cs =>
    if t.joins (.ofChar c) then clustersFrom (t.push c) (c :: current) cs
    else current.reverse :: clustersFrom (t.push c) [c] cs

-- The extended grapheme clusters of Unicode 17.0, which readers take for one character each.
def clusters : List Char → List (List Char)
  | [] => []
  | c :: cs => clustersFrom (Tail.push {} c) [c] cs

end FilterQuery.Text
