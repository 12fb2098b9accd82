import FilterQuery.Proofs.Lexer.Calls

namespace FilterQuery

namespace Lexer

open Text (size)

-- A place in a text, as a number of bytes. The text is cut there whenever the cursor looks at it, and a cut inside a
-- character or behind the end of the text is a crash.
structure Cursor where
  input : List Char
  position : Nat := 0
  finished : Bool := false
  -- where the text has been cut so far, the last cut first
  cuts : List Nat := []

namespace Cursor

def ofText (text : String) : Cursor := { input := text.toList }

-- There is no result after a crash, and none of a loop that does not end.
abbrev Action (α : Type) := StateT Cursor Option α

-- The text from here on.
def tail : Action (List Char) := fun c =>
  (Text.dropBytes c.position c.input).map (·, { c with cuts := c.position :: c.cuts })

-- The text from `start` up to here.
def slice (start : Nat) : Action (List Char) := fun c =>
  if start ≤ c.position then
    ((Text.dropBytes start c.input).bind (Text.takeBytes (c.position - start))).map
      (·, { c with cuts := start :: c.position :: c.cuts })
  else none

def place : Action Nat := return (← get).position

-- Moves on by so many bytes, whatever stands there.
def advance (n : Nat) : Action Unit :=
  modify fun c => { c with position := c.position + n }

def peek : Action (Option Char) := return (← tail).head?

def peekNext : Action (Option Char) := return (← tail)[1]?

-- Moves on behind the next character.
def bump : Action (Option Char) := do
  match ← peek with
  | some c =>
    advance c.utf8Size
    return some c
  | none => return none

def bytesLeft (c : Cursor) : Nat := size c.input - c.position

-- Repeats the action until it gives something. A loop that does not move on does not end.
def loop (a : Action (Option α)) : Action α := fun c =>
  match a c with
  | some (some x, c') => some (x, c')
  | some (none, c') => if c'.bytesLeft < c.bytesLeft then loop a c' else none
  | none => none
termination_by c => c.bytesLeft

def skipWhile (p : Char → Bool) : Action Unit := loop do
  match ← peek with
  | some c =>
    if p c then
      discard bump
      return none
    else return some ()
  | none => return some ()

def token (kind : Token.Kind) (start : Nat) : Action Item :=
  return .ok ⟨kind, start, ← place⟩

def fail (cause : ParseError.Cause) (start : Nat) : Action (Except ParseError α) :=
  return .error ⟨cause, start, ← place⟩

-- An operator that is one character longer if `=` follows.
def readPair (single double : Token.Kind) (start : Nat) : Action Item := do
  if (← peek) = some '=' then
    discard bump
    token double start
  else token single start

-- An operator that must be followed by `=`.
def readEquals (c : Char) (kind : Token.Kind) (start : Nat) : Action Item := do
  if (← peek) = some '=' then
    discard bump
    token kind start
  else fail (.incompleteOperator c) start

def readFraction : Action Unit := do
  if (← peek) = some '.' then
    if (← peekNext).any Char.isDigit then
      discard bump
      skipWhile Char.isDigit

def readNumber (start : Nat) : Action Item := do
  skipWhile Char.isDigit
  readFraction
  let text ← slice start
  token (.number (.ofList text)) start

-- Moves on behind the closing quote.
def readInside (start : Nat) : Action (Except ParseError Unit) := loop do
  let escape ← place
  match ← bump with
  | some '"' => return some (.ok ())
  | some '\\' =>
    match ← bump with
    | some c => if isEscape c then return none else some <$> fail (.invalidEscape c) escape
    | none => some <$> fail .unterminatedString start
  | some _ => return none
  | none => some <$> fail .unterminatedString start

def readString (start : Nat) : Action Item := do
  match ← readInside start with
  | .ok () =>
    let raw ← slice start
    token (.string (.ofList raw)) start
  | .error error => return .error error

def readWord (start : Nat) : Action Item := do
  skipWhile isWordChar
  let word ← slice start
  match keyword? (.ofList word) with
  | some kind => token kind start
  | none =>
    if ['(', ')'].isPrefixOf (← tail) then
      advance 2
      let call ← slice start
      token (.function (.ofList call)) start
    else token (.identifier (.ofList word)) start

def readLexeme (c : Char) (start : Nat) : Action Item := do
  match c with
  | '=' => token (.comparison .eq) start
  | '(' => token .openParen start
  | ')' => token .closeParen start
  | '[' => token .openBracket start
  | ']' => token .closeBracket start
  | ',' => token .comma start
  | '<' => readPair (.comparison .lt) (.comparison .le) start
  | '>' => readPair (.comparison .gt) (.comparison .ge) start
  | '!' => readEquals '!' (.comparison .neq) start
  | '~' => readEquals '~' (.comparison .contains) start
  | '-' => if (← peek).any Char.isDigit then readNumber start else fail .missingDigit start
  | '"' => readString start
  | c =>
    if c.isDigit then readNumber start
    else if isWordStart c then readWord start
    else fail (.unexpectedChar c) start

def readItem : Action Item := do
  skipWhile isGap
  let start ← place
  match ← bump with
  | some c => readLexeme c start
  | none => token .eol start

def next : Action (Option Item) := do
  if (← get).finished then return none
  let item ← readItem
  modify ({ · with finished := item.isLast })
  return some item

-- What that many calls give.
def calls : Nat → Action (List (Option Item))
  | 0 => return []
  | n + 1 => do
    let items ← calls n
    return items ++ [← next]

-- The text can be cut at this byte.
def IsCut (cs : List Char) (n : Nat) : Prop :=
  ∃ before after, cs = before ++ after ∧ n = size before

-- The cursor stands between `before` and `after`, and has never cut a character.
structure At (c : Cursor) (before after : List Char) : Prop where
  input    : c.input = before ++ after
  position : c.position = size before
  cuts     : ∀ n ∈ c.cuts, IsCut c.input n

-- Between `before` and `after` the action ends with the result `x`, and the cursor stands between two other parts.
structure Reads (a : Action α) (before after : List Char) (x : α) (before' after' : List Char) : Prop where
  run (c : Cursor) (h : c.At before after) :
    ∃ c', a.run c = some (x, c') ∧ c'.At before' after' ∧ c'.input = c.input ∧ c'.finished = c.finished

theorem At.isCut {c : Cursor} (h : c.At before after) : IsCut c.input c.position :=
  ⟨before, after, h.input, h.position⟩

theorem Reads.pure (x : α) (before after : List Char) : Reads (pure x) before after x before after :=
  ⟨fun c h => ⟨c, rfl, h, rfl, rfl⟩⟩

theorem Reads.bind {a : Action α} {f : α → Action β} (h : Reads a before after x before' after')
    (h' : Reads (f x) before' after' y left right) : Reads (a >>= f) before after y left right := by
  constructor
  intro c hc
  obtain ⟨c', ha, hc', hi, hf⟩ := h.run c hc
  obtain ⟨c'', hb, hc'', hi', hf'⟩ := h'.run c' hc'
  refine ⟨c'', ?_, hc'', hi'.trans hi, hf'.trans hf⟩
  rw [StateT.run_bind, ha]
  exact hb

theorem Reads.map {a : Action α} (f : α → β) (h : Reads a before after x before' after') :
    Reads (f <$> a) before after (f x) before' after' := by
  rw [← bind_pure_comp]
  exact h.bind (.pure ..)

theorem Reads.split {a : Action α} (h : Reads a before after x before' after') :
    before' ++ after' = before ++ after := by
  have ⟨_, _, hc, hi, _⟩ := h.run ⟨before ++ after, size before, false, []⟩ ⟨rfl, rfl, nofun⟩
  exact hc.input.symm.trans hi

theorem Reads.assoc {a : Action α} (h : Reads a before after x (before' ++ ahead ++ more) after') :
    Reads a before after x (before' ++ (ahead ++ more)) after' :=
  List.append_assoc .. ▸ h

theorem reads_tail (before after : List Char) : Reads tail before after after before after := by
  constructor
  intro c h
  refine ⟨{ c with cuts := c.position :: c.cuts }, ?run, ⟨h.input, h.position, ?cuts⟩, rfl, rfl⟩
  case run =>
    have hd := Text.dropBytes_eq_some_iff.mpr ⟨before, h.input, h.position⟩
    simp [StateT.run, tail, hd]
  case cuts => exact List.forall_mem_cons.mpr ⟨h.isCut, h.cuts⟩

theorem reads_slice (before text after : List Char) :
    Reads (slice (size before)) (before ++ text) after text (before ++ text) after := by
  constructor
  intro c h
  have hi : c.input = before ++ (text ++ after) := h.input.trans (List.append_assoc ..)
  refine ⟨{ c with cuts := size before :: c.position :: c.cuts }, ?run, ⟨h.input, h.position, ?cuts⟩, rfl, rfl⟩
  case run => simp [StateT.run, slice, hi, h.position]
  case cuts =>
    have hb : IsCut c.input (size before) := ⟨before, text ++ after, hi, rfl⟩
    exact List.forall_mem_cons.mpr ⟨hb, List.forall_mem_cons.mpr ⟨h.isCut, h.cuts⟩⟩

theorem reads_place (before after : List Char) : Reads place before after (size before) before after :=
  ⟨fun c h => ⟨c, congrArg (fun n => some (n, c)) h.position, h, rfl, rfl⟩⟩

theorem reads_advance (before text after : List Char) :
    Reads (advance (size text)) before (text ++ after) () (before ++ text) after := by
  constructor
  intro c h
  refine ⟨{ c with position := c.position + size text }, rfl, ⟨?input, ?position, h.cuts⟩, rfl, rfl⟩
  case input    => exact h.input.trans (List.append_assoc ..).symm
  case position => rw [h.position, Text.size_append]

theorem reads_peek (before after : List Char) : Reads peek before after after.head? before after :=
  (reads_tail ..).bind (.pure ..)

theorem reads_peekNext (before after : List Char) : Reads peekNext before after after[1]? before after :=
  (reads_tail ..).bind (.pure ..)

theorem reads_bump_nil (before : List Char) : Reads bump before [] none before [] :=
  (reads_peek ..).bind (.pure ..)

theorem reads_bump (before : List Char) (c : Char) (after : List Char) :
    Reads bump before (c :: after) (some c) (before ++ [c]) after :=
  (reads_peek ..).bind <| (reads_advance before [c] after).bind (.pure ..)

theorem reads_skip (before : List Char) (c : Char) (after : List Char) :
    Reads (discard bump) before (c :: after) () (before ++ [c]) after :=
  (reads_bump ..).map _

theorem At.bytesLeft_eq {c : Cursor} (h : c.At before after) : c.bytesLeft = size after := by
  rw [bytesLeft, h.input, h.position, Text.size_append, Nat.add_sub_cancel_left]

theorem run_loop_done {a : Action (Option α)} (h : a.run c = some (some x, c')) :
    (loop a).run c = some (x, c') := by
  replace h : a c = some (some x, c') := h
  rw [StateT.run, loop, h]

theorem run_loop_next {a : Action (Option α)} (h : a.run c = some (none, c')) (hl : c'.bytesLeft < c.bytesLeft) :
    (loop a).run c = (loop a).run c' := by
  replace h : a c = some (none, c') := h
  rw [StateT.run, loop, h]
  exact if_pos hl

theorem Reads.loop_done {a : Action (Option α)} (h : Reads a before after (some x) before' after') :
    Reads (loop a) before after x before' after' := by
  constructor
  intro c hc
  obtain ⟨c', hr, h'⟩ := h.run c hc
  exact ⟨c', run_loop_done hr, h'⟩

-- A turn of a loop, whatever comes behind the loop.
theorem Reads.loop_bind_next {a : Action (Option α)} {f : α → Action β}
    (h : Reads a before after none before' after') (hl : size after' < size after)
    (h' : Reads (loop a >>= f) before' after' y last right) : Reads (loop a >>= f) before after y last right := by
  constructor
  intro c hc
  obtain ⟨c', hr, hc', hi, hf⟩ := h.run c hc
  obtain ⟨c'', hr', hc'', hi', hf'⟩ := h'.run c' hc'
  refine ⟨c'', ?_, hc'', hi'.trans hi, hf'.trans hf⟩
  rw [← hc.bytesLeft_eq, ← hc'.bytesLeft_eq] at hl
  rwa [StateT.run_bind, run_loop_next hr hl, ← StateT.run_bind]

theorem Reads.loop_next {a : Action (Option α)} (h : Reads a before after none before' after')
    (hl : size after' < size after) (h' : Reads (loop a) before' after' y last right) :
    Reads (loop a) before after y last right := by
  rw [← bind_pure (loop a)] at h' ⊢
  exact h.loop_bind_next hl h'

theorem size_lt_cons (c : Char) (cs : List Char) : size cs < size (c :: cs) :=
  Nat.lt_add_of_pos_left c.utf8Size_pos

theorem reads_skipWhile (p : Char → Bool) (before after : List Char) :
    Reads (skipWhile p) before after () (before ++ after.takeWhile p) (after.dropWhile p) := by
  induction after generalizing before
  case nil =>
    rw [List.takeWhile_nil, List.append_nil]
    exact .loop_done <| (reads_peek ..).bind (.pure ..)
  case cons c cs ih =>
    by_cases hc : p c
    case pos =>
      rw [List.takeWhile_cons_of_pos hc, List.dropWhile_cons_of_pos hc, List.append_cons]
      refine .loop_next ((reads_peek ..).bind ?_) (size_lt_cons c cs) (ih _)
      simp only [List.head?_cons, hc, if_true]
      exact (reads_skip ..).bind (.pure ..)
    case neg =>
      rw [List.takeWhile_cons_of_neg hc, List.dropWhile_cons_of_neg hc, List.append_nil]
      refine .loop_done <| (reads_peek ..).bind ?_
      simp only [List.head?_cons, hc]
      exact .pure ..

end Cursor
end Lexer
end FilterQuery
