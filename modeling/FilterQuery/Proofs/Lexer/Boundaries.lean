import FilterQuery.Proofs.ErrorSpan
import FilterQuery.Proofs.Lexer.Cursor

namespace FilterQuery

namespace Lexer

open Text (size)

namespace Cursor

-- Behind `before`, with `ahead` read already, the action does what was scanned.
inductive Agrees (a : Action Item) (before ahead after : List Char) : Scan → Prop
  | lexeme : Reads a (before ++ ahead) after (.ok ⟨kind, size before, size before + size text⟩)
      (before ++ text) left →
    Agrees a before ahead after (.lexeme kind text left)
  | fault : (∀ left, skipped ++ culprit ++ left = ahead ++ after →
      Reads a (before ++ ahead) after
        (.error ⟨cause, size before + size skipped, size before + size skipped + size culprit⟩)
        (before ++ (skipped ++ culprit)) left) →
    Agrees a before ahead after (.fault cause skipped culprit)

theorem Reads.agrees {a : Action α} {f : α → Action Item}
    (h : Reads a (before ++ ahead) after x (before ++ more) after') (h' : Agrees (f x) before more after' s) :
    Agrees (a >>= f) before ahead after s := by
  cases h'
  case lexeme h' => exact .lexeme (h.bind h')
  case fault h' =>
    refine .fault fun left ht => ?_
    have hs := h.split
    rw [List.append_assoc, List.append_assoc] at hs
    exact h.bind (h' left (ht.trans (List.append_cancel_left hs).symm))

theorem agrees_token (kind : Token.Kind) (before text after : List Char) :
    Agrees (token kind (size before)) before text after (.lexeme kind text after) := by
  refine .lexeme ?_
  rw [← Text.size_append]
  exact (reads_place ..).bind (.pure ..)

theorem reads_fail (cause : ParseError.Cause) (start : Nat) (before after : List Char) :
    Reads (@fail α cause start) before after (.error ⟨cause, start, size before⟩) before after :=
  (reads_place ..).bind (.pure ..)

-- What is left after an error is determined by the text.
theorem Reads.agrees_fault {a : Action Item}
    (h : Reads a (before ++ ahead) after
      (.error ⟨cause, size (before ++ skipped), size (before ++ skipped ++ culprit)⟩)
      (before ++ skipped ++ culprit) left) :
    Agrees a before ahead after (.fault cause skipped culprit) := by
  refine .fault fun left' ht => ?_
  have hs := h.split
  simp only [List.append_assoc] at hs ht
  cases List.append_cancel_left <| List.append_cancel_left <| ht.trans (List.append_cancel_left hs).symm
  simpa [Nat.add_assoc] using h

theorem agrees_fail (cause : ParseError.Cause) (before text after : List Char) :
    Agrees (fail cause (size before)) before text after (.fault cause [] text) :=
  Reads.agrees_fault (by simpa using reads_fail cause (size before) (before ++ text) after)

theorem agrees_pair (c : Char) (single double : Token.Kind) (before after : List Char) :
    Agrees (readPair single double (size before)) before [c] after (scanPair c single double after) := by
  by_cases ha : after.head? = some '='
  case pos =>
    obtain ⟨after, rfl⟩ := List.head?_eq_some_iff.mp ha
    exact (reads_peek ..).agrees <| (reads_skip ..).assoc.agrees <| agrees_token ..
  case neg =>
    refine (reads_peek ..).agrees ?_
    rw [scanPair_single ha, if_neg ha]
    exact agrees_token ..

theorem scanEquals_alone (h : cs.head? ≠ some '=') :
    scanEquals c kind cs = .fault (.incompleteOperator c) [] [c] := by
  unfold scanEquals
  split <;> simp_all

theorem agrees_equals (c : Char) (kind : Token.Kind) (before after : List Char) :
    Agrees (readEquals c kind (size before)) before [c] after (scanEquals c kind after) := by
  by_cases ha : after.head? = some '='
  case pos =>
    obtain ⟨after, rfl⟩ := List.head?_eq_some_iff.mp ha
    exact (reads_peek ..).agrees <| (reads_skip ..).assoc.agrees <| agrees_token ..
  case neg =>
    refine (reads_peek ..).agrees ?_
    rw [scanEquals_alone ha, if_neg ha]
    exact agrees_fail ..

theorem reads_fraction (hc : c.isDigit) (before cs : List Char) :
    Reads readFraction before ('.' :: c :: cs) () (before ++ '.' :: (c :: cs).takeWhile Char.isDigit)
      ((c :: cs).dropWhile Char.isDigit) := by
  refine (reads_peek ..).bind <| (reads_peekNext ..).bind ?_
  simp only [List.getElem?_cons_succ, List.getElem?_cons_zero, Option.any_some, hc, if_true]
  rw [List.append_cons]
  exact (reads_skip ..).bind (reads_skipWhile ..)

theorem reads_no_fraction (before : List Char) (h : ∀ c cs, after = '.' :: c :: cs → ¬c.isDigit) :
    Reads readFraction before after () before after := by
  refine (reads_peek ..).bind ?_
  cases after
  case nil => exact .pure ..
  case cons d ds =>
    by_cases hd : d = '.'
    case neg =>
      simp only [List.head?_cons, Option.some.injEq, hd, if_false]
      exact .pure ..
    case pos =>
      subst hd
      refine (reads_peekNext ..).bind ?_
      cases ds
      case nil => exact .pure ..
      case cons c cs =>
        simp only [List.getElem?_cons_succ, List.getElem?_cons_zero, Option.any_some, h c cs rfl]
        exact .pure ..

theorem agrees_number (before ahead after : List Char) :
    Agrees (readNumber (size before)) before ahead after (scanNumber ahead after) := by
  refine (reads_skipWhile ..).assoc.agrees ?_
  simp only [scanNumber]
  induction after using number_cases
  case fraction hl hc =>
    rw [hl, ← List.append_assoc]
    exact (reads_fraction hc ..).assoc.agrees <| (reads_slice ..).agrees <| agrees_token ..
  case whole hn => exact (reads_no_fraction _ hn).agrees <| (reads_slice ..).agrees <| agrees_token ..

theorem agrees_word (before ahead after : List Char) :
    Agrees (readWord (size before)) before ahead after
      (wordLexeme (ahead ++ after.takeWhile isWordChar) (after.dropWhile isWordChar)) := by
  refine (reads_skipWhile ..).assoc.agrees ?_
  generalize ahead ++ after.takeWhile isWordChar = word
  generalize after.dropWhile isWordChar = left
  refine (reads_slice ..).agrees ?_
  cases hk : keyword? (.ofList word)
  case some kind =>
    simp only [wordLexeme, hk]
    exact agrees_token ..
  case none =>
    refine (reads_tail ..).agrees ?_
    by_cases hp : ∃ more, left = '(' :: ')' :: more
    case pos =>
      obtain ⟨more, rfl⟩ := hp
      rw [wordLexeme_call hk]
      exact (reads_advance _ ['(', ')'] more).assoc.agrees <| (reads_slice ..).agrees <| agrees_token ..
    case neg =>
      have hb : ['(', ')'].isPrefixOf left = false := by
        refine Bool.eq_false_iff.mpr fun hb => hp ?_
        obtain ⟨more, hm⟩ := List.isPrefixOf_iff_prefix.mp hb
        exact ⟨more, hm.symm⟩
      rw [wordLexeme_identifier hk (not_exists.mp hp), hb]
      exact agrees_token ..

theorem reads_inside (h : Inside inside)
    (hr : Reads (readInside start) (before ++ inside) after x before' after') :
    Reads (readInside start) before (inside ++ after) x before' after' := by
  induction h generalizing before
  case nil => simpa using hr
  case plain c _ hq hb _ ih =>
    have h' := @ih (before ++ [c]) (by simpa using hr)
    refine .loop_next ((reads_place ..).bind <| (reads_bump ..).bind ?_) (size_lt_cons ..) h'
    split <;> first | exact .pure .. | simp_all
  case escape e _ he _ ih =>
    have h' := @ih (before ++ ['\\'] ++ [e]) (by simpa using hr)
    refine .loop_next ((reads_place ..).bind <| (reads_bump ..).bind <| (reads_bump ..).bind ?_)
      ((size_lt_cons ..).trans (size_lt_cons ..)) h'
    simp only [isEscape_iff.mpr he, if_true]
    exact .pure ..

theorem reads_closing (start : Nat) (before after : List Char) :
    Reads (readInside start) before ('"' :: after) (.ok ()) (before ++ ['"']) after :=
  .loop_done <| (reads_place ..).bind <| (reads_bump ..).bind <| .pure ..

theorem reads_unterminated (start : Nat) (before : List Char) (hl : left = [] ∨ left = ['\\']) :
    Reads (readInside start) before left (.error ⟨.unterminatedString, start, size (before ++ left)⟩)
      (before ++ left) [] := by
  refine .loop_done <| (reads_place ..).bind ?_
  rcases hl with rfl | rfl
  case inl =>
    rw [List.append_nil]
    exact (reads_bump_nil ..).bind <| (reads_fail ..).map some
  case inr => exact (reads_bump ..).bind <| (reads_bump_nil ..).bind <| (reads_fail ..).map some

theorem reads_badEscape (start : Nat) (before : List Char) (he : ¬isEscape e) (after : List Char) :
    Reads (readInside start) before ('\\' :: e :: after)
      (.error ⟨.invalidEscape e, size before, size (before ++ ['\\'] ++ [e])⟩) (before ++ ['\\'] ++ [e]) after := by
  refine .loop_done <| (reads_place ..).bind <| (reads_bump ..).bind <| (reads_bump ..).bind ?_
  simp only [he]
  exact (reads_fail ..).map some

theorem reads_string_of_error (h : Reads (readInside start) before after (.error error) before' after') :
    Reads (readString start) before after (.error error) before' after' :=
  h.bind (.pure ..)

theorem agrees_string (before after : List Char) :
    Agrees (readString (size before)) before ['"'] after (scanQuoted after) := by
  have hs := scanString_of after
  simp only [scanQuoted]
  generalize scanString after = s at hs
  cases hs
  case closed inside left h =>
    have hr := reads_inside h <| reads_closing (size before) (before ++ ['"'] ++ inside) left
    simp only [List.append_assoc] at hr
    exact hr.agrees <| (reads_slice ..).agrees <| agrees_token ..
  case unterminated inside left h hl =>
    have hr := reads_inside h <| reads_unterminated (size before) (before ++ ['"'] ++ inside) hl
    exact Reads.agrees_fault (by simpa using reads_string_of_error hr)
  case badEscape inside e left h he =>
    have hr := reads_inside h <|
      reads_badEscape (size before) (before ++ ['"'] ++ inside) (he ∘ isEscape_iff.mp) left
    exact Reads.agrees_fault (by simpa using reads_string_of_error hr)

theorem scanNumber_cons (hc : c.isDigit) (cs : List Char) : scanNumber [] (c :: cs) = scanNumber [c] cs := by
  have ht : numberText (c :: cs) = c :: numberText cs := by
    simp only [numberText, List.takeWhile_cons_of_pos hc, List.dropWhile_cons_of_pos hc]
    split <;> try split
    all_goals rfl
  have hr : numberRest (c :: cs) = numberRest cs := by
    simp only [numberRest, List.dropWhile_cons_of_pos hc]
  simp [scanNumber, ht, hr]

theorem any_head? (cs : List Char) : cs.head?.any Char.isDigit = (cs.headD ' ').isDigit := by
  cases cs <;> rfl

theorem notMem_marks {p : Char → Bool} (hp : marks.all (!p ·)) (h : p c) : c ∉ marks := by
  intro hm
  have hn := List.all_eq_true.mp hp c hm
  simp [h] at hn

theorem readLexeme_of_notMem (h : c ∉ marks) : readLexeme c start =
    if c.isDigit then readNumber start else if isWordStart c then readWord start
    else fail (.unexpectedChar c) start := by
  unfold readLexeme
  split <;> simp_all [marks]

theorem agrees_lexeme (c : Char) (before after : List Char) :
    Agrees (readLexeme c (size before)) before [c] after (scan c after) := by
  induction c, after using scan_cases
  case less        => exact agrees_pair ..
  case greater     => exact agrees_pair ..
  case exclamation => exact agrees_equals ..
  case tilde       => exact agrees_equals ..
  case minus after hd =>
    refine (reads_peek ..).agrees ?_
    rw [any_head?, if_pos hd]
    exact agrees_number ..
  case loneMinus after hd =>
    refine (reads_peek ..).agrees ?_
    rw [any_head?, if_neg hd]
    exact agrees_fail ..
  case quote => exact agrees_string ..
  case digit hd =>
    rw [readLexeme_of_notMem (notMem_marks rfl hd), if_pos hd, scanNumber_cons hd]
    exact agrees_number ..
  case word hd hw =>
    have hc := isWordChar_of_isWordStart hw
    rw [readLexeme_of_notMem (notMem_marks rfl hw), if_neg hd, if_pos hw, scanWord,
      List.takeWhile_cons_of_pos hc, List.dropWhile_cons_of_pos hc]
    exact agrees_word ..
  case unexpected hm hd hw =>
    rw [readLexeme_of_notMem hm, if_neg hd, if_neg hw]
    exact agrees_fail ..
  all_goals exact agrees_token ..

theorem reads_item_eol (before : List Char) :
    Reads readItem before [] (.ok (.endAt (size before))) before [] := by
  have hs := reads_skipWhile isGap before []
  rw [List.takeWhile_nil, List.dropWhile_nil, List.append_nil] at hs
  exact hs.bind <| (reads_place ..).bind <| (reads_bump_nil ..).bind <| (reads_place ..).bind (.pure ..)

-- The loop over the gap takes one more turn.
theorem reads_item_gap (hc : isGap c) (h : Reads readItem (before ++ [c]) cs item before' left) :
    Reads readItem before (c :: cs) item before' left := by
  refine .loop_bind_next ((reads_peek ..).bind ?_) (size_lt_cons ..) h
  simp only [List.head?_cons, hc, if_true]
  exact (reads_skip ..).bind (.pure ..)

theorem reads_item_lexeme (hc : ¬isGap c)
    (h : Reads (readLexeme c (size before)) (before ++ [c]) cs item before' left) :
    Reads readItem before (c :: cs) item before' left := by
  have hs := reads_skipWhile isGap before (c :: cs)
  rw [List.takeWhile_cons_of_neg hc, List.dropWhile_cons_of_neg hc, List.append_nil] at hs
  exact hs.bind <| (reads_place ..).bind <| (reads_bump ..).bind h

-- What a call gives at a text is read there, and it uses up the same part of the text.
theorem reads_of_call (h : Call (size before) cs item used left) :
    Reads readItem before cs item (before ++ used) left := by
  generalize hs : size before = start at h
  induction h generalizing before
  case eol =>
    rw [← hs, List.append_nil]
    exact reads_item_eol before
  case gap c _ _ _ _ _ hc _ ih =>
    have hi := @ih (before ++ [c]) (by simp [hs])
    exact reads_item_gap hc (by simpa using hi)
  case lexeme c cs _ _ _ _ hl =>
    subst hs
    have ha := hl ▸ agrees_lexeme c before cs
    cases ha
    case lexeme hr => exact reads_item_lexeme (not_isGap_of_scan hl) hr
  case fault c cs _ _ _ left _ hc hf ht =>
    subst hs
    have ha := hf ▸ agrees_lexeme c before cs
    cases ha
    case fault hr => exact reads_item_lexeme hc (hr left ht)

-- The two lexers stand at the same place, and both have ended or neither.
structure Follows (c : Cursor) (l : Lexer) : Prop where
  stands   : ∃ before, c.At before l.rest ∧ l.offset = size before
  finished : c.finished = l.finished

theorem run_next_finished {c : Cursor} (h : c.finished) : next.run c = some (none, c) := by
  simp [next, h]

theorem run_next {c : Cursor} (h : c.finished = false) (hr : readItem.run c = some (item, c')) :
    next.run c = some (some item, { c' with finished := item.isLast }) := by
  simp [next, h, hr]

theorem Follows.next {c : Cursor} (h : c.Follows l) :
    ∃ c', Cursor.next.run c = some (l.next.1, c') ∧ c'.Follows l.next.2 ∧ c'.input = c.input := by
  cases hf : c.finished
  case true =>
    rw [next_finished (h.finished ▸ hf)]
    exact ⟨c, run_next_finished hf, h, rfl⟩
  case false =>
    obtain ⟨cs, _, finished⟩ := l
    obtain ⟨⟨before, hc, rfl⟩, rfl⟩ := h
    obtain ⟨item, used, left, hcall⟩ := exists_call (size before) cs
    obtain ⟨c', hr, hc', hi, -⟩ := (reads_of_call hcall).run c hc
    rw [hf, hcall.next]
    refine ⟨_, run_next hf hr, ⟨⟨before ++ used, ⟨hc'.input, hc'.position, hc'.cuts⟩, ?_⟩, rfl⟩, hi⟩
    rw [Text.size_append]

-- Any number of calls give the same items, and the cursor follows.
theorem Follows.calls {c : Cursor} (h : c.Follows l) (n : Nat) :
    ∃ c', (Cursor.calls n).run c = some ((List.range n).map fun k => (l.afterCalls k).next.1, c') ∧
      c'.Follows (l.afterCalls n) ∧ c'.input = c.input := by
  induction n
  case zero => exact ⟨c, rfl, h, rfl⟩
  case succ n ih =>
    obtain ⟨c', hr, hf, hi⟩ := ih
    obtain ⟨c'', hr', hf', hi'⟩ := hf.next
    refine ⟨c'', ?_, hf', hi'.trans hi⟩
    simp [Cursor.calls, hr, hr', List.range_succ]

theorem follows_ofText (text : String) : (ofText text).Follows (Lexer.ofText text) :=
  ⟨⟨[], ⟨rfl, rfl, nofun⟩, rfl⟩, rfl⟩

theorem IsCut.bounds {text : String} (h : IsCut text.toList n) :
    n ≤ text.utf8ByteSize ∧ String.Pos.Raw.IsValid text ⟨n⟩ := by
  obtain ⟨before, after, ht, rfl⟩ := h
  have hw : Span.Within text.toList ⟨size before, size before⟩ := ⟨before, [], after, by simpa using ht, rfl⟩
  exact ⟨hw.bounds.2, hw.isValid.1⟩

end Cursor

-- The calls give tokens, no more than the text has characters, then its end or an error, and then nothing. Every token
-- moves the lexer on. Over bytes each call ends, and none crashes: wherever the text is looked at, also inside a
-- token, it is cut between characters.
theorem calls_end_in_bounds (text : String) :
    ∃ (ts : List Token) (last : Item),
      let items := ts.map .ok ++ [last]
      items.length ≤ text.length + 1 ∧ (∀ t ∈ ts, t.kind ≠ .eol) ∧
      (last = .ok (.endAt text.utf8ByteSize) ∨ ∃ error, last = .error error) ∧
      ∀ n,
        let l := (ofText text).afterCalls n
        l.next.1 = items[n]? ∧
        (∀ t, l.next.1 = some (.ok t) → t.kind ≠ .eol → l.offset < l.next.2.offset) ∧
        ∃ c, (Cursor.calls n).run (.ofText text) = some ((List.range n).map (items[·]?), c) ∧
          c.position = l.offset ∧ c.finished = l.finished ∧
          ∀ place ∈ c.position :: c.cuts,
            place ≤ text.utf8ByteSize ∧ String.Pos.Raw.IsValid text ⟨place⟩ := by
  obtain ⟨ts, last, hg⟩ := exists_gives 0 text.toList
  have hlast := hg.last_eq
  rw [Nat.zero_add, Text.size_toList] at hlast
  refine ⟨ts, last, ?length, hg.kind_ne, hlast, fun n => ⟨hg.calls n, fun t => offset_lt_next, ?bytes⟩⟩
  case length => simpa [← String.length_toList] using hg.length_le
  case bytes =>
    obtain ⟨c, hr, ⟨⟨before, hc, ho⟩, hf⟩, hi⟩ := (Cursor.follows_ofText text).calls n
    refine ⟨c, ?items, hc.position.trans ho.symm, hf, fun n hn => ?cut⟩
    case items =>
      have hk : (fun k => ((ofText text).afterCalls k).next.1) = ((ts.map .ok ++ [last])[·]?) := funext hg.calls
      rw [hr, hk]
    case cut =>
      have hb : Cursor.IsCut c.input n := List.forall_mem_cons.mpr ⟨hc.isCut, hc.cuts⟩ n hn
      rw [hi] at hb
      exact hb.bounds

-- `é` stands at the bytes 1 and 2, so the text is not cut at byte 2.
example : ((Cursor.calls 2).run (.ofText "\"é\"")).map (·.2.cuts) = some [4, 4, 0, 4, 3, 1, 0, 0] := by decide +kernel

end Lexer
end FilterQuery
