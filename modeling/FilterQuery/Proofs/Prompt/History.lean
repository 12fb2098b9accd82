import FilterQuery.Proofs.Parser.Agreement
import FilterQuery.Proofs.Prompt.Commands
import Mathlib.Algebra.Ring.Parity

namespace FilterQuery.Prompt

namespace Command

-- The configuration that the command leaves, if it changes it. Without a usable file it does not.
def config? (source : String → Config.Source) : Command → Option (Option Config)
  | .clearConfig => some none
  | .loadConfig path => (Config.load path (source path)).toOption.map some
  | _ => none

-- The value that the command gives to a call.
def value? (call : String) : Command → Option Json
  | .bind name value => if call = name then some value else none
  | _ => none

-- The table that the command leaves.
def switch (table : Option String) : Command → Option String
  | .sql (some table) => some table
  | .sql none => if table.isSome then none else some usualTable
  | _ => table

def isTokens : Command → Bool
  | .tokens => true
  | _ => false

def isQuit : Command → Bool
  | .quit => true
  | _ => false

end Command

-- Lines that nothing is read behind: those that quit, and those that cannot be read.
def Ends (line : String) : Prop :=
  Line.read? line = none ∨ (command? line).any Command.isQuit

instance (line : String) : Decidable (Ends line) :=
  inferInstanceAs (Decidable (_ ∨ _))

-- Lines without a command that can be carried out.
inductive Idle (source : String → Config.Source) (line : String) : Prop
  | blank (h : Line.read? line = some .blank)
  | query (h : Line.read? line = some (.query text))
  | misread (h : Line.read? line = some (.command text)) (hc : Command.ofText text = .error error)
  | notLoaded (h : Line.read? line = some (.command text)) (hc : Command.ofText text = .ok (.loadConfig path))
    (hl : Config.load path (source path) = .error error)

namespace Session

-- A command sets the one part of a session that it is about.
structure Sets (source : String → Config.Source) (s : Session) (c : Command) (t : Session) : Prop where
  config     : t.config = (c.config? source).getD s.config
  context    : ∀ call, t.context.get? call = (c.value? call).or (s.context.get? call)
  table      : t.table = c.switch s.table
  showTokens : t.showTokens = if c.isTokens then !s.showTokens else s.showTokens

-- Each part of a session is what the commands about it have left.
structure LeftBy (source : String → Config.Source) (commands : List Command) (s : Session) : Prop where
  config     : s.config = (commands.filterMap (Command.config? source)).getLast?.join
  context    : ∀ call, s.context.get? call = (commands.filterMap (Command.value? call)).getLast?
  table      : s.table = commands.foldl Command.switch none
  showTokens : s.showTokens ↔ Odd (commands.countP Command.isTokens)

-- Lines lead from one session to another and show something.
inductive Reaches (source : String → Config.Source) : Session → List String → List String → Session → Prop
  | refl : Reaches source s [] [] s
  | step (h : s.respond source line = (shown, .next t)) :
    Reaches source t lines rest u → Reaches source s (line :: lines) (shown ++ rest) u

-- Sessions that cannot be told apart by what their parts are. Their contexts may have grown in another order.
structure Agrees (s t : Session) : Prop where
  config     : s.config = t.config
  context    : ∀ call, s.context.get? call = t.context.get? call
  table      : s.table = t.table
  showTokens : s.showTokens = t.showTokens

variable {source : String → Config.Source} {s t : Session} {commands : List Command} {c : Command}

-- Only loading can fail, and then it sets nothing.
theorem perform_sets (s : Session) (source : String → Config.Source) (h : c ≠ .quit) :
    (∃ shown t, s.perform source c = .ok (shown, .next t) ∧ Sets source s c t) ∨
    ∃ e, s.perform source c = .error e ∧ Sets source s c s := by
  cases c
  case quit        => exact absurd rfl h
  case help        => exact .inl ⟨_, _, rfl, rfl, fun _ => rfl, rfl, rfl⟩
  case clearConfig => exact .inl ⟨_, _, rfl, rfl, fun _ => rfl, rfl, rfl⟩
  case loadConfig path =>
    cases hl : Config.load path (source path) <;> simp only [perform, hl]
    case error => exact .inr ⟨_, rfl, by simp [Command.config?, hl, Except.toOption], fun _ => rfl, rfl, rfl⟩
    case ok    => exact .inl ⟨_, _, rfl, by simp [Command.config?, hl, Except.toOption], fun _ => rfl, rfl, rfl⟩
  case bind name value =>
    refine .inl ⟨_, _, rfl, rfl, fun call => ?_, rfl, rfl⟩
    rw [Context.get?_insert, Command.value?]
    split <;> rfl
  case sql arg =>
    cases arg <;> cases ht : s.table <;> simp only [perform, ht]
    all_goals exact .inl ⟨_, _, rfl, rfl, fun _ => rfl, by simp [Command.switch, ht], rfl⟩
  case tokens => exact .inl ⟨_, _, rfl, rfl, fun _ => rfl, rfl, rfl⟩

-- The last element that a function has a value for.
theorem getLast?_filterMap_concat {f : α → Option β} (as : List α) (a : α) :
    ((as ++ [a]).filterMap f).getLast? = (f a).or (as.filterMap f).getLast? := by
  cases h : f a <;> simp [List.filterMap_append, h]

theorem LeftBy.concat (h : LeftBy source commands s) (hs : Sets source s c t) :
    LeftBy source (commands ++ [c]) t where
  config := by
    rw [hs.config, h.config, getLast?_filterMap_concat]
    cases c.config? source <;> rfl
  context call := by
    rw [hs.context, h.context, getLast?_filterMap_concat]
  table := by
    rw [hs.table, h.table, List.foldl_concat]
  showTokens := by
    rw [hs.showTokens, List.countP_append, List.countP_singleton]
    cases c.isTokens
    case false => simpa using h.showTokens
    case true  => simp [Nat.odd_add_one, ← h.showTokens]

theorem respond_idle (s : Session) (h : Idle source line) : ∃ shown, s.respond source line = (shown, .next s) := by
  cases h
  case blank hr      => exact ⟨_, by simp only [respond, hr]; rfl⟩
  case query hr      => exact ⟨_, by simp only [respond, hr]; rfl⟩
  case misread hr hc => exact ⟨_, by simp only [respond, hr, hc]; rfl⟩
  case notLoaded hr hc hl =>
    simp only [respond, hr, hc, bind, Except.bind, perform, hl]
    exact ⟨_, rfl⟩

theorem idle_of_command?_eq_none (source : String → Config.Source) (hr : Line.read? line ≠ none)
    (h : command? line = none) : Idle source line := by
  simp only [command?] at h
  cases hl : Line.read? line
  case none => exact absurd hl hr
  case some content =>
    cases content
    case blank => exact .blank hl
    case query => exact .query hl
    case command text =>
      rw [hl] at h
      cases hc : Command.ofText text
      case error => exact .misread hl hc
      case ok    => simp [hc, Except.toOption] at h

theorem respond_command (s : Session) (h : command? line = some c) :
    s.respond source line =
      match s.perform source c with
      | .ok result => result
      | .error e => (["✗ " ++ e.message], .next s) := by
  have ⟨text, hr, hw⟩ := command?_eq_some_iff.mp h
  simp only [respond, hr, ofText_eq_ok_iff.mpr hw]
  rfl

theorem respond_leftBy (h : LeftBy source commands s) (hl : ¬Ends line) :
    ∃ shown t, s.respond source line = (shown, .next t) ∧ LeftBy source (commands ++ (command? line).toList) t := by
  have ⟨hr, hq⟩ := not_or.mp hl
  cases hc : command? line
  case none =>
    have ⟨shown, hs⟩ := s.respond_idle (idle_of_command?_eq_none source hr hc)
    exact ⟨shown, s, hs, by simpa using h⟩
  case some c =>
    rw [s.respond_command hc]
    have hq : c ≠ .quit := fun he => hq (by rw [hc, he]; rfl)
    rcases s.perform_sets source hq with ⟨shown, t, hp, hs⟩ | ⟨e, hp, hs⟩
    case inl => exact ⟨shown, t, by rw [hp], h.concat hs⟩
    case inr => exact ⟨_, s, by rw [hp], h.concat hs⟩

theorem exists_reaches (h : LeftBy source commands s) (hl : ∀ line ∈ lines, ¬Ends line) :
    ∃ shown t, Reaches source s lines shown t ∧ LeftBy source (commands ++ lines.filterMap command?) t := by
  induction lines generalizing s commands
  case nil => exact ⟨_, _, .refl, by simpa using h⟩
  case cons line lines ih =>
    obtain ⟨hl, hls⟩ := List.forall_mem_cons.mp hl
    have ⟨_, t, hr, ht⟩ := respond_leftBy h hl
    have ⟨_, u, hu, hlu⟩ := ih ht hls
    refine ⟨_, u, .step hr hu, ?_⟩
    cases hc : command? line <;> simpa [hc] using hlu

-- What is shown for lines comes before what is shown for those behind them.
theorem Reaches.run (h : Reaches source s lines shown t) (more : List String) :
    s.run source (lines ++ more) = ⟨shown ++ (t.run source more).lines, (t.run source more).status⟩ := by
  induction h
  case refl         => rfl
  case step hr _ ih => simp only [List.cons_append, Session.run, hr, ih, List.append_assoc]

-- A context without bindings is as good as none.
theorem resolve_of_isEmpty (context : Context) (call : String) :
    Value.resolve (if context.isEmpty then none else some context) call = Value.resolve (some context) call := by
  obtain ⟨bindings⟩ := context
  cases bindings <;> rfl

theorem Agrees.evaluate (h : Agrees s t) (text : String) : s.evaluate text = t.evaluate text := by
  have hp : parse text (if s.context.isEmpty then none else some s.context) s.config =
      parse text (if t.context.isEmpty then none else some t.context) t.config := by
    rw [h.config]
    refine parse_congr _ (fun call _ => ?_) text
    rw [resolve_of_isEmpty, resolve_of_isEmpty]
    simp only [Value.resolve, Option.bind_some, h.context]
  simp only [Session.evaluate, hp, h.table, h.showTokens]

theorem leftBy_nil (source : String → Config.Source) : LeftBy source [] {} :=
  ⟨rfl, fun _ => rfl, rfl, by simp⟩

-- A session is what the commands written in its lines have left, of which those that failed left nothing. The answers
-- to queries come from the line and the parts of the session alone, and behind a line that quits there are none.
theorem folds_commands (source : String → Config.Source) (lines : List String) (h : ∀ line ∈ lines, ¬Ends line) :
    (∀ line c, command? line = some c ↔ ∃ text, Line.read? line = some (.command text) ∧ c.Written text) ∧
    ∃ shown s, Reaches source {} lines shown s ∧ LeftBy source (lines.filterMap command?) s ∧
      (∀ more, transcript source (lines ++ more) =
        ⟨greeting :: (shown ++ (s.run source more).lines), (s.run source more).status⟩) ∧
      (∀ line, Idle source line → ∃ answer, s.respond source line = (answer, .next s)) ∧
      (∀ line text t source', Line.read? line = some (.query text) → Agrees s t →
        (t.respond source' line).1 = (s.respond source line).1) ∧
      ∀ line text more, Line.read? line = some (.command text) → Command.Written text .quit →
        s.run source (line :: more) = ⟨[], successStatus⟩ := by
  have ⟨shown, s, hr, hs⟩ := exists_reaches (leftBy_nil source) h
  refine ⟨fun _ _ => command?_eq_some_iff, shown, s, hr, hs, fun more => ?more, fun _ => s.respond_idle,
    fun line text t source' hl ha => ?query, fun line text more hl hq => ?quit⟩
  case more  => simp only [transcript, hr.run]
  case query => simp only [respond, hl, ha.evaluate]
  case quit  => simp only [Session.run, s.respond_command (command?_eq_some_iff.mpr ⟨text, hl, hq⟩), perform]

theorem folds_commands_mixed :
    let source path :=
      if path = "limits" then Config.Source.text "\x7b\"operations\": [\"EQ\"], \"parentheses\": false\x7d"
      else if path = "broken" then .text "\x7b\"parentheses\": true"
      else .missing
    let lines := [":let now()=null", ":config limits", ":tokens", ":let then=2", ":sql", "x = now()", ":config broken",
      ":config gone", ":let now()=\"soon\"", ":sql runs", ""]
    (∀ line ∈ lines, ¬Ends line) ∧
    ∃ shown s, Reaches source {} lines shown s ∧
      s.config.map Config.operations = some (some [.comparison .eq]) ∧ s.config.map Config.parentheses = some false ∧
      s.context.get? "now()" = some (.string "soon") ∧ s.table = some "runs" ∧ s.showTokens ∧
      transcript source (lines ++ [":q", "x = 1"]) = ⟨greeting :: shown, successStatus⟩ := by
  intro source lines
  have hl : ∀ line ∈ lines, ¬Ends line := by decide +kernel
  have hn : Json.read "null" = .ok .null := by rw [Json.read, Json.Reader.value.eq_def]; rfl
  have hj : Json.read "\"soon\"" = .ok (.string "soon") := by rw [Json.read, Json.Reader.value.eq_def]; rfl
  have hb : command? ":let now()=null" = some (.bind "now()" .null) :=
    command?_eq_some_iff.mpr ⟨_, rfl, @Command.Written.bind _ "now()".toList "null".toList _
      (phrase_iff.mpr ⟨rfl, rfl⟩) (by decide) (by decide) hn⟩
  have hb' : command? ":let now()=\"soon\"" = some (.bind "now()" (.string "soon")) :=
    command?_eq_some_iff.mpr ⟨_, rfl, @Command.Written.bind _ "now()".toList "\"soon\"".toList _
      (phrase_iff.mpr ⟨rfl, rfl⟩) (by decide) (by decide) hj⟩
  have hc : lines.filterMap command? = [.bind "now()" .null, .loadConfig "limits", .tokens, .sql none,
      .loadConfig "broken", .loadConfig "gone", .bind "now()" (.string "soon"), .sql (some "runs")] := by
    simp only [lines, List.filterMap_cons, hb, hb']
    rfl
  obtain ⟨_, shown, s, hr, hs, ht, _, _, hq⟩ := folds_commands source lines hl
  rw [hc] at hs
  refine ⟨hl, shown, s, hr, ?operations, ?parentheses, (hs.context _).trans ?context, hs.table.trans ?table,
    hs.showTokens.mpr ?tokens, ?quits⟩
  case operations  => rw [hs.config]; decide +kernel
  case parentheses => rw [hs.config]; decide +kernel
  case context     => rfl
  case table       => rfl
  case tokens      => decide
  case quits =>
    have hp : Phrase ":q" ":q" "" := phrase_iff.mpr ⟨rfl, rfl⟩
    rw [ht, hq ":q" ":q" _ rfl (.quit hp (by simp)), List.append_nil]

end Session
end FilterQuery.Prompt
