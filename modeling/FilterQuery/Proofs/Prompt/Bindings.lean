import FilterQuery.Proofs.Lexer.Blanks
import FilterQuery.Proofs.Prompt.History

namespace FilterQuery

namespace Lexer

variable {text name : List Char}

theorem getLast?_of_brackets (h : ['(', ')'] <:+ text) : text.getLast? = some ')' := by
  obtain ⟨_, rfl⟩ := h
  simp

-- Nothing but a call has brackets at its end.
theorem Lexeme.isCall_of_brackets (h : Lexeme text kind) (hb : ['(', ')'] <:+ text) :
    IsCall (.ofList text) ∧ kind = .function (.ofList text) := by
  have hl := getLast?_of_brackets hb
  have hm : ')' ∈ text := List.mem_of_getLast? hl
  cases h
  case comparison op    => cases op <;> exact absurd hl (by decide)
  case closeParen       => exact absurd hb.length_le (by decide)
  case number h         =>
    obtain ⟨_, d, rfl, hd⟩ := h.last_digit
    obtain rfl : d = ')' := by simpa using hl
    exact absurd hd (by decide)
  case string           => exact nomatch List.getLast?_concat.symm.trans hl
  case keyword hk       => exact absurd (keyword_chars hk ')' hm) (by decide)
  case function hw hk   => exact ⟨⟨_, hw, hk, rfl⟩, rfl⟩
  case identifier hw hk => exact absurd (hw.chars ')' hm) (by decide)
  all_goals exact absurd hl (by decide)

-- A text with brackets at its end and no blank before it is one token just if it is a call.
theorem cuts_call_iff (hh : ∀ c ∈ name.head?, Text.isBlank c = false) (hb : ['(', ')'] <:+ name) :
    Cuts name [kind] [] ↔ IsCall (.ofList name) ∧ kind = .function (.ofList name) := by
  constructor
  case mp =>
    intro h
    have ⟨before, text, after, hbefore, hafter, hl, hn⟩ := h.split_single
    have hf : before = [] := by
      cases before
      case nil         => rfl
      case cons c rest =>
        have hc := hh c (by rw [hn]; rfl)
        exact nomatch hc.symm.trans (hbefore c (List.mem_cons_self ..))
    have ha : after = [] := by
      rcases List.eq_nil_or_concat after with ha | ⟨rest, c, rfl⟩
      case inl => exact ha
      case inr =>
        have hc : c = ')' := by simpa [hn] using getLast?_of_brackets hb
        exact absurd (hafter c (by simp)) (hc ▸ by decide)
    subst ha hf
    obtain rfl : name = text := by simpa using hn
    exact hl.isCall_of_brackets hb
  case mpr =>
    rintro ⟨⟨word, hw, hk, hn⟩, rfl⟩
    rw [String.ofList_injective hn]
    exact Cuts.function (isName_iff.mpr ⟨hw, hk⟩)

theorem cuts_equation_iff : Cuts ("x = " ++ String.ofList text).toList kinds [] ↔
    ∃ rest, kinds = .identifier "x" :: .comparison .eq :: rest ∧ Cuts text rest [] := by
  have hx : scan 'x' (' ' :: '=' :: ' ' :: text) = .lexeme (.identifier "x") ['x'] (' ' :: '=' :: ' ' :: text) := by
    rfl
  have he : scan '=' (' ' :: text) = .lexeme (.comparison .eq) ['='] (' ' :: text) := rfl
  rw [show ("x = " ++ String.ofList text).toList = 'x' :: ' ' :: '=' :: ' ' :: text by simp]
  constructor
  case mp =>
    intro h
    have ⟨_, hk, h⟩ := h.of_lexeme hx
    have ⟨_, hk', h⟩ := (h.of_gap rfl).of_lexeme he
    exact ⟨_, hk' ▸ hk, h.of_gap rfl⟩
  case mpr =>
    rintro ⟨rest, rfl, h⟩
    exact .lexeme hx <| .gap rfl <| .lexeme he <| .gap rfl h

end Lexer

-- What a text is compared with when it is put behind an operator: the value of its one token.
theorem parse_equation_iff :
    parse ("x = " ++ .ofList text) context = .ok (some (.condition { field := "x" } .eq v)) ↔
      ∃ kind, Lexer.Cuts text [kind] [] ∧ Grammar.Literal context kind v := by
  rw [parse_eq_some_iff_cuts]
  constructor
  case mp =>
    intro ⟨kinds, hc, hs⟩
    have ⟨rest, hk, hr⟩ := Lexer.cuts_equation_iff.mp hc
    have hd : Grammar.Derives context .negation kinds _ := (hs.derives.chain_operand nofun).chain_operand nofun
    cases hd
    case primary hd =>
      cases hd
      case condition hf hl =>
        cases hf
        obtain rfl := List.tail_eq_of_cons_eq (List.tail_eq_of_cons_eq hk)
        exact ⟨_, hr, hl⟩
  case mpr =>
    intro ⟨kind, hc, hl⟩
    refine ⟨_, Lexer.cuts_equation_iff.mpr ⟨_, rfl, hc⟩, Grammar.spelled_iff.mpr ⟨?derives, ?finite, Nat.zero_le _⟩⟩
    case derives => exact .operand_chain <| .operand_chain <| .primary <| .condition .name hl
    case finite  => exact fun _ ha => List.mem_singleton.mp ha ▸ fun _ => nofun

namespace Prompt

variable {line name : String} {value : Json}

-- A name is bound as it stands between the blanks around it.
theorem exists_of_command?_bind (h : command? line = some (.bind name value)) :
    ∃ cs, name = .ofList cs ∧ ['(', ')'] <:+ cs ∧ ∀ c ∈ cs.head?, Text.isBlank c = false := by
  have ⟨_, _, hw⟩ := command?_eq_some_iff.mp h
  cases hw
  case bind hb _ => exact ⟨_, rfl, hb, Text.head?_trimChars _⟩

theorem parse_bound_iff {context : Context} (h : command? line = some (.bind name value))
    (hv : context.get? name = some value) :
    parse ("x = " ++ name) (some context) = .ok (some (.condition { field := "x" } .eq v)) ↔
      IsCall name ∧ v = .ofJson value := by
  obtain ⟨cs, rfl, hb, hh⟩ := exists_of_command?_bind h
  have hr : Value.resolve (some context) (.ofList cs) = .ofJson value := by simp [Value.resolve, hv]
  simp only [parse_equation_iff, Lexer.cuts_call_iff hh hb]
  constructor
  case mp =>
    rintro ⟨_, ⟨hc, rfl⟩, hl⟩
    cases hl
    exact ⟨hc, hr⟩
  case mpr =>
    rintro ⟨hc, rfl⟩
    exact ⟨_, ⟨hc, rfl⟩, hr ▸ .function⟩

namespace Session

-- A binding gives its value to a name that is a call. Every other name that the prompt takes is bound in vain: what
-- stands for it in a query is no value, and no query has another meaning than before.
theorem bound_usable_iff (s : Session) (source : String → Config.Source) (line name : String) (value : Json)
    (h : command? line = some (.bind name value)) :
    let context := s.context.insert name value
    s.respond source line = (["✓ " ++ name ++ " = " ++ value.text], .next { s with context }) ∧
    context.get? name = some value ∧
    (∀ v, parse ("x = " ++ name) (some context) = .ok (some (.condition { field := "x" } .eq v)) ↔
      IsCall name ∧ v = .ofJson value) ∧
    (¬IsCall name → ∀ text config, parse text (some context) config = parse text (some s.context) config) := by
  intro context
  have hv : context.get? name = some value := s.context.get?_insert_self name value
  refine ⟨by rw [s.respond_command h]; rfl, hv, fun v => parse_bound_iff h hv, fun hn text config => ?_⟩
  refine parse_congr config (fun call hc => ?_) text
  have hne : call ≠ name := fun he => hn (he ▸ hc)
  simp [Value.resolve, context, Context.get?_insert, hne]

theorem bound_usable_iff_started :
    let line := ":let started() = [1]"
    let value : Json := .array [.number (.integer 1)]
    command? line = some (.bind "started()" value) ∧
    parse "x = started()" (some (({} : Context).insert "started()" value)) =
      .ok (some (.condition { field := "x" } .eq (.string "[1]"))) := by
  intro line value
  have hj : Json.read "[1]" = .ok value := by rw [Json.read]; delta Json.Reader.value; rfl
  have ht : .ofList (Text.trimChars " [1]".toList) = "[1]" := rfl
  have hp : Phrase ":let started() = [1]" ":let" "started() = [1]" := phrase_iff.mpr ⟨rfl, rfl⟩
  have h : command? ":let started() = [1]" = some (.bind "started()" value) :=
    command?_eq_some_iff.mpr ⟨_, rfl, @Command.Written.bind _ "started() ".toList " [1]".toList _ hp
      (by decide) (by decide) (ht ▸ hj)⟩
  obtain ⟨_, _, hu, _⟩ := bound_usable_iff {} (fun _ => .missing) line "started()" value h
  refine ⟨h, (hu _).mpr ⟨⟨"started".toList, ⟨⟨'s', _, rfl, by decide⟩, by simp⟩, ?_, rfl⟩, by decide +kernel⟩⟩
  simp [Lexer.keywords]

-- With a blank before the brackets the lexer makes three tokens of the name.
theorem bound_unusable :
    let line := ":let now ()=1"
    let context : Context := ({} : Context).insert "now ()" (.number (.integer 1))
    command? line = some (.bind "now ()" (.number (.integer 1))) ∧
    ({} : Session).respond (fun _ => .missing) line = (["✓ now () = 1"], .next { context }) ∧
    parse "x = now ()" (some context) = .error ⟨.unexpected .value (.identifier "now"), ⟨4, 7⟩⟩ := by
  intro line context
  have hj : Json.read "1" = .ok (.number (.integer 1)) := by rw [Json.read, Json.Reader.value.eq_def]; rfl
  have hp : Phrase ":let now ()=1" ":let" "now ()=1" := phrase_iff.mpr ⟨rfl, rfl⟩
  have h : command? ":let now ()=1" = some (.bind "now ()" (.number (.integer 1))) :=
    command?_eq_some_iff.mpr ⟨_, rfl, @Command.Written.bind _ "now ()".toList "1".toList _ hp
      (by decide) (by decide) hj⟩
  refine ⟨h, ?_, by decide +kernel⟩
  rw [respond_command _ h]
  rfl

end Session
end Prompt
end FilterQuery
