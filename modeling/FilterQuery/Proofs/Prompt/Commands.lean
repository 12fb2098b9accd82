import FilterQuery.Prompt.Session
import FilterQuery.Proofs.Lexer.Spelling

namespace FilterQuery.Prompt

open Text (isBlank trimChars)

-- A text that is a word, or a word and more behind a blank; and that more without the blanks around it.
inductive Phrase : String → String → String → Prop
  | word (hw : ∀ c ∈ word.toList, isBlank c = false) : Phrase word word ""
  | more (hw : ∀ c ∈ word.toList, isBlank c = false) (hb : isBlank b) :
    Phrase (.ofList (word.toList ++ b :: after)) word (.ofList (trimChars after))

-- The texts of the commands.
inductive Command.Written : String → Command → Prop
  | quit (h : Phrase text word arg) (hw : word ∈ [":quit", ":q"]) : Written text .quit
  | help (h : Phrase text ":help" arg) : Written text .help
  | clearConfig (h : Phrase text ":config" "") : Written text .clearConfig
  | loadConfig (h : Phrase text ":config" path) (hp : path ≠ "") : Written text (.loadConfig path)
  | bind (h : Phrase text ":let" (.ofList (before ++ '=' :: after))) (hn : '=' ∉ before)
    (he : ['(', ')'] <:+ trimChars before) (hv : Json.read (.ofList (trimChars after)) = .ok value) :
    Written text (.bind (.ofList (trimChars before)) value)
  | usualTable (h : Phrase text ":sql" "") : Written text (.sql none)
  | table (h : Phrase text ":sql" table) (ht : table ≠ "") : Written text (.sql (some table))
  | tokens (h : Phrase text ":tokens" arg) : Written text .tokens

-- The command that a line holds, if it can be understood.
def command? (line : String) : Option Command :=
  match Line.read? line with
  | some (.command text) => (Command.ofText text).toOption
  | _ => none

-- A text is cut at the first character that does not have a property.
theorem cut_iff {p : Char → Bool} {cs before after : List Char} :
    cs.takeWhile p = before ∧ cs.dropWhile p = c :: after ↔
      cs = before ++ c :: after ∧ (∀ d ∈ before, p d) ∧ p c = false := by
  constructor
  case mp =>
    rintro ⟨rfl, hd⟩
    have hs := List.takeWhile_append_dropWhile (p := p) (l := cs)
    rw [hd] at hs
    refine ⟨hs.symm, fun _ hm => List.mem_takeWhile_imp hm, ?_⟩
    have hn := List.head?_dropWhile_not p cs
    simpa [hd] using hn
  case mpr =>
    rintro ⟨rfl, hb, hc⟩
    have hh : ∀ d ∈ (c :: after).head?, p d = false := fun d hd => Option.some.inj hd ▸ hc
    exact ⟨Lexer.takeWhile_append hb hh, Lexer.dropWhile_append hb hh⟩

theorem phrase_iff : Phrase text word arg ↔
    (Text.splitAtBlank text).1 = word ∧ Text.trim (Text.splitAtBlank text).2 = arg := by
  simp only [Text.splitAtBlank, Text.trim]
  constructor
  case mp =>
    intro h
    cases h
    case word hw =>
      have hw : ∀ c ∈ text.toList, (!isBlank c) := fun c hc => by simp [hw c hc]
      rw [List.takeWhile_eq_self_iff.mpr hw, List.dropWhile_eq_nil_iff.mpr hw]
      exact ⟨String.ofList_toList, rfl⟩
    case more b after hb hw =>
      have hw : ∀ c ∈ word.toList, (!isBlank c) := fun c hc => by simp [hw c hc]
      have hb : ∀ c ∈ (b :: after).head?, (!isBlank c) = false := by simp [hb]
      rw [String.toList_ofList, Lexer.takeWhile_append hw hb, Lexer.dropWhile_append hw hb]
      exact ⟨String.ofList_toList, by simp⟩
  case mpr =>
    rintro ⟨rfl, rfl⟩
    have hw : ∀ c ∈ (String.ofList (text.toList.takeWhile (!isBlank ·))).toList, isBlank c = false := by
      intro c hc
      rw [String.toList_ofList] at hc
      simpa using List.mem_takeWhile_imp hc
    have hs := List.takeWhile_append_dropWhile (p := (!isBlank ·)) (l := text.toList)
    cases hd : text.toList.dropWhile (!isBlank ·)
    case nil =>
      rw [hd, List.append_nil] at hs
      rw [hs, String.ofList_toList] at hw ⊢
      exact .word hw
    case cons b after =>
      have ⟨ht, _, hb⟩ := cut_iff.mp ⟨rfl, hd⟩
      have hb : isBlank b := by simpa using hb
      have hp : Phrase (.ofList (_ ++ b :: after)) _ _ := .more hw hb
      rw [String.toList_ofList, ← ht, String.ofList_toList] at hp
      simpa using hp

theorem endsInBrackets_iff : Command.endsInBrackets cs ↔ ['(', ')'] <:+ cs := by
  rw [Command.endsInBrackets, List.isPrefixOf_iff_prefix, ← List.reverse_prefix]
  rfl

theorem readBinding_eq_ok_iff : Command.readBinding text = .ok c ↔
    ∃ before after value, text.toList = before ++ '=' :: after ∧ '=' ∉ before ∧ ['(', ')'] <:+ trimChars before ∧
      Json.read (.ofList (trimChars after)) = .ok value ∧ c = .bind (.ofList (trimChars before)) value := by
  simp only [Command.readBinding]
  constructor
  case mp =>
    intro h
    cases hd : text.toList.dropWhile (· != '=') <;> simp only [hd] at h
    case nil => cases h
    case cons d after =>
      obtain ⟨ht, hb, hc⟩ := cut_iff.mp ⟨rfl, hd⟩
      obtain rfl : d = '=' := by simpa using hc
      split at h
      case isTrue => cases h
      case isFalse he =>
        cases hv : Json.read (.ofList (trimChars after)) <;> simp only [hv] at h <;> cases h
        case ok value =>
          refine ⟨_, after, value, ht, fun hm => ?_, endsInBrackets_iff.mp (by simpa using he), hv, rfl⟩
          simpa using hb _ hm
  case mpr =>
    rintro ⟨before, after, value, ht, hn, he, hv, rfl⟩
    have hb : ∀ d ∈ before, (d != '=') := fun d hd => by simpa using fun h : d = '=' => hn (h ▸ hd)
    obtain ⟨hw, hd⟩ := cut_iff.mpr ⟨ht, hb, show ('=' != '=') = false from rfl⟩
    simp [hw, hd, endsInBrackets_iff.mpr he, hv]

theorem ofText_eq_ok_iff : Command.ofText text = .ok c ↔ c.Written text := by
  constructor
  case mp =>
    intro h
    have hp : Phrase text (Text.splitAtBlank text).1 (Text.trim (Text.splitAtBlank text).2) :=
      phrase_iff.mpr ⟨rfl, rfl⟩
    simp only [Command.ofText] at h
    generalize (Text.splitAtBlank text).1 = word at h hp
    generalize Text.trim (Text.splitAtBlank text).2 = arg at h hp
    split at h
    · cases h; exact .quit hp (by simp)
    · cases h; exact .quit hp (by simp)
    · cases h; exact .help hp
    · split at h <;> cases h
      · exact .clearConfig (‹arg = ""› ▸ hp)
      · exact .loadConfig hp ‹_›
    · obtain ⟨before, after, value, ha, hn, he, hv, rfl⟩ := readBinding_eq_ok_iff.mp h
      rw [← String.ofList_toList (s := arg), ha] at hp
      exact .bind hp hn he hv
    · split at h <;> cases h
      · exact .usualTable (‹arg = ""› ▸ hp)
      · exact .table hp ‹_›
    · cases h; exact .tokens hp
    · cases h
  case mpr =>
    intro h
    cases h
    case quit word _ hp hw =>
      have ⟨h₁, _⟩ := phrase_iff.mp hp
      simp only [List.mem_cons, List.not_mem_nil, or_false] at hw
      rcases hw with rfl | rfl <;> simp only [Command.ofText, h₁]
    case help hp =>
      simp only [Command.ofText, (phrase_iff.mp hp).1]
    case clearConfig hp =>
      have ⟨h₁, h₂⟩ := phrase_iff.mp hp
      simp only [Command.ofText, h₁, h₂, if_true]
    case loadConfig hp ha =>
      have ⟨h₁, h₂⟩ := phrase_iff.mp hp
      simp only [Command.ofText, h₁, h₂, ha, if_false]
    case bind hp hn he hv =>
      have ⟨h₁, h₂⟩ := phrase_iff.mp hp
      simp only [Command.ofText, h₁, h₂]
      exact readBinding_eq_ok_iff.mpr ⟨_, _, _, String.toList_ofList, hn, he, hv, rfl⟩
    case usualTable hp =>
      have ⟨h₁, h₂⟩ := phrase_iff.mp hp
      simp only [Command.ofText, h₁, h₂, if_true]
    case table hp ha =>
      have ⟨h₁, h₂⟩ := phrase_iff.mp hp
      simp only [Command.ofText, h₁, h₂, ha, if_false]
    case tokens hp =>
      simp only [Command.ofText, (phrase_iff.mp hp).1]

theorem command?_eq_some_iff :
    command? line = some c ↔ ∃ text, Line.read? line = some (.command text) ∧ c.Written text := by
  simp only [command?]
  cases Line.read? line
  case none => simp
  case some read =>
    cases read
    case command text =>
      have ht : (Command.ofText text).toOption = some c ↔ Command.ofText text = .ok c := by
        cases Command.ofText text <;> simp [Except.toOption]
      simp [ht, ofText_eq_ok_iff]
    all_goals simp

end FilterQuery.Prompt
