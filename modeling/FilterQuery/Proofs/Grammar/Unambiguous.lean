import FilterQuery.Proofs.Grammar.Basic

namespace FilterQuery.Grammar

theorem Literal.unique (h : Literal context kind v) (h' : Literal context kind v') : v = v' :=
  Option.some.inj <| (value?_eq_some_iff.mpr h).symm.trans (value?_eq_some_iff.mpr h')

-- No value is spelled by the tokens which hold a list together.
theorem Literal.ne_punctuation (h : Literal context kind v) :
    kind ≠ .comma ∧ kind ≠ .closeBracket := by
  cases h <;> exact ⟨nofun, nofun⟩

theorem Field.unique_append (h : Field ts a) (h' : Field ts' a')
    (he : ts ++ kind :: r = ts' ++ kind' :: r') (hk : kind ≠ .openBracket)
    (hk' : kind' ≠ .openBracket) : ts = ts' ∧ a = a' ∧ kind :: r = kind' :: r' := by
  cases h <;> cases h' <;> simp_all

theorem Field.head_identifier (h : Field ts a) : ∃ name us, ts = .identifier name :: us := by
  cases h <;> exact ⟨_, _, rfl⟩

-- Lists of items without the separator and the closing mark are equal once their texts agree that far.
theorem intersperse_inj {sep close : α} {items items' : List α}
    (he : items.intersperse sep ++ close :: r = items'.intersperse sep ++ close :: r')
    (hn : sep ≠ close) (h : ∀ k ∈ items, k ≠ sep ∧ k ≠ close)
    (h' : ∀ k ∈ items', k ≠ sep ∧ k ≠ close) : items = items' := by
  induction items generalizing items'
  case nil =>
    cases items'
    case nil         => rfl
    case cons k rest => cases rest <;> simp_all
  case cons k rest ih =>
    cases items'
    case nil => cases rest <;> simp_all
    case cons k' rest' =>
      have hr := fun k hk => h k (List.mem_cons_of_mem _ hk)
      have hr' := fun k hk => h' k (List.mem_cons_of_mem _ hk)
      cases rest <;> cases rest'
      case nil.nil  => simp_all
      case nil.cons => simp_all
      case cons.nil => simp_all
      case cons.cons =>
        simp only [List.intersperse_cons_cons, List.cons_append, List.cons.injEq, true_and] at he
        rw [he.1, ih he.2 hr hr']

theorem literals_unique (h : List.Forall₂ (Literal context) items values)
    (h' : List.Forall₂ (Literal context) items values') : values = values' := by
  induction h generalizing values'
  case nil => cases h'; rfl
  case cons hv _ ih =>
    cases h'
    case cons hv' ht => rw [hv.unique hv', ih ht]

theorem literals_ne_punctuation (h : List.Forall₂ (Literal context) items values) :
    ∀ k ∈ items, k ≠ .comma ∧ k ≠ .closeBracket := by
  induction h
  case nil => exact fun _ => nofun
  case cons hv _ ih =>
    intro k hk
    cases hk
    case head    => exact hv.ne_punctuation
    case tail hk => exact ih k hk

-- `r` cannot carry on what `x` spells.
def Symbol.Stops (r : List Token.Kind) : Symbol → Prop
  | chain op | tail op _ => ∀ op', op' = op ∨ op = .or → r.head? ≠ some (.connective op')
  | negation | primary   => True

theorem Symbol.Stops.operand (h : (Symbol.tail op left).Stops r) : (Symbol.operand op).Stops r := by
  cases op
  case and => trivial
  case or  => exact fun op' _ => h op' (.inr rfl)

theorem Symbol.stops_closeParen (x : Symbol) : x.Stops (.closeParen :: r) := by
  cases x <;> simp [Stops]

theorem Derives.tail_stops (h : Derives context (.tail op left) us e)
    (hs : (Symbol.tail op left).Stops r) : (Symbol.operand op).Stops (us ++ r) := by
  cases h
  case done => exact hs.operand
  case more => cases op <;> simp [Symbol.operand, Symbol.Stops]

theorem Derives.primary_head (h : Derives context .primary ts e) :
    ∃ kind us, ts = kind :: us ∧ kind ≠ .not := by
  cases h
  case paren   => exact ⟨_, _, rfl, nofun⟩
  case boolean => exact ⟨_, _, rfl, nofun⟩
  case condition hf _ =>
    have ⟨_, _, hf⟩ := hf.head_identifier
    exact hf ▸ ⟨_, _, rfl, nofun⟩
  case membership hf _ =>
    have ⟨_, _, hf⟩ := hf.head_identifier
    exact hf ▸ ⟨_, _, rfl, nofun⟩

-- The induction is on the first derivation. Both texts may go on with other tokens, since the parts of a
-- text are followed by the rest of it.
theorem Derives.unique_append (h : Derives context x ts e) (h' : Derives context x ts' e')
    (hs : x.Stops r) (hs' : x.Stops r') (he : ts ++ r = ts' ++ r') : ts = ts' ∧ e = e' := by
  induction h generalizing ts' e' r r'
  case chain ht ih₁ ih₂ =>
    cases h'
    case chain h₁ h₂ =>
      rw [List.append_assoc, List.append_assoc] at he
      have ⟨hts, hl⟩ := ih₁ h₁ (ht.tail_stops hs) (h₂.tail_stops hs') he
      subst hts hl
      have ⟨hus, hr⟩ := ih₂ h₂ hs hs' (List.append_cancel_left he)
      exact ⟨congrArg _ hus, hr⟩
  case done op _ =>
    cases h'
    case done => exact ⟨rfl, rfl⟩
    case more => exact absurd (congrArg List.head? he) (hs op (.inl rfl))
  case more ht ih₁ ih₂ =>
    cases h'
    case done => exact absurd (congrArg List.head? he).symm (hs' _ (.inl rfl))
    case more h₁ h₂ =>
      simp only [List.cons_append, List.append_assoc, List.cons.injEq, true_and] at he
      have ⟨hts, hl⟩ := ih₁ h₁ (ht.tail_stops hs) (h₂.tail_stops hs') he
      subst hts hl
      have ⟨hus, hr⟩ := ih₂ h₂ hs hs' (List.append_cancel_left he)
      exact ⟨congrArg _ (congrArg _ hus), hr⟩
  case not ih =>
    cases h'
    case not h' =>
      have ⟨hts, hr⟩ := ih h' trivial trivial (List.tail_eq_of_cons_eq he)
      exact ⟨congrArg _ hts, congrArg _ hr⟩
    case primary h' =>
      have ⟨_, _, hts, hn⟩ := h'.primary_head
      subst hts
      exact absurd (List.head_eq_of_cons_eq he).symm hn
  case primary h ih =>
    cases h'
    case not =>
      have ⟨_, _, hts, hn⟩ := h.primary_head
      subst hts
      exact absurd (List.head_eq_of_cons_eq he) hn
    case primary h' => exact ih h' hs hs' he
  case paren ih =>
    cases h'
    case paren h' =>
      simp only [List.cons_append, List.append_assoc, List.cons.injEq, true_and] at he
      have ⟨hts, hr⟩ := ih h' (Symbol.stops_closeParen _) (Symbol.stops_closeParen _) he
      exact ⟨hts ▸ rfl, congrArg _ hr⟩
    case boolean         => exact absurd (List.head_eq_of_cons_eq he) nofun
    case condition hf _  => cases hf <;> exact absurd (List.head_eq_of_cons_eq he) nofun
    case membership hf _ => cases hf <;> exact absurd (List.head_eq_of_cons_eq he) nofun
  case boolean =>
    cases h'
    case paren           => exact absurd (List.head_eq_of_cons_eq he) nofun
    case boolean         => cases he; exact ⟨rfl, rfl⟩
    case condition hf _  => cases hf <;> exact absurd (List.head_eq_of_cons_eq he) nofun
    case membership hf _ => cases hf <;> exact absurd (List.head_eq_of_cons_eq he) nofun
  case condition hf hv =>
    cases h'
    case paren   => cases hf <;> exact absurd (List.head_eq_of_cons_eq he) nofun
    case boolean => cases hf <;> exact absurd (List.head_eq_of_cons_eq he) nofun
    case condition hf' hv' =>
      simp only [List.append_assoc, List.cons_append] at he
      have ⟨hts, ha, hr⟩ := hf.unique_append hf' he nofun nofun
      subst hts ha
      cases hr
      exact ⟨rfl, congrArg _ (hv.unique hv')⟩
    case membership hf' hv' =>
      simp only [List.append_assoc, List.cons_append] at he
      exact nomatch (hf.unique_append hf' he nofun nofun).2.2
  case membership hf hv =>
    cases h'
    case paren   => cases hf <;> exact absurd (List.head_eq_of_cons_eq he) nofun
    case boolean => cases hf <;> exact absurd (List.head_eq_of_cons_eq he) nofun
    case condition hf' hv' =>
      simp only [List.append_assoc, List.cons_append] at he
      exact nomatch (hf.unique_append hf' he nofun nofun).2.2
    case membership hf' hv' =>
      simp only [List.append_assoc, List.cons_append] at he
      have ⟨hts, ha, hr⟩ := hf.unique_append hf' he nofun nofun
      subst hts ha
      simp only [List.cons.injEq, true_and] at hr
      have hi := intersperse_inj hr nofun (literals_ne_punctuation hv) (literals_ne_punctuation hv')
      subst hi
      exact ⟨rfl, congrArg _ (literals_unique hv hv')⟩

theorem Derives.unique (h : Derives context (.chain .or) ts e) (h' : Derives context (.chain .or) ts e') :
    e = e' :=
  have hs : (Symbol.chain .or).Stops [] := fun _ _ => nofun
  (h.unique_append h' hs hs rfl).2

end FilterQuery.Grammar
