import FilterQuery.Proofs.Sql.Grammar

namespace FilterQuery.Sql

-- The loosest symbol whose text may have a lexeme outside of parentheses.
def Lexeme.rank : Lexeme → Nat
  | .word "OR" => 0
  | .word "AND" => 1
  | .word "NOT" | .word "IS" | .word "NULL" | .word "IN" | .word "LIKE" | .word "ESCAPE" => 3
  | .symbol "=" | .symbol "<>" | .symbol ">" | .symbol ">=" | .symbol "<" | .symbol "<=" => 3
  | _ => 4

def Symbol.rank : Symbol → Nat
  | chain .or => 0
  | chain .and => 1
  | negation => 2
  | predicate | test _ => 3
  | operand => 4

theorem Lexeme.rank_connective (op : Connective) : (word op.symbol).rank = (Symbol.chain op).rank := by
  cases op <;> rfl

theorem Lexeme.rank_relation (relation : Relation) : (symbol relation.symbol).rank = 3 := by
  cases relation <;> rfl

theorem Symbol.rank_part (op : Connective) : (part op).rank = (chain op).rank + 1 := by
  cases op <;> rfl

def Lexeme.weight : Lexeme → Int
  | .symbol "(" => 1
  | .symbol ")" => -1
  | _ => 0

-- The parentheses that are opened but not closed.
def depth : List Lexeme → Int
  | [] => 0
  | k :: xs => k.weight + depth xs

theorem depth_cons (k : Lexeme) (xs : List Lexeme) : depth (k :: xs) = k.weight + depth xs := rfl

theorem depth_append (xs ys : List Lexeme) : depth (xs ++ ys) = depth xs + depth ys := by
  induction xs
  case nil          => simp [depth]
  case cons k xs ih => simp [depth, ih, Int.add_assoc]

-- All parentheses are closed, and what stands outside of them has at least rank `n`.
structure Shape (n : Nat) (xs : List Lexeme) : Prop where
  closed  : depth xs = 0
  outside : ∀ us k vs, xs = us ++ k :: vs → 0 ≤ depth us ∧ (depth us = 0 → n ≤ k.rank)

namespace Shape

theorem mono (h : Shape n xs) (hm : m ≤ n) : Shape m xs where
  closed  := h.closed
  outside us k vs he :=
    have ⟨hp, hr⟩ := h.outside us k vs he
    ⟨hp, fun hd => Nat.le_trans hm <| hr hd⟩

theorem depth_nonneg (h : Shape n xs) (hu : us <+: xs) : 0 ≤ depth us := by
  have ⟨vs, hv⟩ := hu
  cases vs
  case nil  => simp_all [h.closed]
  case cons => exact (h.outside _ _ _ hv.symm).1

theorem nil : Shape n [] where
  closed  := rfl
  outside := by simp

theorem append (h : Shape n xs) (h' : Shape n ys) : Shape n (xs ++ ys) where
  closed  := by rw [depth_append, h.closed, h'.closed]; rfl
  outside us k vs he := by
    cases List.append_eq_append_iff.mp he
    case inl he =>
      have ⟨m, hu, hy⟩ := he
      rw [hu, depth_append, h.closed, Int.zero_add]
      exact h'.outside m k vs hy
    case inr he =>
      have ⟨m, hx, hv⟩ := he
      cases m
      case nil =>
        rw [List.append_nil] at hx
        rw [← hx, h.closed]
        exact h'.outside [] k vs hv.symm
      case cons =>
        cases hv
        exact h.outside us _ _ hx

theorem single (hk : n ≤ k.rank) (hw : k.weight = 0) : Shape n [k] where
  closed  := by rw [depth_cons, hw]; rfl
  outside us k' vs he := by
    cases us
    case nil  => cases he; exact ⟨Int.le_refl _, fun _ => hk⟩
    case cons => simp at he

theorem cons (hk : n ≤ k.rank) (hw : k.weight = 0) (h : Shape n xs) : Shape n (k :: xs) :=
  (single hk hw).append h

-- What stands inside does not matter.
theorem paren (h : Shape m xs) (hn : n ≤ 4) : Shape n (parenthesized xs) where
  closed  := by
    rw [parenthesized, List.cons_append, depth_cons, depth_append, h.closed]
    rfl
  outside us k vs he := by
    cases us
    case nil => cases he; exact ⟨Int.le_refl _, fun _ => hn⟩
    case cons u us =>
      have ⟨hu, he⟩ := List.cons_eq_cons.mp he
      have hp : us <+: xs ++ [.symbol ")"] := ⟨k :: vs, he.symm⟩
      cases List.prefix_concat_iff.mp hp
      case inl hus => simp [hus] at he
      case inr hus =>
        have hd := h.depth_nonneg hus
        have hw : u.weight = 1 := hu ▸ rfl
        rw [depth_cons]
        omega

-- Both texts fall apart at the first lexeme that is too loose for what stands before it.
theorem split_left (h : Shape n xs) (h' : Shape n xs') (hk : k.rank < n) (hk' : k'.rank < n)
    (he : xs ++ k :: ys = xs' ++ k' :: ys') : xs = xs' ∧ k :: ys = k' :: ys' := by
  cases List.append_eq_append_iff.mp he
  case inl he =>
    have ⟨m, hx, hy⟩ := he
    cases m
    case nil => exact ⟨by simpa using hx.symm, hy⟩
    case cons =>
      cases hy
      have hr := (h'.outside _ _ _ hx).2 h.closed
      omega
  case inr he =>
    have ⟨m, hx, hy⟩ := he
    cases m
    case nil => exact ⟨by simpa using hx, hy.symm⟩
    case cons =>
      cases hy
      have hr := (h.outside _ _ _ hx).2 h'.closed
      omega

-- Or at the last one that is too loose for what stands behind it.
theorem split_right (h : Shape n ys) (h' : Shape n ys') (hk : k.rank < n) (hw : k.weight = 0)
    (he : xs ++ k :: ys = xs' ++ k :: ys') : xs = xs' ∧ ys = ys' := by
  have hi : ∀ {m vs vs'}, Shape n vs → Shape n vs' → vs ≠ m ++ k :: vs' := by
    intro m vs vs' h h' he
    have hc := h.closed
    rw [he, depth_append, depth_cons, hw, h'.closed] at hc
    have hr := (h.outside _ _ _ he).2 (by omega)
    omega
  cases List.append_eq_append_iff.mp he
  case inl he =>
    have ⟨m, hx, hy⟩ := he
    cases m
    case nil => exact ⟨by simpa using hx.symm, (List.cons.inj hy).2⟩
    case cons => exact absurd (List.cons.inj hy).2 (hi h h')
  case inr he =>
    have ⟨m, hx, hy⟩ := he
    cases m
    case nil => exact ⟨by simpa using hx, (List.cons.inj hy).2.symm⟩
    case cons => exact absurd (List.cons.inj hy).2 (hi h' h)

end Shape

theorem Constant.shape (value : Constant) : Shape 4 value.lexemes := by
  cases value
  case boolean b => cases b <;> exact .single (Nat.le_refl _) rfl
  case string => exact .single (Nat.le_refl _) rfl
  case number negative text =>
    cases negative
    case false => exact .single (Nat.le_refl _) rfl
    case true  => exact .cons (Nat.le_refl _) rfl <| .single (Nat.le_refl _) rfl

theorem commaSeparated_cons (value : Constant) (values : List Constant) :
    commaSeparated (value :: values) = value.lexemes ++ values.flatMap (.symbol "," :: ·.lexemes) := by
  induction values generalizing value
  case nil => simp [commaSeparated]
  case cons value' values ih =>
    have he : commaSeparated (value :: value' :: values) =
        value.lexemes ++ .symbol "," :: commaSeparated (value' :: values) := by
      simp [commaSeparated]
    rw [he, ih, List.flatMap_cons, List.cons_append]

theorem commaSeparated_shape (values : List Constant) : Shape 4 (commaSeparated values) := by
  cases values
  case nil => exact .nil
  case cons value values =>
    rw [commaSeparated_cons]
    refine value.shape.append ?_
    induction values
    case nil            => exact .nil
    case cons value' _ ih => exact (Shape.cons (Nat.le_refl 4) rfl value'.shape).append ih

theorem Symbol.rank_chain_le (op : Connective) : (chain op).rank ≤ (part op).rank := by
  cases op <;> decide

theorem Lexeme.weight_connective (op : Connective) : (word op.symbol).weight = 0 := by
  cases op <;> rfl

theorem Lexeme.weight_relation (relation : Relation) : (symbol relation.symbol).weight = 0 := by
  cases relation <;> rfl

theorem Reads.shape (h : Reads s xs a) : Shape s.rank xs := by
  have hle : 3 ≤ 4 := by decide
  induction h
  case chain op _ _ _ _ _ _ iha ihb =>
    have hk := Lexeme.rank_connective op
    refine iha.append <| .cons (Nat.le_of_eq hk.symm) (Lexeme.weight_connective op) ?_
    exact ihb.mono (Symbol.rank_chain_le op)
  case part op _ _ _ ih    => exact ih.mono (Symbol.rank_chain_le op)
  case not ih              => exact .cons (by decide) rfl ih
  case positive ih         => exact ih.mono (by decide)
  case predicate iha ihb   => exact (iha.mono hle).append ihb
  case operand ih          => exact ih.mono hle
  case compare r _ ih =>
    have hk := Lexeme.rank_relation r
    exact .cons (Nat.le_of_eq hk.symm) (Lexeme.weight_relation r) <| ih.mono hle
  case like ihb ihc =>
    have hc := Shape.cons (k := .word "ESCAPE") (Nat.le_refl 3) rfl (ihc.mono hle)
    exact .cons (Nat.le_refl 3) rfl <| (ihb.mono hle).append hc
  case isNull    => exact .cons (Nat.le_refl 3) rfl <| .single (Nat.le_refl 3) rfl
  case isNotNull =>
    exact .cons (Nat.le_refl 3) rfl <| .cons (Nat.le_refl 3) rfl <| .single (Nat.le_refl 3) rfl
  case among values _ _ => exact .cons (Nat.le_refl 3) rfl <| (commaSeparated_shape values).paren hle
  case column           => exact .single (Nat.le_refl 4) rfl
  case constant         => exact Constant.shape _
  case paren ih         => exact ih.paren (Nat.le_refl 4)

theorem Reads.test_head (h : Reads (.test a) xs b) : ∃ k ys, xs = k :: ys ∧ k.rank = 3 := by
  cases h
  case compare   => exact ⟨_, _, rfl, Lexeme.rank_relation _⟩
  case like      => exact ⟨_, _, rfl, rfl⟩
  case isNull    => exact ⟨_, _, rfl, rfl⟩
  case isNotNull => exact ⟨_, _, rfl, rfl⟩
  case among     => exact ⟨_, _, rfl, rfl⟩

theorem Constant.head (value : Constant) :
    ∃ k ks, value.lexemes = k :: ks ∧ k.rank = 4 ∧ k ≠ .symbol "(" ∧ ∀ name, k ≠ .name name := by
  cases value
  case boolean b  => cases b <;> exact ⟨_, _, rfl, rfl, by decide, nofun⟩
  case number n _ => cases n <;> exact ⟨_, _, rfl, rfl, by simp, nofun⟩
  case string     => exact ⟨_, _, rfl, rfl, nofun, nofun⟩

theorem Constant.lexemes_ne_name (value : Constant) : value.lexemes ≠ .name name :: xs := by
  have ⟨k, ks, hv, _, _, hn⟩ := value.head
  exact fun he => hn name (List.cons.inj <| hv.symm.trans he).1

theorem Constant.lexemes_ne_parenthesized (value : Constant) : value.lexemes ≠ parenthesized xs := by
  have ⟨k, ks, hv, _, hp, _⟩ := value.head
  exact fun he => hp (List.cons.inj <| hv.symm.trans he).1

theorem Reads.operand_head (h : Reads .operand xs a) : ∃ k ys, xs = k :: ys ∧ k.rank = 4 := by
  cases h
  case column => exact ⟨_, _, rfl, rfl⟩
  case constant value =>
    have ⟨k, ks, hx, hk, _⟩ := value.head
    exact ⟨k, ks, hx, hk⟩
  case paren => exact ⟨_, _, rfl, rfl⟩

theorem Reads.predicate_head (h : Reads .predicate xs a) : ∃ k ys, xs = k :: ys ∧ k.rank = 4 := by
  cases h
  case predicate h _ =>
    have ⟨k, ys, hx, hk⟩ := h.operand_head
    exact ⟨k, ys ++ _, by rw [hx, List.cons_append], hk⟩
  case operand h => exact h.operand_head

theorem Reads.part_ne (h : Reads (.part op) xs a) (h' : Reads (.chain op) ys b) :
    xs ≠ ys ++ .word op.symbol :: zs := by
  intro he
  have hr := (h.shape.outside _ _ _ he).2 h'.shape.closed
  rw [Lexeme.rank_connective, Symbol.rank_part] at hr
  omega

theorem Reads.predicate_ne_not (h : Reads .predicate xs a) : xs ≠ .word "NOT" :: ys := by
  intro he
  have ⟨_, _, hx, hk⟩ := h.predicate_head
  cases hx.symm.trans he
  exact absurd hk (by decide)

theorem Reads.operand_ne (h : Reads .operand xs a) (h' : Reads .operand ys b) (ht : Reads (.test c) zs d) :
    xs ≠ ys ++ zs := by
  intro he
  have ⟨_, _, hz, hk⟩ := ht.test_head
  have hr := (h.shape.outside _ _ _ (hz ▸ he)).2 h'.shape.closed
  rw [hk] at hr
  exact absurd hr (by decide)

theorem Constant.lexemes_append_inj {v v' : Constant} (he : v.lexemes ++ xs = v'.lexemes ++ xs') :
    v = v' ∧ xs = xs' := by
  cases v <;> cases v'
  case number.number n _ n' _ => cases n <;> cases n' <;> simp_all [lexemes]
  case boolean.boolean b b' => cases b <;> cases b' <;> simp_all [lexemes]
  all_goals grind [lexemes]

theorem flatMap_comma_inj {values values' : List Constant}
    (he : values.flatMap (.symbol "," :: ·.lexemes) = values'.flatMap (.symbol "," :: ·.lexemes)) :
    values = values' := by
  induction values generalizing values' <;> cases values'
  case nil.nil  => rfl
  case nil.cons => simp at he
  case cons.nil => simp at he
  case cons.cons ih _ _ =>
    rw [List.flatMap_cons, List.flatMap_cons, List.cons_append, List.cons_append] at he
    have ⟨hv, he⟩ := Constant.lexemes_append_inj (List.cons.inj he).2
    rw [hv, ih he]

theorem commaSeparated_inj (hv : values ≠ []) (hv' : values' ≠ [])
    (he : commaSeparated values = commaSeparated values') : values = values' := by
  cases values <;> cases values' <;> try contradiction
  rw [commaSeparated_cons, commaSeparated_cons] at he
  have ⟨hv, he⟩ := Constant.lexemes_append_inj he
  rw [hv, flatMap_comma_inj he]

-- The induction is on the first reading.
theorem Reads.unique (h : Reads s xs a) (h' : Reads s xs b) : a = b := by
  generalize hx : xs = xs' at h'
  induction h generalizing xs' b
  case chain op _ _ _ _ ha hb iha ihb =>
    cases h'
    case chain ha' hb' =>
      have hr : (Lexeme.word op.symbol).rank < (Symbol.part op).rank := by
        rw [Lexeme.rank_connective, Symbol.rank_part]
        exact Nat.lt_succ_self _
      have ⟨hxs, hys⟩ := hb.shape.split_right hb'.shape hr (Lexeme.weight_connective op) hx
      rw [iha _ hxs ha', ihb _ hys hb']
    case part h' => exact absurd hx.symm (h'.part_ne ha)
  case part h ih =>
    cases h'
    case chain ha' _ => exact absurd hx (h.part_ne ha')
    case part h'     => exact ih _ hx h'
  case not ih =>
    cases h'
    case not h'      => rw [ih _ (List.cons.inj hx).2 h']
    case positive h' => exact absurd hx.symm h'.predicate_ne_not
  case positive h ih =>
    cases h'
    case not         => exact absurd hx h.predicate_ne_not
    case positive h' => exact ih _ hx h'
  case predicate ha hb iha ihb =>
    cases h'
    case predicate ha' hb' =>
      have ⟨k, ys, hk, hr⟩ := hb.test_head
      have ⟨k', ys', hk', hr'⟩ := hb'.test_head
      have hr : k.rank < 4 := by omega
      have hr' : k'.rank < 4 := by omega
      rw [hk, hk'] at hx
      have ⟨hxs, hys⟩ := ha.shape.split_left ha'.shape hr hr' hx
      rw [iha _ hxs ha'] at ihb
      exact ihb _ (hk.trans <| hys.trans hk'.symm) hb'
    case operand h' => exact absurd hx.symm (h'.operand_ne ha hb)
  case operand h ih =>
    cases h'
    case predicate ha' hb' => exact absurd hx (h.operand_ne ha' hb')
    case operand h'        => exact ih _ hx h'
  case compare r _ ih =>
    cases h'
    case compare r' h' =>
      have hr : r = r' := by cases r <;> cases r' <;> simp_all [Relation.symbol]
      rw [hr, ih _ (List.cons.inj hx).2 h']
    all_goals exact nomatch (List.cons.inj hx).1
  case like hb hc ihb ihc =>
    cases h'
    case like hb' hc' =>
      have ⟨hys, hzs⟩ := hb.shape.split_left hb'.shape (by decide) (by decide) (List.cons.inj hx).2
      rw [ihb _ hys hb', ihc _ (List.cons.inj hzs).2 hc']
    all_goals exact nomatch (List.cons.inj hx).1
  case isNull    => cases h' <;> simp_all
  case isNotNull => cases h' <;> simp_all
  case among hv =>
    cases h'
    case among hv' =>
      have he := List.append_cancel_right (List.cons.inj (List.cons.inj hx).2).2
      rw [commaSeparated_inj hv hv' he]
    all_goals exact nomatch (List.cons.inj hx).1
  case column =>
    cases h'
    case column         => cases hx; rfl
    case constant value => exact absurd hx.symm value.lexemes_ne_name
    case paren          => cases hx
  case constant value =>
    cases h'
    case column => exact absurd hx value.lexemes_ne_name
    case constant value' =>
      have he : value.lexemes ++ [] = value'.lexemes ++ [] := congrArg (· ++ []) hx
      rw [(Constant.lexemes_append_inj he).1]
    case paren => exact absurd hx value.lexemes_ne_parenthesized
  case paren ih =>
    cases h'
    case column         => cases hx
    case constant value => exact absurd hx.symm value.lexemes_ne_parenthesized
    case paren h'       => exact ih _ (List.append_cancel_right (List.cons.inj hx).2) h'

end FilterQuery.Sql
