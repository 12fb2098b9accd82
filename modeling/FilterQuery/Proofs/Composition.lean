import FilterQuery.Proofs.Lexer.Locality
import FilterQuery.Proofs.Parser.Acceptance

namespace FilterQuery

open Lexer (Cuts)

namespace Grammar

-- There are tokens, and the last of them opens no parenthesis.
def Ends (ts : List Token.Kind) : Prop :=
  ∃ kind ∈ ts.getLast?, kind ≠ .openParen

namespace Ends

theorem single (h : kind ≠ .openParen) : Ends [kind] :=
  ⟨kind, rfl, h⟩

theorem append_left (ts : List Token.Kind) (h : Ends us) : Ends (ts ++ us) := by
  have ⟨last, hl, hn⟩ := h
  exact ⟨last, by simp_all [List.getLast?_append], hn⟩

theorem append (h : Ends ts) (hu : us ≠ [] → Ends us) : Ends (ts ++ us) := by
  by_cases hn : us = []
  case pos => rwa [hn, List.append_nil]
  case neg => exact (hu hn).append_left ts

theorem getLast?_ne (h : Ends ts) : ts.getLast? ≠ some .openParen := by
  have ⟨_, hl, hn⟩ := h
  exact fun he => hn <| Option.some.inj <| hl.symm.trans he

end Ends

def Symbol.Ends (ts : List Token.Kind) : Symbol → Prop
  | tail _ _ => ts ≠ [] → Grammar.Ends ts
  | _ => Grammar.Ends ts

theorem Symbol.Ends.operand (h : (operand op).Ends ts) : Grammar.Ends ts := by
  cases op <;> exact h

theorem Literal.ne_openParen (h : Literal context kind v) : kind ≠ .openParen := by
  cases h <;> exact nofun

-- Behind an opening parenthesis, an operand is missing.
theorem Derives.ends (h : Derives context x ts e) : x.Ends ts := by
  induction h
  case chain ih₁ ih₂   => exact ih₁.operand.append ih₂
  case done            => exact fun h => absurd rfl h
  case more ih₁ ih₂    => exact fun _ => (ih₁.operand.append ih₂).append_left [_]
  case not ih          => exact ih.append_left [.not]
  case primary ih      => exact ih
  case paren ts _ _ _  =>
    have hc : Ends [.closeParen] := .single nofun
    exact hc.append_left (.openParen :: ts)
  case boolean b       =>
    have hb : Ends [.boolean b] := .single nofun
    exact hb
  case condition hv    => exact ((Ends.single hv.ne_openParen).append_left [_]).append_left _
  case membership      =>
    have hc : Ends [.closeBracket] := .single nofun
    exact ((hc.append_left _).append_left [.membership, .openBracket]).append_left _

theorem Derives.paren_operand (h : Derives context (.chain .or) ts e) (op : Connective) :
    Derives context (.operand op) (.openParen :: (ts ++ [.closeParen])) (.paren e) := by
  have hp : Derives context (.operand .and) _ _ := .primary (.paren h)
  cases op
  case and => exact hp
  case or  => exact hp.operand_chain

theorem Derives.chain_or {op : Connective} (h : Derives context (.chain op) ts e) :
    Derives context (.chain .or) ts e := by
  cases op
  case and =>
    have ho : Derives context (.operand .or) ts e := h
    exact ho.operand_chain
  case or => exact h

end Grammar

open Grammar (Derives)

-- What is derived from the tokens of a text is all that can come of it.
theorem parse_eq_ok_iff_of_derives (hc : Cuts text.toList kinds []) (hd : Derives context (.chain .or) kinds e)
    (hf : e.Finite) : parse text context = .ok r ↔ r = some e ∧ e.nesting ≤ maxDepth := by
  constructor
  case mp =>
    intro h
    cases r
    case none =>
      have hn := hc.unique <| parse_eq_none_iff_cuts.mp h
      have ⟨_, hm, _⟩ := hd.ends
      exact nomatch hn ▸ hm
    case some e' =>
      have ⟨kinds', hc', hs⟩ := parse_eq_some_iff_cuts.mp h
      have ⟨hd', _, hn⟩ := Grammar.spelled_iff.mp <| hc.unique hc' ▸ hs
      cases hd.unique hd'
      exact ⟨rfl, hn⟩
  case mpr =>
    rintro ⟨rfl, hn⟩
    exact parse_eq_some_iff_cuts.mpr ⟨kinds, hc, Grammar.spelled_iff.mpr ⟨hd, hf, hn⟩⟩

-- What an accepted text is in parentheses, whatever follows them.
structure Grouped (context : Option Context) (text : String) (kinds : List Token.Kind) (e : Expr) :
    Prop where
  cuts (left : List Char) :
    Cuts ('(' :: (text.toList ++ ')' :: left)) (.openParen :: (kinds ++ [.closeParen])) left
  derives : Derives context (.chain .or) kinds e
  finite : e.Finite

theorem grouped_of_parse (h : parse text context = .ok (some e)) : ∃ kinds, Grouped context text kinds e := by
  have ⟨kinds, hc, hs⟩ := parse_eq_some_iff_cuts.mp h
  refine ⟨kinds, fun left => .lexeme rfl ?_, hs.derives, hs.finite⟩
  exact (hc.append_left hs.derives.ends.getLast?_ne .closeParen).trans <| .single rfl

theorem parse_joined (op : Connective) (hs : parse s context = .ok (some e))
    (ht : parse t context = .ok (some f)) :
    parse ("(" ++ s ++ ") " ++ op.symbol ++ " (" ++ t ++ ")") context = .ok r ↔
      r = some (.binary (.paren e) op (.paren f)) ∧ e.nesting ≤ 255 ∧ f.nesting ≤ 255 := by
  have ⟨ks, hks⟩ := grouped_of_parse hs
  have ⟨kt, hkt⟩ := grouped_of_parse ht
  have hc := (hks.cuts _).trans <| .gap (c := ' ') rfl <|
    (Cuts.connective op .space).trans <| .gap rfl <| hkt.cuts []
  have hl := (hks.derives.paren_operand op).operand_chain
  have hd := (hl.chain_snoc <| hkt.derives.paren_operand op).chain_or
  have hf : Expr.Finite (.binary (.paren e) op (.paren f)) :=
    List.forall_mem_append.mpr ⟨hks.finite, hkt.finite⟩
  have hn : Expr.nesting (.binary (.paren e) op (.paren f)) ≤ maxDepth ↔
      e.nesting ≤ 255 ∧ f.nesting ≤ 255 := by
    simp only [Expr.nesting, maxDepth]
    omega
  rw [parse_eq_ok_iff_of_derives (by simpa using hc) hd hf, hn]

theorem parse_negated (hs : parse s context = .ok (some e)) :
    parse ("NOT (" ++ s ++ ")") context = .ok r ↔ r = some (.not (.paren e)) ∧ e.nesting ≤ 254 := by
  have ⟨ks, hks⟩ := grouped_of_parse hs
  have hm : ("NOT", .not) ∈ Lexer.keywords := by decide
  have hc := (Cuts.keyword "NOT" hm .space).trans <| .gap rfl <| hks.cuts []
  have hd : Derives context (.operand .and) _ _ := .not (hks.derives.paren_operand .and)
  have hn : Expr.nesting (.not (.paren e)) ≤ maxDepth ↔ e.nesting ≤ 254 := by
    simp only [Expr.nesting, maxDepth]
    omega
  rw [parse_eq_ok_iff_of_derives (by simpa using hc) hd.operand_chain.chain_or hks.finite, hn]

-- Accepted texts stay what they are between parentheses, and neither can change the other or reach out of its
-- own, so the nesting is all that can stand in the way.
theorem parse_composed (s t : String) (context : Option Context) (e f : Expr)
    (hs : parse s context = .ok (some e)) (ht : parse t context = .ok (some f)) :
    (∀ op r, parse ("(" ++ s ++ ") " ++ op.symbol ++ " (" ++ t ++ ")") context = .ok r ↔
      r = some (.binary (.paren e) op (.paren f)) ∧ e.nesting ≤ 255 ∧ f.nesting ≤ 255) ∧
    ∀ r, parse ("NOT (" ++ s ++ ")") context = .ok r ↔
      r = some (.not (.paren e)) ∧ e.nesting ≤ 254 :=
  ⟨fun op _ => parse_joined op hs ht, fun _ => parse_negated hs⟩

-- The string of the one looks like the end of its parentheses, and the other ends like the name of a call.
theorem parse_composed_closing :
    let e : Expr := .binary (.boolean false) .or (.condition { field := "a" } .eq (.string ") OR (true"))
    let f : Expr := .not (.condition { field := "b" } .neq .null)
    (∀ op r, parse ("(" ++ "false OR a = \") OR (true\"" ++ ") " ++ op.symbol ++ " (" ++ "NOT b != empty" ++ ")") =
        .ok r ↔
      r = some (.binary (.paren e) op (.paren f)) ∧ e.nesting ≤ 255 ∧ f.nesting ≤ 255) ∧
    ∀ r, parse ("NOT (" ++ "false OR a = \") OR (true\"" ++ ")") = .ok r ↔
      r = some (.not (.paren e)) ∧ e.nesting ≤ 254 := by
  intro e f
  exact parse_composed "false OR a = \") OR (true\"" "NOT b != empty" none e f (by decide +kernel) (by decide +kernel)

end FilterQuery
