import StepPhrase.Proofs.Expression.Agreement
import StepPhrase.Proofs.Pattern.Choice

/-! Of all cuts of a text along a pattern, the one that its expression finds. -/
namespace StepPhrase

open Regex ParameterType

variable {κ : Type} [RecordKind κ] {config : ExpressionConfig} {pattern text : String}
  {type : ParameterType κ} {p : Placeholder} {tokens : List Token} {pieces : List (Piece κ)}
  {e : Expression κ} {s : List Char} {args args' : List String}

namespace Token

/-- Which texts the placeholders try first. -/
def preferences (tokens : List Token) : List Preference :=
  (placeholders tokens).map fun p => preference p.hint

/-- The arguments of the cut that comes before all others. -/
structure FirstCut (tokens : List Token) (s : List Char) (args : List String) : Prop where
  cut : Cut tokens s args
  first : ∀ other, Cut tokens s other → other = args ∨ Precedes (preferences tokens) args other

theorem FirstCut.unique (h : FirstCut tokens s args) (h' : FirstCut tokens s args') :
    args = args' := by
  rcases h'.first args h.cut with heq | hlt
  · exact heq
  · rcases h.first args' h'.cut with heq | hgt
    · exact heq.symm
    · exact absurd hgt hlt.asymm

end Token

namespace Piece

theorem chooses_of_resolve_builtin
    (h : (resolve (.builtin : ParameterTypes κ) config p).value = .ok type)
    (hfloat : ∀ t : FloatType, p.hint ≠ some t.name) : type.Chooses (preference p.hint) := by
  rcases resolve_eq_ok h with ⟨hint, hhint, ht⟩ | ⟨hhint | ⟨hint, hhint, hnone⟩, name, rfl⟩
  · rw [hhint] at hfloat ⊢
    exact ParameterTypes.chooses_of_get?_builtin ht fun t heq => hfloat t (congrArg some heq)
  · rw [hhint]
    exact Fragment.chooses_text
  · rw [hhint, ParameterTypes.preference_of_get?_builtin hnone]
    exact Fragment.chooses_text

theorem Resolved.choosing (h : Resolved (.builtin : ParameterTypes κ) config tokens pieces)
    (hfloat : ∀ p ∈ Token.placeholders tokens, ∀ t : FloatType, p.hint ≠ some t.name) :
    Choosing pieces (Token.preferences tokens) := by
  induction h with
  | nil => exact .nil
  | literal h ih => exact ih hfloat
  | openBrace h ih => exact ih hfloat
  | closeBrace h ih => exact ih hfloat
  | placeholder htype h ih =>
    obtain ⟨hp, hrest⟩ := List.forall_mem_cons.1 hfloat
    exact .cons ⟨(ready_of_resolve_builtin htype).groups_tree, chooses_of_resolve_builtin htype hp⟩
      (ih hrest)

end Piece

namespace Expression

theorem MadeOf.select?_eq_some_iff_firstCut (h : e.MadeOf .builtin config tokens pieces)
    (hfloat : ∀ p ∈ Token.placeholders tokens, ∀ t : FloatType, p.hint ≠ some t.name) :
    e.regex.select? (e.slots.map (·.group)) text = some args ↔
      Token.FirstCut tokens text.toList args := by
  have hr := h.resolved.readable
  have hfirst : ∀ c, e.regex.captures? text = some c →
      Token.FirstCut tokens text.toList ((Piece.opening 0 pieces).map c.textOf) := by
    intro c hc
    constructor
    · exact (Piece.cut_iff h.resolved).1 (Piece.cut_of_captures? hr h.regex hc).2
    · intro other hother
      exact Piece.precedes_of_captures? hr (h.resolved.choosing hfloat) h.regex hc
        ((Piece.cut_iff h.resolved).2 hother)
  rw [h.map_group_eq_iff.2 h.aligned, Regex.select?, Option.map_eq_some_iff]
  constructor
  · rintro ⟨c, hc, rfl⟩
    exact hfirst c hc
  · intro hargs
    have hsome : (e.regex.captures? text).isSome = true :=
      (Piece.isSome_captures?_iff hr h.regex).2 ⟨args, (Piece.cut_iff h.resolved).2 hargs.cut⟩
    obtain ⟨c, hc⟩ := Option.isSome_iff_exists.1 hsome
    exact ⟨c, hc, (hfirst c hc).unique hargs⟩

/-- Of all cuts of a text along the tokens, an expression without floats finds the one that comes
first: the placeholders are compared from left to right, and each takes as little text as it can, or
as much as it can if it is for a word or an integer. -/
theorem match?_firstCut (h : (compile (.builtin : ParameterTypes κ) config pattern).value = .ok e)
    (htokens : Token.ofPattern pattern = .ok tokens)
    (hfloat : ∀ p ∈ Token.placeholders tokens, ∀ t : FloatType, p.hint ≠ some t.name)
    (text : String) :
    (e.match? text ≠ .ok none ↔ ∃ texts, Token.FirstCut tokens text.toList texts) ∧
      (∀ texts, e.regex.select? (e.slots.map (·.group)) text = some texts ↔
        Token.FirstCut tokens text.toList texts) ∧
      ∀ args, e.match? text = .ok (some args) →
        Token.FirstCut tokens text.toList (args.map (·.text)) := by
  obtain ⟨tokens', pieces, htokens', -, hmade⟩ := exists_madeOf h
  cases htokens.symm.trans htokens'
  have hselect : ∀ texts, e.regex.select? (e.slots.map (·.group)) text = some texts ↔
      Token.FirstCut tokens text.toList texts :=
    fun texts => hmade.select?_eq_some_iff_firstCut hfloat
  refine ⟨⟨fun hmatch => ?_, ?_⟩, hselect, fun args hm => (hselect _).1 ?_⟩
  · obtain ⟨c, hc⟩ := Option.ne_none_iff_exists'.1 (mt match?_eq_none.2 hmatch)
    exact ⟨_, (hselect _).1 (by rw [Regex.select?, hc]; rfl)⟩
  · rintro ⟨texts, hfirst⟩
    exact match?_ne_none_of_select? ((hselect texts).2 hfirst)
  · obtain ⟨c, hc, harguments⟩ := match?_eq_some hm
    rw [Regex.select?, hc, texts_of_arguments (by simp) harguments]
    rfl

/-- Numbers take what they can and leave the next one a digit, and texts end at the first blank. -/
theorem match?_firstCut_numbers : ∃ (e : Expression Suite.RecordType) (tokens : List Token),
    (compile .builtin {} "{n:u8}{m:u8} {a} {b}").value = .ok e ∧
      Token.ofPattern "{n:u8}{m:u8} {a} {b}" = .ok tokens ∧ e.match? "123 x y z" ≠ .ok none ∧
      Token.FirstCut tokens "123 x y z".toList ["12", "3", "x", "y z"] := by
  obtain ⟨e, he, hselect⟩ : ∃ e : Expression Suite.RecordType,
      (compile .builtin {} "{n:u8}{m:u8} {a} {b}").value = .ok e ∧
        e.regex.select? (e.slots.map (·.group)) "123 x y z" = some ["12", "3", "x", "y z"] :=
    exists_ok_of_any (by decide +kernel)
  obtain ⟨tokens, htokens, hhints⟩ : ∃ tokens,
      Token.ofPattern "{n:u8}{m:u8} {a} {b}" = .ok tokens ∧
        ∀ p ∈ Token.placeholders tokens, p.hint ∈ [none, some "u8"] :=
    exists_ok_of_any (by decide +kernel)
  have hfloat : ∀ p ∈ Token.placeholders tokens, ∀ t : FloatType, p.hint ≠ some t.name := by
    intro p hp t heq
    have hmem : some t.name ∈ [none, some "u8"] := heq ▸ hhints p hp
    cases t
    · exact absurd hmem (by decide)
    · exact absurd hmem (by decide)
  obtain ⟨hmatch, hfirst, -⟩ := match?_firstCut he htokens hfloat "123 x y z"
  have hcut := (hfirst _).1 hselect
  exact ⟨e, tokens, he, htokens, hmatch.2 ⟨_, hcut⟩, hcut⟩

end Expression

end StepPhrase
