import StepPhrase.Proofs.Expression.Matching

/-! The regular expression of a pattern and its expression tell the same of every text. -/
namespace StepPhrase

open Regex

variable {κ : Type} [RecordKind κ] {config : ExpressionConfig} {pattern : String}
  {e : Expression κ} {tokens : List Token} {pieces : List (Piece κ)} {text : String}

theorem Regex.Part.heightAround_le {parts : List Part} {k : Nat} (h : ∀ p ∈ parts, p.height ≤ k) :
    Part.heightAround parts ≤ k + 1 := by
  have hmax : parts.foldl (fun n p => Nat.max n p.height) 0 ≤ k := by
    refine List.foldlRecOn _ _ (motive := (· ≤ k)) (Nat.zero_le k) fun n hn p hp => ?_
    exact Nat.max_le.2 ⟨hn, h p hp⟩
  unfold Part.heightAround
  dsimp only
  split
  · exact Nat.le_succ_of_le hmax
  · exact Nat.succ_le_succ hmax

namespace Piece

variable {b : Reading} {groups k : Nat}

theorem names_readingOf
    (h : ∀ name type, slot name type ∈ pieces → (Reading.ofText type.fragment.toList).names = []) :
    (readingOf pieces).names = [] := by
  have hfold : ∀ b : Reading, b.names = [] → (pieces.foldl onto b).names = [] := by
    induction pieces with
    | nil =>
      intro b hb
      exact hb
    | cons p pieces ih =>
      intro b hb
      refine ih (fun name type hmem => h name type (List.mem_cons_of_mem _ hmem)) _ ?_
      cases p with
      | literal text => simpa [onto, foldl_pushLiteral] using hb
      | slot name type => exact List.append_eq_nil_iff.2 ⟨h name type List.mem_cons_self, hb⟩
  exact hfold _ rfl

theorem height_readingOf_le (h : ∀ name type, slot name type ∈ pieces →
    (Reading.ofText type.fragment.toList).body.height ≤ k) :
    (readingOf pieces).body.height ≤ k + 2 := by
  have hfold : ∀ b : Reading, (∀ p ∈ b.items, p.height ≤ k + 1) →
      ∀ p ∈ (pieces.foldl onto b).items, p.height ≤ k + 1 := by
    induction pieces with
    | nil =>
      intro b hb
      exact hb
    | cons p pieces ih =>
      intro b hb
      refine ih (fun name type hmem => h name type (List.mem_cons_of_mem _ hmem)) _ ?_
      intro q hq
      cases p with
      | literal text =>
        simp only [onto, foldl_pushLiteral, List.mem_append, List.mem_reverse, List.mem_map] at hq
        rcases hq with ⟨a, -, rfl⟩ | hq
        · exact Nat.zero_le _
        · exact hb q hq
      | slot name type =>
        rcases List.mem_cons.1 hq with rfl | hq
        · exact Nat.succ_le_succ (h name type List.mem_cons_self)
        · exact hb q hq
  have hitems : ∀ p ∈ (readingOf pieces).items, p.height ≤ k + 1 := by
    intro p hp
    rcases List.mem_cons.1 hp with rfl | hp
    · exact Nat.zero_le _
    · refine hfold _ (fun q hq => ?_) p hp
      cases List.mem_singleton.1 hq
      exact Nat.zero_le _
  have hbranches : (readingOf pieces).branches = [] := branches_foldl_onto
  have hbody : (readingOf pieces).body.height = Part.heightAround (readingOf pieces).items := by
    simp [Reading.body, hbranches, Part.choose, Part.heightAround, Part.concat]
  rw [hbody]
  exact Part.heightAround_le hitems

/-- The source is an expression if no name is given to two groups and fragments nest little. -/
theorem ofText?_sourceOf (h : Readable pieces) (hnames : (readingOf pieces).names = [])
    (hheight : (readingOf pieces).body.height ≤ maxHeight) :
    Node.ofText? (sourceOf pieces).toList = some (tree pieces) := by
  rcases run_sourceOf h with hrun | ⟨-, hne⟩
  · have houter : (readingOf pieces).outer = [] := outer_foldl_onto
    simp [Node.ofText?, hrun, houter, hheight, node_readingOf]
  · exact absurd hnames hne

/-- The source made under the types that stand ready is always an expression. -/
theorem Resolved.ofText?_sourceOf
    (h : Resolved (.builtin : ParameterTypes κ) config tokens pieces) :
    Node.ofText? (sourceOf pieces).toList = some (tree pieces) := by
  have hready : ∀ name type, slot name type ∈ pieces → ∃ L, Fragment.Ready type.fragment L :=
    h.forall_slot fun p type htype => ⟨_, (ready_of_resolve_builtin htype).fragment⟩
  have hnames : (readingOf pieces).names = [] := names_readingOf fun name type hmem =>
    (hready name type hmem).elim fun L hL => hL.names
  have hheight : (readingOf pieces).body.height ≤ 100 + 2 :=
    height_readingOf_le fun name type hmem => (hready name type hmem).elim fun L hL => hL.height
  exact Piece.ofText?_sourceOf h.readable hnames (Nat.le_trans hheight (by decide))

theorem Resolved.groups_tree (h : Resolved (.builtin : ParameterTypes κ) config tokens pieces) :
    (tree pieces).groups = List.range' 1 (pieces.filterMap slot?).length := by
  have hgroups : ∀ groups, groupsOf groups pieces =
      List.range' (groups + 1) (pieces.filterMap slot?).length := by
    induction h with
    | nil =>
      intro groups
      rfl
    | literal h ih =>
      intro groups
      exact groupsOf_literal.trans (ih groups)
    | openBrace h ih =>
      intro groups
      exact groupsOf_literal.trans (ih groups)
    | closeBrace h ih =>
      intro groups
      exact groupsOf_literal.trans (ih groups)
    | placeholder htype h ih =>
      intro groups
      have hready := ready_of_resolve_builtin htype
      have hopened : ParameterType.opened _ = 0 := hready.fragment.opened
      rw [groupsOf_slot, Node.groups_shift, hready.groups_tree, hopened, Nat.zero_add, ih]
      rfl
  rw [Piece.groups_tree]
  exact hgroups 0

end Piece

namespace Token

/-- The placeholder that a token is. -/
def placeholder? : Token → Option Placeholder
  | placeholder p => some p
  | _ => none

def placeholders (tokens : List Token) : List Placeholder := tokens.filterMap placeholder?

end Token

theorem Piece.Resolved.map_name {types : ParameterTypes κ}
    (h : Resolved types config tokens pieces) :
    (pieces.filterMap slot?).map (·.1) = (Token.placeholders tokens).map (·.name) := by
  induction h with
  | nil => rfl
  | literal h ih => exact ih
  | openBrace h ih => exact ih
  | closeBrace h ih => exact ih
  | placeholder htype h ih => exact congrArg (_ :: ·) ih

theorem Slot.map_name_number {next : Nat} {slots : List (String × ParameterType κ)} :
    (Slot.number next slots).map (·.name) = slots.map (·.1) := by
  induction slots generalizing next with
  | nil => rfl
  | cons s slots ih => rw [number, List.map_cons, ih, List.map_cons]

theorem Slot.counted_of_forall_eq_zero {slots : List (Slot κ)}
    (h : ∀ s ∈ slots, s.type.innerGroups = 0) : Slot.counted slots = slots.length := by
  induction slots with
  | nil => rfl
  | cons s slots ih =>
    rw [counted, h s List.mem_cons_self, ih fun t ht => h t (List.mem_cons_of_mem _ ht),
      List.length_cons]
    omega

theorem layout_of_forall_eq_zero {next : Nat} {sizes : List Nat} (h : ∀ n ∈ sizes, n = 0) :
    layout next sizes = List.range' next sizes.length := by
  induction sizes generalizing next with
  | nil => rfl
  | cons n sizes ih =>
    obtain rfl : n = 0 := h n List.mem_cons_self
    rw [layout, ih fun m hm => h m (List.mem_cons_of_mem _ hm)]
    rfl

namespace Expression

/-- The error is about the first text that the type of its slot refuses. -/
inductive FirstRefused : List (Slot κ) → List String → ParameterError → Prop
  | here {slot : Slot κ} {slots : List (Slot κ)} {text : String} {texts : List String}
    {cause : Cause} : slot.type.convert text = .error cause →
      FirstRefused (slot :: slots) (text :: texts) (.refused slot.type.name text cause)
  | later {slot : Slot κ} {slots : List (Slot κ)} {text : String} {texts : List String}
    {value : Value κ} {fault : ParameterError} : slot.type.convert text = .ok value →
      FirstRefused slots texts fault → FirstRefused (slot :: slots) (text :: texts) fault

theorem firstRefused_of_arguments {slots : List (Slot κ)} {texts : List String}
    {fault : ParameterError} (h : arguments slots texts = .error fault) :
    FirstRefused slots texts fault := by
  induction slots generalizing texts with
  | nil => cases h
  | cons slot slots ih =>
    cases texts with
    | nil => cases h
    | cons text texts =>
      rw [arguments_cons] at h
      rcases bind_eq_error_iff.1 h with h | ⟨arg, harg, h⟩
      · obtain ⟨cause, hconvert, rfl⟩ := mapError_eq_error_iff.1 (map_eq_error_iff.1 h)
        exact .here hconvert
      · obtain ⟨value, hvalue, -⟩ := map_eq_ok_iff.1 harg
        exact .later (mapError_eq_ok_iff.1 hvalue) (ih (map_eq_error_iff.1 h))

namespace MadeOf

theorem map_name {types : ParameterTypes κ} (h : e.MadeOf types config tokens pieces) :
    e.slots.map (·.name) = (Token.placeholders tokens).map (·.name) := by
  rw [h.slots, Slot.map_name_number, h.resolved.map_name]

theorem inner_eq_zero (h : e.MadeOf .builtin config tokens pieces) {s : Slot κ} (hs : s ∈ e.slots) :
    s.type.innerGroups = 0 := by
  obtain ⟨name, hslot⟩ := h.exists_slot_of_mem hs
  have hzero : ∀ name type, Piece.slot name type ∈ pieces → type.innerGroups = 0 :=
    h.resolved.forall_slot fun _ _ htype => (Piece.ready_of_resolve_builtin htype).inner
  exact hzero name _ hslot

/-- The slots keep all groups that there are. -/
theorem map_group (h : e.MadeOf .builtin config tokens pieces) :
    e.slots.map (·.group) = List.range' 1 e.regex.groups := by
  have hsizes : (pieces.filterMap Piece.slot?).map (·.2.innerGroups) =
      e.slots.map (·.type.innerGroups) := (h.map_type (·.innerGroups)).symm
  have hzero : ∀ n ∈ e.slots.map (·.type.innerGroups), n = 0 := by
    intro n hn
    obtain ⟨s, hs, rfl⟩ := List.mem_map.1 hn
    exact h.inner_eq_zero hs
  have hcount : e.regex.groups = e.slots.length := by
    rw [(h.groups_eq_iff .builtin h.resolved.readable).2 h.aligned,
      Slot.counted_of_forall_eq_zero fun s hs => h.inner_eq_zero hs]
  rw [hcount, h.slots, Slot.map_group_number, hsizes, layout_of_forall_eq_zero hzero, List.length_map,
    ← h.slots]

theorem extract?_eq (h : e.MadeOf .builtin config tokens pieces) :
    e.regex.extract? text = e.regex.select? (e.slots.map (·.group)) text := by
  rw [h.map_group, extract?]

end MadeOf

/-- What the expression tells of a text is what all groups of its regular expression tell. -/
structure AgreesOn (e : Expression κ) (text : String) : Prop where
  isMatch : e.regex.isMatch text = true ↔ (e.regex.extract? text).isSome = true
  matched : (e.regex.extract? text).isSome = true ↔ e.match? text ≠ .ok none
  texts : ∀ args, e.match? text = .ok (some args) →
    e.regex.extract? text = some (args.map (·.text))
  refused : ∀ fault, e.match? text = .error fault →
    ∃ texts, e.regex.extract? text = some texts ∧ FirstRefused e.slots texts fault

theorem MadeOf.agreesOn (h : e.MadeOf .builtin config tokens pieces) : e.AgreesOn text := by
  have hisSome : (e.regex.extract? text).isSome = (e.regex.captures? text).isSome := by
    simp [extract?, select?]
  refine ⟨?_, ?_, ?_, ?_⟩
  · rw [hisSome, Regex.isMatch]
  · rw [hisSome, ne_eq, match?_eq_none, Option.isSome_iff_ne_none]
  · intro args hm
    obtain ⟨c, hc, harguments⟩ := match?_eq_some hm
    rw [texts_of_arguments (by simp) harguments, h.extract?_eq, select?, hc]
    rfl
  · intro fault hm
    obtain ⟨c, hc, harguments⟩ := match?_eq_error hm
    refine ⟨_, ?_, firstRefused_of_arguments harguments⟩
    rw [h.extract?_eq, select?, hc]
    rfl

end Expression

namespace Piece

/-- Where unknown hints are texts, only braces can be at fault. -/
theorem exists_of_ofTokens_error {types : ParameterTypes κ} {length depth : Nat}
    {fault : PatternError} (h : (ofTokens types {} length depth tokens).value = .error fault) :
    ∃ e, fault = .placeholder e := by
  induction tokens generalizing depth with
  | nil =>
    unfold ofTokens at h
    split at h
    · cases h
    · cases h
      exact ⟨_, rfl⟩
  | cons token tokens ih =>
    cases token with
    | literal text => exact ih (map_eq_error_iff.1 h)
    | openBrace position => exact ih (map_eq_error_iff.1 h)
    | closeBrace position =>
      cases depth with
      | zero =>
        cases h
        exact ⟨_, rfl⟩
      | succ depth => exact ih (map_eq_error_iff.1 h)
    | placeholder p =>
      obtain ⟨type, htype⟩ : ∃ type, (resolve types {} p).value = .ok type := exists_of_resolve
      simp only [ofTokens, Logged.value_bind, htype] at h
      exact ih (map_eq_error_iff.1 h)

theorem ofPattern_error {types : ParameterTypes κ} {fault : PatternError}
    (h : (ofPattern types {} pattern).value = .error fault) : ∃ e, fault = .placeholder e := by
  unfold ofPattern at h
  split at h
  · cases h
    exact ⟨_, rfl⟩
  · exact exists_of_ofTokens_error h

end Piece

theorem Regex.eq_tooBig_of_compile {source : String} {n : Node} {fault : Regex.Error}
    (hn : Node.ofText? source.toList = some n) (h : Regex.compile source = .error fault) :
    fault = .tooBig := by
  unfold Regex.compile at h
  rw [hn] at h
  dsimp only at h
  split at h
  · cases h
    rfl
  · cases h

/-- The source, the regular expression and the expression of a pattern under the types that stand
ready are refused for the same fault of a brace or placeholder. Otherwise the source is an expression
with one group for each placeholder, at most too big for both others, which agree on all texts. -/
theorem agreement (pattern : String) :
    (∃ fault, sourceOfPattern κ pattern = .error (.placeholder fault) ∧
      regexOfPattern κ pattern = .error (.placeholder fault) ∧
      (Expression.compile (.builtin : ParameterTypes κ) {} pattern).value =
        .error (.placeholder fault)) ∨
    ∃ tokens source node, Token.ofPattern pattern = .ok tokens ∧
      sourceOfPattern κ pattern = .ok source ∧ Node.ofText? source.toList = some node ∧
      node.groups = List.range' 1 (Token.placeholders tokens).length ∧
      (regexOfPattern κ pattern = .error (.regex .tooBig) ∧
          (Expression.compile (.builtin : ParameterTypes κ) {} pattern).value =
            .error (.regex .tooBig) ∨
        ∃ e, regexOfPattern κ pattern = .ok e.regex ∧
          (Expression.compile (.builtin : ParameterTypes κ) {} pattern).value = .ok e ∧
          e.regex.source = source ∧
          e.slots.map (·.name) = (Token.placeholders tokens).map (·.name) ∧
          ∀ text, e.AgreesOn text) := by
  have hcompile : (Expression.compile (.builtin : ParameterTypes κ) {} pattern).value =
      (Piece.ofPattern .builtin {} pattern).value.bind (Expression.ofPieces pattern) := rfl
  unfold regexOfPattern sourceOfPattern
  cases hpieces : (Piece.ofPattern (.builtin : ParameterTypes κ) {} pattern).value with
  | error fault =>
    obtain ⟨e, rfl⟩ := Piece.ofPattern_error hpieces
    rw [hpieces] at hcompile
    exact .inl ⟨e, rfl, rfl, hcompile⟩
  | ok pieces =>
    obtain ⟨tokens, htokens, hresolved⟩ := Piece.ofPattern_ok hpieces
    rw [hpieces] at hcompile
    have hnode := hresolved.ofText?_sourceOf
    have hgroups : (Piece.tree pieces).groups = List.range' 1 (Token.placeholders tokens).length := by
      rw [hresolved.groups_tree, ← List.length_map (·.1), hresolved.map_name, List.length_map]
    refine .inr ⟨tokens, _, _, htokens, rfl, hnode, hgroups, ?_⟩
    have hregex : (((.ok pieces : Except PatternError _).map Piece.sourceOf).bind fun source =>
        (Regex.compile source).mapError PatternError.regex) =
          (Regex.compile (Piece.sourceOf pieces)).mapError .regex := rfl
    have hexpression : ((.ok pieces : Except PatternError _).bind (Expression.ofPieces pattern)) =
        Expression.ofPieces pattern pieces := rfl
    rw [hregex, hcompile, hexpression, Expression.ofPieces]
    cases hr : Regex.compile (Piece.sourceOf pieces) with
    | error fault =>
      cases eq_tooBig_of_compile hnode hr
      exact .inl ⟨rfl, rfl⟩
    | ok r =>
      have hmade : Expression.MadeOf ⟨pattern, r, Slot.number 1 (pieces.filterMap Piece.slot?)⟩
          .builtin {} tokens pieces := ⟨hresolved, hr, rfl⟩
      refine .inr ⟨_, rfl, rfl, ?_, hmade.map_name, fun text => hmade.agreesOn⟩
      exact congrArg Regex.source (Piece.eq_of_compile_sourceOf hresolved.readable hr)

end StepPhrase
