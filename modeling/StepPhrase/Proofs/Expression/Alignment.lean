import StepPhrase.Proofs.Expression.Compiled
import StepPhrase.Suite.Record

/-! When the groups kept for placeholders are those opened around their fragments. -/
namespace StepPhrase

open Regex

theorem Regex.Node.AmongFirst.maxGroup_le {n : Node} {k : Nat} (h : n.AmongFirst k) :
    n.maxGroup 0 ≤ k := by
  rw [Node.maxGroup_eq_foldl]
  refine List.foldlRecOn _ _ (motive := (· ≤ k)) (Nat.zero_le k) fun m hm i hi => ?_
  exact Nat.max_le.2 ⟨hm, (h i hi).2⟩

/-- Where blocks of given sizes begin, if a place is left before each for the number of the block. -/
def layout (next : Nat) : List Nat → List Nat
  | [] => []
  | n :: sizes => next :: layout (next + 1 + n) sizes

theorem layout_eq_iff {k : Nat} {xs ys : List Nat} (hlength : xs.length = ys.length) :
    layout k xs = layout k ys ↔ xs.dropLast = ys.dropLast := by
  induction xs generalizing k ys with
  | nil => simp [List.length_eq_zero_iff.1 hlength.symm]
  | cons x xs ih =>
    obtain ⟨y, ys, rfl⟩ := List.exists_cons_of_length_eq_add_one hlength.symm
    have htail : xs.length = ys.length := Nat.succ.inj hlength
    cases xs with
    | nil => simp [List.length_eq_zero_iff.1 htail.symm, layout]
    | cons x' xs =>
      obtain ⟨y', ys, rfl⟩ := List.exists_cons_of_length_eq_add_one htail.symm
      simp only [layout, List.dropLast_cons_cons, List.cons.injEq, true_and] at ih ⊢
      constructor
      · rintro ⟨hhead, hrest⟩
        obtain rfl : x = y := by omega
        exact ⟨rfl, (ih (k := k + 1 + x) htail).1 (by simp [layout, hrest])⟩
      · rintro ⟨rfl, hrest⟩
        have := (ih (k := k + 1 + x) htail).2 hrest
        simpa [layout] using this

variable {κ : Type} [RecordKind κ] {types : ParameterTypes κ} {type : ParameterType κ}
  {config : ExpressionConfig} {pattern : String} {e : Expression κ}

theorem ParameterType.Accepted.inner_le (h : type.Accepted) : type.innerGroups ≤ type.opened := by
  rw [h.inner]
  exact h.whole.amongFirst.maxGroup_le

namespace Slot

variable {next : Nat} {slots : List (String × ParameterType κ)}

/-- The groups that are counted for slots: one each, and those inside of their fragments. -/
def counted : List (Slot κ) → Nat
  | [] => 0
  | s :: slots => 1 + s.type.innerGroups + counted slots

theorem map_type_number : (number next slots).map (·.type) = slots.map (·.2) := by
  induction slots generalizing next with
  | nil => rfl
  | cons s slots ih => rw [number, List.map_cons, ih, List.map_cons]

theorem map_group_number :
    (number next slots).map (·.group) = layout next (slots.map (·.2.innerGroups)) := by
  induction slots generalizing next with
  | nil => rfl
  | cons s slots ih => rw [number, List.map_cons, ih, List.map_cons, layout]

end Slot

namespace Piece

variable {pieces : List (Piece κ)} {groups m : Nat}

theorem opening_eq_layout :
    opening groups pieces = layout (groups + 1) ((pieces.filterMap slot?).map (·.2.opened)) := by
  induction pieces generalizing groups with
  | nil => rfl
  | cons p pieces ih =>
    cases p with
    | literal text => exact ih
    | slot name type =>
      have hnext : type.opened + (groups + 1) + 1 = groups + 1 + 1 + type.opened := by omega
      simp only [opening, ih, hnext, List.filterMap_cons, slot?, List.map_cons, layout]

/-- The groups of the trees of pieces. -/
def groupsOf (groups : Nat) (pieces : List (Piece κ)) : List Nat :=
  (nodes groups pieces).flatMap Node.groups

theorem groupsOf_literal {text : List Char} :
    groupsOf groups (literal text :: pieces) = groupsOf groups pieces := by
  simp [groupsOf, nodes, List.flatMap_map, Node.groups]

theorem groupsOf_slot {name : String} : groupsOf groups (slot name type :: pieces) =
    (groups + 1) :: ((type.tree.shift (groups + 1)).groups ++
      groupsOf (type.opened + (groups + 1)) pieces) := rfl

theorem foldl_groupsOf_slot {name : String} (h : type.Accepted) (hm : m ≤ groups + 1) :
    (groupsOf groups (slot name type :: pieces)).foldl Nat.max m =
      (groupsOf (type.opened + (groups + 1)) pieces).foldl Nat.max
        (type.innerGroups + (groups + 1)) := by
  have hinner : (type.tree.shift (groups + 1)).groups.foldl Nat.max (groups + 1) =
      type.innerGroups + (groups + 1) := by
    rw [← Node.maxGroup_eq_foldl, h.inner]
    simpa using Node.maxGroup_shift (n := type.tree) (k := groups + 1) (m := 0)
  rw [groupsOf_slot, List.foldl_cons, List.foldl_append, Nat.max_eq_max, Nat.max_eq_right hm, hinner]

theorem foldl_groupsOf_of_le (h : pieces.filterMap slot? ≠ []) (hm : m ≤ groups) :
    (groupsOf groups pieces).foldl Nat.max m = (groupsOf groups pieces).foldl Nat.max groups := by
  induction pieces with
  | nil => exact absurd rfl h
  | cons p pieces ih =>
    cases p with
    | literal text =>
      rw [groupsOf_literal]
      exact ih h
    | slot name type =>
      rw [groupsOf_slot, List.foldl_cons, List.foldl_cons, Nat.max_eq_max, Nat.max_eq_max,
        Nat.max_eq_right (by omega), Nat.max_eq_right (by omega)]

/-- The types of all placeholders are accepted. -/
def Accepted (pieces : List (Piece κ)) : Prop :=
  ∀ name type, slot name type ∈ pieces → type.Accepted

theorem Accepted.tail {p : Piece κ} (h : Accepted (p :: pieces)) : Accepted pieces :=
  fun name type hmem => h name type (List.mem_cons_of_mem _ hmem)

/-- The groups that are counted for the placeholders. -/
def counted : List (Piece κ) → Nat
  | [] => 0
  | literal _ :: pieces => counted pieces
  | slot _ type :: pieces => 1 + type.innerGroups + counted pieces

theorem counted_number {next : Nat} :
    Slot.counted (Slot.number next (pieces.filterMap slot?)) = counted pieces := by
  induction pieces generalizing next with
  | nil => rfl
  | cons p pieces ih =>
    cases p with
    | literal text => exact ih
    | slot name type => exact congrArg (1 + type.innerGroups + ·) ih

theorem counted_eq_zero (h : pieces.filterMap slot? = []) : counted pieces = 0 := by
  induction pieces with
  | nil => rfl
  | cons p pieces ih =>
    cases p with
    | literal text => exact ih h
    | slot name type => cases h

theorem groupsOf_eq_nil (h : pieces.filterMap slot? = []) : groupsOf groups pieces = [] := by
  induction pieces with
  | nil => rfl
  | cons p pieces ih =>
    cases p with
    | literal text =>
      rw [groupsOf_literal]
      exact ih h
    | slot name type => cases h

/-- No count exceeds the groups that there are. -/
theorem counted_le (h : Accepted pieces) :
    groups + counted pieces ≤ (groupsOf groups pieces).foldl Nat.max groups := by
  induction pieces generalizing groups with
  | nil => exact Nat.le_refl groups
  | cons p pieces ih =>
    cases p with
    | literal text =>
      rw [groupsOf_literal]
      exact ih h.tail
    | slot name type =>
      have htype : type.Accepted := h name type List.mem_cons_self
      have hinner := htype.inner_le
      have hrest : type.opened + (groups + 1) + counted pieces ≤ _ := ih h.tail
      rw [foldl_groupsOf_slot htype (Nat.le_succ groups), counted]
      by_cases hslots : pieces.filterMap slot? = []
      · rw [groupsOf_eq_nil hslots, counted_eq_zero hslots, List.foldl_nil]
        omega
      · rw [foldl_groupsOf_of_le hslots (by omega)]
        omega

/-- The counts add up just if they are the numbers of opened groups up to the last placeholder. -/
theorem foldl_groupsOf_eq_iff (h : Accepted pieces) :
    (groupsOf groups pieces).foldl Nat.max groups = groups + counted pieces ↔
      ((pieces.filterMap slot?).map (·.2.innerGroups)).dropLast =
        ((pieces.filterMap slot?).map (·.2.opened)).dropLast := by
  induction pieces generalizing groups with
  | nil => simp [groupsOf, nodes, counted]
  | cons p pieces ih =>
    cases p with
    | literal text =>
      rw [groupsOf_literal]
      exact ih h.tail
    | slot name type =>
      have htype : type.Accepted := h name type List.mem_cons_self
      have hinner := htype.inner_le
      have hle : type.opened + (groups + 1) + counted pieces ≤ _ := counted_le h.tail
      have hrest : _ = type.opened + (groups + 1) + counted pieces ↔ _ := ih h.tail
      rw [foldl_groupsOf_slot htype (Nat.le_succ groups), counted]
      simp only [List.filterMap_cons, slot?, List.map_cons]
      by_cases hslots : pieces.filterMap slot? = []
      · rw [groupsOf_eq_nil hslots, counted_eq_zero hslots, hslots]
        simp only [List.foldl_nil, List.map_nil, List.dropLast_singleton, iff_true]
        omega
      · obtain ⟨s, slots, hcons⟩ := List.exists_cons_of_ne_nil hslots
        rw [foldl_groupsOf_of_le hslots (by omega)]
        rw [hcons] at hrest ⊢
        simp only [List.map_cons, List.dropLast_cons_cons, List.cons.injEq] at hrest ⊢
        rw [← hrest]
        omega

end Piece

namespace Expression

/-- All placeholders but the last count every parenthesis that their fragments open. -/
def Aligned (e : Expression κ) : Prop :=
  ∀ s ∈ e.slots.dropLast, s.type.innerGroups = s.type.opened

instance : Decidable e.Aligned := inferInstanceAs (Decidable (∀ s ∈ e.slots.dropLast, _))

namespace MadeOf

variable {tokens : List Token} {pieces : List (Piece κ)} {text : String}
  {args : List (Argument κ)}

theorem map_type {α : Type} (h : e.MadeOf types config tokens pieces) (f : ParameterType κ → α) :
    e.slots.map (fun s => f s.type) = (pieces.filterMap Piece.slot?).map fun s => f s.2 := by
  have htypes : e.slots.map (·.type) = (pieces.filterMap Piece.slot?).map (·.2) := by
    rw [h.slots, Slot.map_type_number]
  simpa [Function.comp_def] using congrArg (List.map f) htypes

theorem exists_slot_of_mem {s : Slot κ} (h : e.MadeOf types config tokens pieces)
    (hs : s ∈ e.slots) : ∃ name, Piece.slot name s.type ∈ pieces := by
  have hmem : s.type ∈ e.slots.map fun s => s.type := List.mem_map.2 ⟨s, hs, rfl⟩
  rw [h.map_type fun t => t] at hmem
  obtain ⟨⟨name, type⟩, hslot, htype⟩ := List.mem_map.1 hmem
  obtain ⟨p, hp, hpslot⟩ := List.mem_filterMap.1 hslot
  cases p with
  | literal text => cases hpslot
  | slot name' type' =>
    cases hpslot
    exact ⟨name, htype ▸ hp⟩

theorem aligned_iff (h : e.MadeOf types config tokens pieces) : e.Aligned ↔
    ((pieces.filterMap Piece.slot?).map (·.2.innerGroups)).dropLast =
      ((pieces.filterMap Piece.slot?).map (·.2.opened)).dropLast := by
  rw [← h.map_type ParameterType.innerGroups, ← h.map_type ParameterType.opened,
    ← List.map_dropLast, ← List.map_dropLast, List.map_inj_left, Aligned]

theorem map_group_eq_iff (h : e.MadeOf types config tokens pieces) :
    e.slots.map (·.group) = Piece.opening 0 pieces ↔ e.Aligned := by
  rw [h.slots, Slot.map_group_number, Piece.opening_eq_layout, layout_eq_iff (by simp),
    h.aligned_iff]

theorem accepted (h : e.MadeOf types config tokens pieces) (hreach : types.Reachable) :
    Piece.Accepted pieces :=
  h.resolved.forall_slot fun _ _ => Piece.accepted_of_resolve hreach

theorem readable (h : e.MadeOf types config tokens pieces) (hreach : types.Reachable)
    (hsealed : ∀ s ∈ e.slots, Sealed s.type.fragment.toList) : Piece.Readable pieces := by
  intro name type hmem
  refine ⟨(h.accepted hreach name type hmem).whole, ?_⟩
  have hslot : type ∈ (pieces.filterMap Piece.slot?).map (·.2) :=
    List.mem_map.2 ⟨(name, type), List.mem_filterMap.2 ⟨_, hmem, rfl⟩, rfl⟩
  rw [← h.map_type fun t => t] at hslot
  obtain ⟨s, hs, rfl⟩ := List.mem_map.1 hslot
  exact hsealed s hs

theorem groups_eq_iff (h : e.MadeOf types config tokens pieces) (hreach : types.Reachable)
    (hr : Piece.Readable pieces) :
    e.regex.groups = Slot.counted e.slots ↔ e.Aligned := by
  have hgroups : e.regex.groups = (Piece.groupsOf 0 pieces).foldl Nat.max 0 := by
    rw [Piece.eq_of_compile_sourceOf hr h.regex, Node.maxGroup_eq_foldl, Piece.groups_tree]
    rfl
  have hcounted : Slot.counted e.slots = 0 + Piece.counted pieces := by
    rw [h.slots, Piece.counted_number, Nat.zero_add]
  rw [hgroups, hcounted, Piece.foldl_groupsOf_eq_iff (h.accepted hreach), h.aligned_iff]

/-- Where groups are kept right, the arguments are what the fragments took. -/
theorem cut_of_match? (h : e.MadeOf types config tokens pieces) (hr : Piece.Readable pieces)
    (ha : e.Aligned) (hm : e.match? text = .ok (some args)) :
    Piece.Cut pieces [] text.toList (args.map (·.text)) := by
  obtain ⟨c, hc, harguments⟩ := match?_eq_some hm
  rw [texts_of_arguments (by simp) harguments, h.map_group_eq_iff.2 ha]
  exact (Piece.cut_of_captures? hr h.regex hc).2

end MadeOf

/-- The groups kept for placeholders are those around their fragments just if, but for the last
placeholder, every parenthesis that a fragment opens counts as a group of it; the one in `(a){0}`
does not. The number of all groups tells the same. Fragments that leave verbose mode off are sealed,
by `Whole.sealed`. -/
theorem groups_kept_iff (hreach : types.Reachable)
    (h : (compile types config pattern).value = .ok e)
    (hsealed : ∀ s ∈ e.slots, Sealed s.type.fragment.toList) :
    ∃ pieces, (Piece.ofPattern types config pattern).value = .ok pieces ∧
      (e.regex.groups = Slot.counted e.slots ↔ e.Aligned) ∧
      (e.slots.map (·.group) = Piece.opening 0 pieces ↔ e.Aligned) ∧
      (∀ text c, e.regex.captures? text = some c →
        Piece.Cut pieces [] text.toList ((Piece.opening 0 pieces).map c.textOf)) ∧
      (e.Aligned → ∀ text args, e.match? text = .ok (some args) →
        Piece.Cut pieces [] text.toList (args.map (·.text)) ∧
          Piece.fill pieces (args.map (·.text)) = text.toList) := by
  obtain ⟨tokens, pieces, -, hpieces, hmade⟩ := exists_madeOf h
  have hr := hmade.readable hreach hsealed
  refine ⟨pieces, hpieces, hmade.groups_eq_iff hreach hr, hmade.map_group_eq_iff, ?_, ?_⟩
  · intro text c hc
    exact (Piece.cut_of_captures? hr hmade.regex hc).2
  · intro ha text args hm
    have hcut := hmade.cut_of_match? hr ha hm
    exact ⟨hcut, hcut.fill_eq⟩

theorem groups_kept_pair : ∃ (pair : ParameterType Suite.RecordType)
    (e : Expression Suite.RecordType) (pieces : List (Piece Suite.RecordType)),
    ParameterType.ofFragment "pair" "(a)(b)|c" (fun s => .ok ⟨.text, s⟩) = .ok pair ∧
      (compile (ParameterTypes.builtin.define pair).value.1 {} "{x:pair} of {n:u8}").value = .ok e ∧
      e.slots.map (·.group) = [1, 4] ∧ e.regex.groups = 4 ∧ Piece.opening 0 pieces = [1, 4] ∧
      ∀ text args, e.match? text = .ok (some args) →
        Piece.Cut pieces [] text.toList (args.map (·.text)) := by
  have hpair : ParameterType.ofFragment "pair" "(a)(b)|c" (fun s => .ok ⟨.text, s⟩) =
      .ok (⟨"pair", "(a)(b)|c", 2, fun s => .ok ⟨.text, s⟩⟩ : ParameterType Suite.RecordType) :=
    ParameterType.ofFragment_eq_ok (by decide +kernel)
  obtain ⟨e, he, hsealed, haligned, hgroups, hinner⟩ : ∃ e, (compile
      (ParameterTypes.builtin.define (⟨"pair", "(a)(b)|c", 2, fun s => .ok ⟨.text, s⟩⟩ :
        ParameterType Suite.RecordType)).value.1 {} "{x:pair} of {n:u8}").value = .ok e ∧
      (∀ s ∈ e.slots, Sealed s.type.fragment.toList) ∧ e.Aligned ∧
      e.slots.map (·.group) = [1, 4] ∧ Slot.counted e.slots = 4 :=
    exists_ok_of_any (by decide +kernel)
  obtain ⟨pieces, -, htotal, hkept, -, hcut⟩ :=
    groups_kept_iff (.define .builtin hpair) he hsealed
  exact ⟨_, e, pieces, hpair, he, hgroups, (htotal.2 haligned).trans hinner,
    (hkept.2 haligned).symm.trans hgroups, fun text args hm => (hcut haligned text args hm).1⟩

/-- A fragment that is repeated no times opens a parenthesis that it does not count. -/
example : ∃ e, (compile (.ofList [
      ("none", (⟨"none", "(a)\x7b0\x7d", 0, fun s => .ok ⟨.text, s⟩⟩ :
        ParameterType Suite.RecordType)),
      ("one", ⟨"one", "b", 0, fun s => .ok ⟨.text, s⟩⟩)]) {} "{p:none}{q:one}").value = .ok e ∧
    ¬ e.Aligned ∧ (e.match? "b").toOption.join.map (·.map (·.text)) = some ["", ""] :=
  exists_ok_of_any (by decide +kernel)

end Expression

end StepPhrase
