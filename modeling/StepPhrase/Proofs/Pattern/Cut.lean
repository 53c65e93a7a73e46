import StepPhrase.Proofs.Pattern.Source
import StepPhrase.Proofs.Regex.Language
import StepPhrase.Proofs.Regex.Likeness

/-! The texts that the regular expression of pieces matches, and what its groups capture. -/
namespace StepPhrase

open Regex

namespace Regex

variable {t u v : Thread} {pre s w rest full text : List Char} {n : Node} {ns : List Node}
  {slots : List (Nat × Nat)} {i : Nat}

/-- The thread has read `pre`, and `rest` is left. -/
structure Thread.Stands (pre rest : List Char) (t : Thread) : Prop where
  position : t.position = pre.length
  before : t.before = pre.getLast?
  rest : t.rest = rest

theorem stands_start : (Thread.start pre rest).Stands pre rest := ⟨rfl, rfl, rfl⟩

theorem Thread.Stands.like (h : t.Stands pre rest) : t.Like (.start pre rest) := ⟨h.before, h.rest⟩

theorem Thread.Stands.save {slot : Nat} (h : t.Stands pre rest) : (t.save slot).Stands pre rest :=
  ⟨h.position, h.before, h.rest⟩

theorem Thread.Stands.after {notes : List (Nat × Nat)} (h : t.Stands pre s) :
    (t.after w rest notes).Stands (pre ++ w) rest := by
  refine ⟨?_, ?_, rfl⟩
  · simp [Thread.after, h.position]
  · simp [Thread.after, h.before, List.getLast?_append]

/-- What is read inside of capturing parentheses, and what they note. -/
theorem consumes_of_group (h : (Node.group i (n.shift i)).Matches t u) (ht : t.Stands pre s) :
    ∃ w rest notes, s = w ++ rest ∧ n.Consumes pre w rest ∧ NotesIn (n.shift i).groups notes ∧
      u = t.after w rest
        ((2 * i + 1, pre.length + w.length) :: (notes ++ [(2 * i, pre.length)])) := by
  obtain ⟨v, hv, rfl⟩ := h
  obtain ⟨w, rest, notes, hs, hnotes, rfl⟩ := hv.advances
  have hs' : s = w ++ rest := ht.rest.symm.trans hs
  subst hs'
  obtain ⟨u, hu, hlike⟩ := Node.mimics_shift.2 _ _ _ hv ht.save.like
  refine ⟨w, rest, notes, rfl, ⟨u, hu, hlike.2.symm⟩, hnotes, ?_⟩
  simp [Thread.after, Thread.save, ht.position]

theorem group_of_consumes (h : n.Consumes pre w rest) (ht : t.Stands pre (w ++ rest)) :
    ∃ notes, (Node.group i (n.shift i)).Matches t (t.after w rest notes) := by
  obtain ⟨u, hu, hrest⟩ := h
  obtain ⟨v, hv, hlike⟩ := (Node.mimics_shift (k := i)).1 _ _ (t.save (2 * i)) hu
    ⟨ht.before.symm, ht.rest.symm⟩
  obtain ⟨w', rest', notes, hs, -, rfl⟩ := hv.advances
  have hrest' : rest' = rest := hlike.2.symm.trans hrest
  have hw : w' = w := List.append_cancel_right ((hs.symm.trans ht.rest).trans (by rw [hrest']))
  subst hrest' hw
  exact ⟨(2 * i + 1, pre.length + w'.length) :: (notes ++ [(2 * i, pre.length)]), _, hv, by
    simp [Thread.after, Thread.save, ht.position]⟩

theorem chain_literals : Chain (text.map (fun a => .literal [a]) ++ ns) t v ↔
    ∃ rest, t.rest = text ++ rest ∧ Chain ns (t.after text rest []) v := by
  induction text generalizing t with
  | nil => simp [Thread.after_nil]
  | cons a text ih =>
    simp only [List.map_cons, List.cons_append, Chain, Node.Matches, Thread.readText_eq_some_iff]
    constructor
    · rintro ⟨u, ⟨rest, hrest, rfl⟩, h⟩
      obtain ⟨rest', hrest', h⟩ := ih.1 h
      have hrest'' : rest = text ++ rest' := hrest'
      subst hrest''
      rw [Thread.after_after] at h
      exact ⟨rest', hrest, h⟩
    · rintro ⟨rest, hrest, h⟩
      refine ⟨t.after [a] (text ++ rest) [], ⟨text ++ rest, hrest, rfl⟩, ih.2 ⟨rest, rfl, ?_⟩⟩
      rw [Thread.after_after]
      exact h

theorem chain_textEnd : Chain [.look .textEnd] t v ↔ t.rest = [] ∧ t = v := by
  simp [Chain, Node.Matches, Look.holds]

theorem lookup_append_of_forall {notes : List (Nat × Nat)} (h : ∀ x ∈ notes, x.1 ≠ i) :
    (notes ++ slots).lookup i = slots.lookup i := by
  have hnone : notes.lookup i = none :=
    List.lookup_eq_none_iff.2 fun x hx => by simpa using (h x hx).symm
  rw [List.lookup_append, hnone, Option.none_or]

/-- The latest notes of a group count, whatever other groups noted later. -/
theorem textOf_of_notes {later notes : List (Nat × Nat)}
    (hlater : ∀ x ∈ later, x.1 ≠ 2 * i ∧ x.1 ≠ 2 * i + 1) (hnotes : ∀ x ∈ notes, x.1 ≠ 2 * i) :
    Captures.textOf ⟨pre ++ (w ++ rest), later ++
      (2 * i + 1, pre.length + w.length) :: (notes ++ (2 * i, pre.length) :: slots)⟩ i =
        String.ofList w := by
  have hstart : (later ++ (2 * i + 1, pre.length + w.length) ::
      (notes ++ (2 * i, pre.length) :: slots)).lookup (2 * i) = some pre.length := by
    have hne : (2 * i == 2 * i + 1) = false := by simp
    rw [lookup_append_of_forall fun x hx => (hlater x hx).1, List.lookup_cons, hne]
    simp [lookup_append_of_forall hnotes]
  have hstop : (later ++ (2 * i + 1, pre.length + w.length) ::
      (notes ++ (2 * i, pre.length) :: slots)).lookup (2 * i + 1) =
        some (pre.length + w.length) := by
    rw [lookup_append_of_forall fun x hx => (hlater x hx).2, List.lookup_cons]
    simp
  simp [Captures.textOf, Captures.get?, hstart, hstop]

/-- A group around a node captures what the node consumes, if the groups inside have greater
numbers, and those that are noted later as well. -/
theorem textOf_group (h : (Node.group i (n.shift i)).Matches t u) (ht : t.Stands pre s)
    (hinner : ∀ notes, NotesIn (n.shift i).groups notes → ∀ x ∈ notes, 2 * i + 2 ≤ x.1) :
    ∃ w rest notes, s = w ++ rest ∧ n.Consumes pre w rest ∧ u = t.after w rest notes ∧
      (∀ x ∈ notes, 2 * i ≤ x.1) ∧ ∀ later, (∀ x ∈ later, 2 * i + 2 ≤ x.1) →
        Captures.textOf ⟨pre ++ s, later ++ u.slots⟩ i = String.ofList w := by
  obtain ⟨w, rest, inner, rfl, hw, hnotes, rfl⟩ := consumes_of_group h ht
  have hinner := hinner inner hnotes
  refine ⟨w, rest, _, rfl, hw, rfl, ?_, fun later hlater => ?_⟩
  · intro x hx
    rcases List.mem_cons.1 hx with rfl | hx
    · exact Nat.le_succ _
    · rcases List.mem_append.1 hx with hx | hx
      · have := hinner x hx
        omega
      · rw [List.mem_singleton.1 hx]
  · have hslots : later ++ (t.after w rest ((2 * i + 1, pre.length + w.length) ::
        (inner ++ [(2 * i, pre.length)]))).slots = later ++
          (2 * i + 1, pre.length + w.length) :: (inner ++ (2 * i, pre.length) :: t.slots) := by
      simp [Thread.after]
    rw [hslots]
    refine textOf_of_notes (fun x hx => ?_) fun x hx => ?_
    · have := hlater x hx
      omega
    · have := hinner x hx
      omega

/-- The ends of the whole match do not count for groups. -/
theorem textOf_cons {start stop : Nat} (hi : 0 < i) :
    Captures.textOf ⟨text, (0, start) :: (1, stop) :: slots⟩ i = Captures.textOf ⟨text, slots⟩ i := by
  have hlookup : ∀ j, 1 < j → ((0, start) :: (1, stop) :: slots).lookup j = slots.lookup j := by
    intro j hj
    have h0 : (j == 0) = false := by simp; omega
    have h1 : (j == 1) = false := by simp; omega
    simp [List.lookup_cons, h0, h1]
  simp [Captures.textOf, Captures.get?, hlookup (2 * i) (by omega), hlookup (2 * i + 1) (by omega)]

end Regex

variable {κ : Type} [RecordKind κ]

/-- A fragment's own groups come after the one around it. -/
theorem ParameterType.Readable.le_of_notes {type : ParameterType κ} {notes : List (Nat × Nat)}
    {k : Nat} (h : type.Readable) (hnotes : NotesIn (type.tree.shift k).groups notes) :
    ∀ x ∈ notes, 2 * k + 2 ≤ x.1 := by
  intro x hx
  obtain ⟨j, hj, hslot⟩ := hnotes x hx
  rw [Node.groups_shift] at hj
  obtain ⟨i, hi, rfl⟩ := List.mem_map.1 hj
  have := h.whole.amongFirst i hi
  omega

namespace Piece

/-- From `pre` on, the pieces take up the text one after the other, the placeholders each what its
fragment matches there. The last argument lists what the placeholders take. -/
inductive Cut : List (Piece κ) → List Char → List Char → List String → Prop
  | nil {pre : List Char} : Cut [] pre [] []
  | literal {text : List Char} {pieces : List (Piece κ)} {pre rest : List Char}
    {args : List String} :
    Cut pieces (pre ++ text) rest args → Cut (literal text :: pieces) pre (text ++ rest) args
  | slot {name : String} {type : ParameterType κ} {pieces : List (Piece κ)}
    {pre w rest : List Char} {args : List String} :
    type.tree.Consumes pre w rest → Cut pieces (pre ++ w) rest args →
      Cut (slot name type :: pieces) pre (w ++ rest) (String.ofList w :: args)

/-- The text of the pieces with arguments in the place of placeholders. -/
def fill : List (Piece κ) → List String → List Char
  | literal text :: pieces, args => text ++ fill pieces args
  | slot _ _ :: pieces, arg :: args => arg.toList ++ fill pieces args
  | _, _ => []

/-- The groups that are opened around the fragments, with `groups` others before. -/
def opening (groups : Nat) : List (Piece κ) → List Nat
  | [] => []
  | literal _ :: pieces => opening groups pieces
  | slot _ type :: pieces => (groups + 1) :: opening (type.opened + (groups + 1)) pieces

variable {pieces : List (Piece κ)} {pre s : List Char} {args : List String} {groups : Nat}
  {t v : Thread}

theorem Cut.fill_eq (h : Cut pieces pre s args) : fill pieces args = s := by
  induction h with
  | nil => rfl
  | literal h ih => simp [fill, ih]
  | slot hw h ih => simp [fill, ih]

theorem Readable.tail {p : Piece κ} (h : Readable (p :: pieces)) : Readable pieces :=
  fun name type hmem => h name type (List.mem_cons_of_mem _ hmem)

/-- A way to match is a cut, and the groups around the fragments capture its arguments. -/
theorem cut_of_chain (hr : Readable pieces) (ht : t.Stands pre s)
    (h : Chain (nodes groups pieces ++ [.look .textEnd]) t v) :
    ∃ args notes, Cut pieces pre s args ∧ v = t.after s [] notes ∧
      (∀ x ∈ notes, 2 * groups + 2 ≤ x.1) ∧
      (opening groups pieces).map (Captures.textOf ⟨pre ++ s, v.slots⟩) = args := by
  induction pieces generalizing t pre s groups with
  | nil =>
    obtain ⟨hnil, rfl⟩ := chain_textEnd.1 h
    cases ht.rest.symm.trans hnil
    have hsame := Thread.after_nil (t := t)
    rw [hnil] at hsame
    exact ⟨[], [], .nil, hsame.symm, by simp, rfl⟩
  | cons p pieces ih =>
    cases p with
    | literal text =>
      rw [nodes, List.append_assoc, chain_literals] at h
      obtain ⟨rest, hrest, h⟩ := h
      have hs : s = text ++ rest := ht.rest.symm.trans hrest
      subst hs
      obtain ⟨args, notes, hcut, rfl, hnotes, htexts⟩ := ih hr.tail ht.after h
      refine ⟨args, notes, .literal hcut, ?_, hnotes, ?_⟩
      · rw [Thread.after_after, List.append_nil]
      · rw [List.append_assoc] at htexts
        exact htexts
    | slot name type =>
      obtain ⟨u, hu, h⟩ := h
      have htype : type.Readable := hr name type List.mem_cons_self
      obtain ⟨w, rest, inner, rfl, hw, rfl, hinner, hhead⟩ :=
        textOf_group hu ht fun notes => htype.le_of_notes
      obtain ⟨args, notes, hcut, rfl, hnotes, htexts⟩ := ih hr.tail ht.after h
      have hlater : ∀ x ∈ notes, 2 * (groups + 1) + 2 ≤ x.1 := by
        intro x hx
        have := hnotes x hx
        omega
      refine ⟨String.ofList w :: args, notes ++ inner, .slot hw hcut, Thread.after_after, ?_, ?_⟩
      · intro x hx
        rcases List.mem_append.1 hx with hx | hx
        · have := hlater x hx
          omega
        · have := hinner x hx
          omega
      · rw [List.append_assoc] at htexts
        rw [opening, List.map_cons, htexts]
        exact congrArg (· :: args) (hhead notes hlater)

/-- Each cut is a way to match whose groups capture its arguments. -/
theorem chain_of_cut (hr : Readable pieces) (h : Cut pieces pre s args) (ht : t.Stands pre s) :
    ∃ v, Chain (nodes groups pieces ++ [.look .textEnd]) t v ∧
      (opening groups pieces).map (Captures.textOf ⟨pre ++ s, v.slots⟩) = args := by
  induction h generalizing t groups with
  | nil => exact ⟨t, chain_textEnd.2 ⟨ht.rest, rfl⟩, rfl⟩
  | literal h ih =>
    obtain ⟨v, hv, htexts⟩ := ih (t := t.after _ _ []) hr.tail ht.after
    rw [List.append_assoc] at htexts
    refine ⟨v, ?_, htexts⟩
    rw [nodes, List.append_assoc, chain_literals]
    exact ⟨_, ht.rest, hv⟩
  | @slot name type pieces pre w rest args hw h ih =>
    have htype : type.Readable := hr name type List.mem_cons_self
    obtain ⟨notes, hgroup⟩ := group_of_consumes hw ht
    obtain ⟨w', rest', notes', hs, -, hu, -, hhead⟩ :=
      textOf_group hgroup ht fun notes => htype.le_of_notes
    have hrest : rest = rest' := congrArg Thread.rest hu
    obtain rfl := List.append_cancel_right (hs.trans (by rw [hrest]))
    obtain ⟨v, hv, htexts⟩ :=
      @ih (type.opened + (groups + 1)) (t.after w rest notes) hr.tail ht.after
    obtain ⟨-, later, -, rfl, hlater, -⟩ := cut_of_chain hr.tail ht.after hv
    refine ⟨_, ⟨_, hgroup, hv⟩, ?_⟩
    rw [List.append_assoc] at htexts
    rw [opening, List.map_cons, htexts]
    refine congrArg (· :: args) (hhead later fun x hx => ?_)
    have := hlater x hx
    omega

/-- The assertions at both ends leave only matches of the whole text. -/
theorem matches_tree_iff : (tree pieces).Matches (.start pre s) v ↔
    pre = [] ∧ Chain (nodes 0 pieces ++ [.look .textEnd]) (.start pre s) v := by
  simp [matches_tree, Chain, Node.Matches, Look.holds, Thread.start]

theorem pos_of_mem_opening {i : Nat} (h : i ∈ opening groups pieces) : 0 < i := by
  induction pieces generalizing groups with
  | nil => cases h
  | cons p pieces ih =>
    cases p with
    | literal text => exact ih h
    | slot name type =>
      rcases List.mem_cons.1 h with rfl | h
      · exact Nat.succ_pos _
      · exact ih h

theorem map_textOf_cons {text : List Char} {start stop : Nat} {slots : List (Nat × Nat)} :
    (opening groups pieces).map (Captures.textOf ⟨text, (0, start) :: (1, stop) :: slots⟩) =
      (opening groups pieces).map (Captures.textOf ⟨text, slots⟩) :=
  List.map_congr_left fun _ hi => textOf_cons (pos_of_mem_opening hi)

variable {r : Regex} {text : String} {c : Captures}

theorem isSome_captures?_iff (h : Readable pieces)
    (hr : Regex.compile (sourceOf pieces) = .ok r) :
    (r.captures? text).isSome = true ↔ ∃ args, Cut pieces [] text.toList args := by
  cases eq_of_compile_sourceOf h hr
  rw [Regex.captures?, Option.isSome_map, Node.search_isSome_iff]
  constructor
  · rintro ⟨pre, rest, v, htext, hv⟩
    obtain ⟨rfl, hchain⟩ := matches_tree_iff.1 hv
    obtain ⟨args, notes, hcut, -⟩ := cut_of_chain h stands_start hchain
    exact ⟨args, htext ▸ hcut⟩
  · rintro ⟨args, hcut⟩
    have hchain : ∃ v, Chain (nodes 0 pieces ++ [.look .textEnd]) (.start [] text.toList) v ∧ _ :=
      chain_of_cut h hcut stands_start
    obtain ⟨v, hv, -⟩ := hchain
    exact ⟨[], text.toList, v, rfl, matches_tree_iff.2 ⟨rfl, hv⟩⟩

/-- A match is of the whole text, and the groups around the fragments capture arguments of a cut. -/
theorem cut_of_captures? (h : Readable pieces) (hr : Regex.compile (sourceOf pieces) = .ok r)
    (hc : r.captures? text = some c) : c.get? 0 = some text ∧
      Cut pieces [] text.toList ((opening 0 pieces).map c.textOf) := by
  cases eq_of_compile_sourceOf h hr
  obtain ⟨⟨start, u⟩, hsearch, rfl⟩ := Option.map_eq_some_iff.1 hc
  obtain ⟨pre, rest, v, htext, rfl, hv, rfl⟩ := Node.matches_of_search hsearch
  obtain ⟨rfl, hchain⟩ := matches_tree_iff.1 hv
  obtain ⟨args, notes, hcut, rfl, -, htexts⟩ := cut_of_chain h stands_start hchain
  have hrest : rest = text.toList := htext.symm
  subst hrest
  constructor
  · simp [Captures.get?, List.lookup_cons, Thread.goto, Thread.after, Thread.start]
  · rw [map_textOf_cons]
    exact htexts ▸ hcut

end Piece

end StepPhrase
