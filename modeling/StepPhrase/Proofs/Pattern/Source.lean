import StepPhrase.Pattern.Piece
import StepPhrase.Proofs.Regex.Enclosing

/-! The regular expression of pieces is read piece by piece. -/
namespace StepPhrase

open Regex

variable {κ : Type} [RecordKind κ] {t : List Char} {b : Reading} {m : Nat} {n : Node}

namespace ParameterType

/-- The tree of the fragment alone. -/
def tree (t : ParameterType κ) : Node := (Reading.ofText t.fragment.toList).body.node

/-- The number of capturing parentheses in the fragment, those that its tree leaves out too. -/
def opened (t : ParameterType κ) : Nat := (Reading.ofText t.fragment.toList).groups

/-- The fragment is an expression of its own that takes no parenthesis after it. -/
structure Readable (t : ParameterType κ) : Prop where
  whole : Whole t.fragment.toList
  closes : Sealed t.fragment.toList

end ParameterType

namespace Piece

variable {p : Piece κ} {pieces : List (Piece κ)}

/-- The types of all placeholders are readable. -/
def Readable (pieces : List (Piece κ)) : Prop :=
  ∀ name type, slot name type ∈ pieces → type.Readable

/-- The reading after the source of a piece. -/
def onto (b : Reading) : Piece κ → Reading
  | literal text => text.foldl Reading.pushLiteral b
  | slot _ type => b.enclose (.ofText type.fragment.toList)

/-- What reading pieces leaves as it is. -/
theorem foldl_pushLiteral {text : List Char} :
    text.foldl Reading.pushLiteral b =
      { b with items := (text.map fun a => { node := .literal [a] }).reverse ++ b.items } := by
  induction text generalizing b with
  | nil => rfl
  | cons a text ih => simp [ih, Reading.pushLiteral, Reading.push]

theorem flags_onto : (p.onto b).flags = b.flags := by
  cases p with
  | literal text => simp [onto, foldl_pushLiteral]
  | slot name type => rfl

theorem flags_foldl_onto : (pieces.foldl onto b).flags = b.flags := by
  induction pieces generalizing b with
  | nil => rfl
  | cons p pieces ih => exact ih.trans flags_onto

theorem names_onto (h : (p.onto b).names = []) : b.names = [] := by
  cases p with
  | literal text => simpa [onto, foldl_pushLiteral] using h
  | slot name type => exact (List.append_eq_nil_iff.1 h).2

theorem names_foldl_onto (h : (pieces.foldl onto b).names = []) : b.names = [] := by
  induction pieces generalizing b with
  | nil => exact h
  | cons p pieces ih => exact names_onto (ih h)

theorem run_escape {text : List Char} (hb : b.flags = {}) :
    Reading.run (text.length + m) b (escape text ++ t) =
      Reading.run m (text.foldl Reading.pushLiteral b) t := by
  induction text generalizing b with
  | nil => simp [escape]
  | cons a text ih =>
    have hsplit : escape (a :: text) ++ t = escape [a] ++ (escape text ++ t) := by
      simp [escape]
    rw [hsplit, List.length_cons, Nat.add_right_comm, Reading.run_escape hb, List.foldl_cons]
    exact ih hb

theorem length_le_escape {text : List Char} : text.length ≤ (escape text).length := by
  induction text with
  | nil => simp
  | cons a text ih =>
    simp only [escape, List.flatMap_cons, List.length_append, List.length_cons] at ih ⊢
    split
    · simp only [List.length_cons]
      omega
    · simp only [List.length_cons]
      omega

/-- The text of a piece is read from any reading without flags, unless names meet. -/
theorem run_piece (h : Readable [p]) :
    ∃ k ≤ p.source.toList.length, ∀ b t, b.flags = {} → ∀ m,
      Reading.run (k + m) b (p.source.toList ++ t) = Reading.run m (p.onto b) t ∨
        Reading.run (k + m) b (p.source.toList ++ t) = none ∧ (p.onto b).names ≠ [] := by
  cases p with
  | literal text =>
    simp only [source, String.toList_ofList]
    exact ⟨text.length, length_le_escape, fun b t hb m => .inl (run_escape hb)⟩
  | slot name type =>
    obtain ⟨hwhole, hsealed⟩ := h name type List.mem_cons_self
    obtain ⟨k, hk, hrun⟩ := hwhole.run_enclosed hsealed
    have hsource : (slot name type : Piece κ).source.toList =
        '(' :: (type.fragment.toList ++ [')']) := by
      simp [source]
    refine ⟨k + 2, by simp [hsource]; omega, fun b t hb m => ?_⟩
    have htext : (slot name type : Piece κ).source.toList ++ t =
        '(' :: (type.fragment.toList ++ ')' :: t) := by
      simp [hsource]
    rw [htext]
    exact (hrun b t hb m).imp_right fun hnone => ⟨hnone.1, fun hnil => hnone.2 (names_onto hnil)⟩

theorem run_pieces (h : Readable pieces) :
    ∃ k ≤ (pieces.flatMap (·.source.toList)).length, ∀ b t, b.flags = {} → ∀ m,
      Reading.run (k + m) b (pieces.flatMap (·.source.toList) ++ t) =
          Reading.run m (pieces.foldl onto b) t ∨
        Reading.run (k + m) b (pieces.flatMap (·.source.toList) ++ t) = none ∧
          (pieces.foldl onto b).names ≠ [] := by
  induction pieces with
  | nil => exact ⟨0, Nat.le_refl _, fun b t hb m => .inl (by simp)⟩
  | cons p pieces ih =>
    have hp : Readable [p] := fun name type hmem =>
      h name type (List.mem_cons.2 (.inl (List.mem_singleton.1 hmem)))
    obtain ⟨j, hj, hfirst⟩ := run_piece hp
    obtain ⟨k, hk, hrest⟩ := ih fun name type hmem => h name type (List.mem_cons_of_mem _ hmem)
    refine ⟨j + k, by rw [List.flatMap_cons, List.length_append]; omega, fun b t hb m => ?_⟩
    rw [List.flatMap_cons, List.append_assoc, Nat.add_assoc, List.foldl_cons]
    rcases hfirst b (pieces.flatMap (·.source.toList) ++ t) hb (k + m) with hsome | ⟨hnone, hnames⟩
    · rw [hsome]
      exact hrest (p.onto b) t (flags_onto.trans hb) m
    · exact .inr ⟨hnone, fun hnil => hnames (names_foldl_onto hnil)⟩

theorem toList_sourceOf :
    (sourceOf pieces).toList = '^' :: (pieces.flatMap (·.source.toList) ++ ['$']) := by
  simp only [sourceOf, String.toList_append, String.toList_join, List.flatMap_map]
  rfl

/-- The reading after the whole source. -/
def readingOf (pieces : List (Piece κ)) : Reading :=
  (pieces.foldl onto (({} : Reading).pushLook .textStart)).pushLook .textEnd

theorem run_start (hb : b.flags = {}) :
    Reading.run (m + 1) b ('^' :: t) = Reading.run m (b.pushLook .textStart) t :=
  Reading.run_of_skip_cons (by rw [hb]; rfl) (by simp [Reading.step, hb, Reading.lineStart])

theorem run_end (hb : b.flags = {}) :
    Reading.run (m + 1) b ['$'] = some (b.pushLook .textEnd) := by
  have hstep : b.step '$' [] = some (b.pushLook .textEnd, []) := by
    simp [Reading.step, hb, Reading.lineEnd]
  rw [Reading.run_of_skip_cons (by rw [hb]; rfl) hstep, Reading.run_of_skip_nil skip_nil]

/-- The source is read to its end, unless a name is given to two groups. -/
theorem run_sourceOf (h : Readable pieces) :
    Reading.run (sourceOf pieces).toList.length {} (sourceOf pieces).toList =
        some (readingOf pieces) ∨
      Reading.run (sourceOf pieces).toList.length {} (sourceOf pieces).toList = none ∧
        (readingOf pieces).names ≠ [] := by
  obtain ⟨k, hk, hrun⟩ := run_pieces h
  have hfuel : (sourceOf pieces).toList.length =
      k + ((pieces.flatMap (·.source.toList)).length - k + 1) + 1 := by
    rw [toList_sourceOf]
    simp only [List.length_cons, List.length_append, List.length_nil]
    omega
  rw [hfuel, toList_sourceOf, run_start rfl]
  rcases hrun (({} : Reading).pushLook .textStart) ['$'] rfl _ with hsome | hnone
  · left
    rw [hsome, run_end flags_foldl_onto]
    rfl
  · exact .inr hnone

/-- The trees of pieces one after the other, with `groups` capturing parentheses before them. -/
def nodes (groups : Nat) : List (Piece κ) → List Node
  | [] => []
  | literal text :: rest => text.map (fun a => .literal [a]) ++ nodes groups rest
  | slot _ type :: rest =>
    .group (groups + 1) (type.tree.shift (groups + 1)) :: nodes (type.opened + (groups + 1)) rest

theorem outer_foldl_onto : (pieces.foldl onto b).outer = b.outer := by
  induction pieces generalizing b with
  | nil => rfl
  | cons p pieces ih =>
    rw [List.foldl_cons, ih]
    cases p with
    | literal text => simp [onto, foldl_pushLiteral]
    | slot name type => rfl

theorem branches_foldl_onto : (pieces.foldl onto b).branches = b.branches := by
  induction pieces generalizing b with
  | nil => rfl
  | cons p pieces ih =>
    rw [List.foldl_cons, ih]
    cases p with
    | literal text => simp [onto, foldl_pushLiteral]
    | slot name type => rfl

theorem items_foldl_onto : (pieces.foldl onto b).items.map (·.node) =
    (nodes b.groups pieces).reverse ++ b.items.map (·.node) := by
  induction pieces generalizing b with
  | nil => rfl
  | cons p pieces ih =>
    rw [List.foldl_cons, ih]
    cases p with
    | literal text => simp [onto, foldl_pushLiteral, nodes, Function.comp_def]
    | slot name type => simp [onto, Reading.enclose, nodes, ParameterType.tree, ParameterType.opened]

/-- The tree of the source: the pieces in order between the two anchors. -/
def tree (pieces : List (Piece κ)) : Node :=
  .concat (.look .textStart :: nodes 0 pieces ++ [.look .textEnd])

theorem node_readingOf : (readingOf pieces).body.node = tree pieces := by
  have hitems : (readingOf pieces).items.map (·.node) =
      (Node.look .textStart :: nodes 0 pieces ++ [Node.look .textEnd]).reverse := by
    simp [readingOf, Reading.pushLook, Reading.push, items_foldl_onto]
  have hbranches : (readingOf pieces).branches = [] := branches_foldl_onto
  simp only [Reading.body, hbranches, Part.choose, Part.concat, hitems, List.map_cons,
    List.map_nil]
  exact Node.chooseReversed_concat

/-- A source that is an expression has the tree made of its pieces. -/
theorem eq_of_ofText?_sourceOf (h : Readable pieces)
    (hn : Node.ofText? (sourceOf pieces).toList = some n) : n = tree pieces := by
  obtain ⟨hwhole, rfl⟩ := Node.ofText?_eq_some_iff.1 hn
  rcases run_sourceOf h with hsome | ⟨hnone, -⟩
  · rw [Option.some.inj (hwhole.run.symm.trans hsome), node_readingOf]
  · rw [hwhole.run] at hnone
    cases hnone

theorem eq_of_compile_sourceOf {r : Regex} (h : Readable pieces)
    (hr : Regex.compile (sourceOf pieces) = .ok r) :
    r = ⟨sourceOf pieces, (tree pieces).program, (tree pieces).maxGroup 0⟩ := by
  obtain ⟨n, hn, rfl⟩ := compile_eq_ok hr
  rw [eq_of_ofText?_sourceOf h hn]

theorem matches_tree {u v : Thread} : (tree pieces).Matches u v ↔
    Chain (.look .textStart :: nodes 0 pieces ++ [.look .textEnd]) u v := by
  rw [tree, Node.matches_concat]

theorem groups_tree : (tree pieces).groups = (nodes 0 pieces).flatMap Node.groups := by
  rw [tree, Node.groups_concat]
  simp [Node.groups]

end Piece

end StepPhrase
