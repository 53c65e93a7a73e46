import Mathlib.Data.List.Basic
import StepPhrase.Regex.Reader

/-! Trees whose groups are counted from a later number. Building trees and counting on commute. -/
namespace StepPhrase.Regex

namespace Node

/-- The node with `k` added to the index of each group. -/
def shift (k : Nat) : Node → Node
  | cat a b => cat (a.shift k) (b.shift k)
  | alt a b => alt (a.shift k) (b.shift k)
  | group index a => group (index + k) (a.shift k)
  | times min max greedy a => times min max greedy (a.shift k)
  | n => n

variable {k m : Nat} {n a b : Node} {ns ms : List Node}

theorem shift_injective : Function.Injective (shift k) := by
  intro a
  induction a with
  | cat a b iha ihb =>
    intro c h
    cases c <;> simp [shift] at h ⊢
    exact ⟨iha h.1, ihb h.2⟩
  | alt a b iha ihb =>
    intro c h
    cases c <;> simp [shift] at h ⊢
    exact ⟨iha h.1, ihb h.2⟩
  | group i a ih =>
    intro c h
    cases c <;> simp [shift] at h ⊢
    exact ⟨h.1, ih h.2⟩
  | times min max greedy a ih =>
    intro c h
    cases c <;> simp [shift] at h ⊢
    exact ⟨h.1, h.2.1, h.2.2.1, ih h.2.2.2⟩
  | _ =>
    intro c h
    cases c <;> simp [shift] at h ⊢ <;> exact h

theorem shift_ofSet {u : Bool} {s : Unicode.CharSet} : (ofSet u s).shift k = ofSet u s := by
  unfold ofSet
  split
  · rfl
  · split <;> rfl

theorem map_itemsOnto {before : List Node} :
    (n.shift k).itemsOnto (before.map (shift k)) = (n.itemsOnto before).map (shift k) := by
  induction n generalizing before with
  | cat a b iha ihb => exact @ihb (a :: before)
  | _ => rfl

theorem items_shift : (n.shift k).items = n.items.map (shift k) := by
  rw [items, items, List.map_reverse, ← map_itemsOnto, List.map_nil]

theorem map_consItem : consItem (ns.map (shift k)) (n.shift k) = (consItem ns n).map (shift k) := by
  cases ns with
  | nil => cases n <;> rfl
  | cons m ns =>
    cases n with
    | literal s => cases m <;> rfl
    | _ => rfl

theorem shift_foldl_cat {acc : Node} :
    (ns.foldl (fun n a => cat a n) acc).shift k =
      (ns.map (shift k)).foldl (fun n a => cat a n) (acc.shift k) := by
  induction ns generalizing acc with
  | nil => rfl
  | cons a ns ih => exact ih

theorem shift_foldl_alt {acc : Node} :
    (ns.foldl (fun n a => alt a n) acc).shift k =
      (ns.map (shift k)).foldl (fun n a => alt a n) (acc.shift k) := by
  induction ns generalizing acc with
  | nil => rfl
  | cons a ns ih => exact ih

theorem shift_ofItems : (ofItems ns).shift k = ofItems (ns.map (shift k)) := by
  rw [ofItems, ofItems, ← List.map_reverse]
  cases ns.reverse with
  | nil => rfl
  | cons last before => exact shift_foldl_cat

theorem shift_ofBranches : (ofBranches ns).shift k = ofBranches (ns.map (shift k)) := by
  rw [ofBranches, ofBranches, ← List.map_reverse]
  cases ns.reverse with
  | nil => rfl
  | cons last before => exact shift_foldl_alt

theorem map_foldl_consItem {rest : List Node} :
    (ns.map (shift k)).foldl consItem (rest.map (shift k)) =
      (ns.foldl consItem rest).map (shift k) := by
  induction ns generalizing rest with
  | nil => rfl
  | cons n ns ih => rw [List.map_cons, List.foldl_cons, map_consItem, ih, List.foldl_cons]

theorem shift_concatReversed : (concatReversed ns).shift k = concatReversed (ns.map (shift k)) := by
  have hfold : ∀ rest : List Node,
      (ns.map (shift k)).foldl (fun rest n => (n.itemsOnto []).foldl consItem rest)
        (rest.map (shift k)) =
      (ns.foldl (fun rest n => (n.itemsOnto []).foldl consItem rest) rest).map (shift k) := by
    induction ns with
    | nil =>
      intro rest
      rfl
    | cons n ns ih =>
      intro rest
      rw [List.map_cons, List.foldl_cons, ← List.map_nil (f := shift k), map_itemsOnto,
        map_foldl_consItem]
      exact ih _
  rw [concatReversed, concatReversed, shift_ofItems, ← hfold, List.map_nil]

theorem shift_concat : (concat ns).shift k = concat (ns.map (shift k)) := by
  rw [concat, concat, shift_concatReversed, List.map_reverse]

theorem map_branchesOnto :
    (n.shift k).branchesOnto (ns.map (shift k)) = (n.branchesOnto ns).map (shift k) := by
  induction n generalizing ns with
  | alt a b iha ihb => exact congrArg (a.shift k :: ·) (@ihb ns)
  | _ => rfl

@[simp] theorem char?_shift : (n.shift k).char? = n.char? := by
  cases n <;> rfl

@[simp] theorem set?_shift : (n.shift k).set? = n.set? := by
  cases n <;> rfl

theorem cat?_shift : (n.shift k).cat? = n.cat?.map (List.map (shift k)) := by
  cases n with
  | cat a b => exact congrArg some (items_shift (n := cat a b))
  | _ => rfl

@[simp] theorem spine_shift {m : Nat} : (n.shift k).spine m = n.spine m := by
  induction n generalizing m with
  | cat a b iha ihb => simp [shift, spine, iha, ihb]
  | alt a b iha ihb => simp [shift, spine, iha]
  | _ => rfl

@[simp] theorem commonLength_map :
    commonLength (ns.map (shift k)) (ms.map (shift k)) = commonLength ns ms := by
  induction ns generalizing ms with
  | nil => rfl
  | cons n ns ih =>
    cases ms with
    | nil => rfl
    | cons m ms => simp [commonLength, ih, shift_injective.eq_iff]

theorem mapM_shift {α : Type} {f : Node → Option α} (h : ∀ n : Node, f (n.shift k) = f n) :
    (ns.map (shift k)).mapM f = ns.mapM f := by
  induction ns with
  | nil => rfl
  | cons n ns ih => simp [List.mapM_cons, h, ih]

theorem mapM_cat?_shift :
    (ns.map (shift k)).mapM cat? = (ns.mapM cat?).map (List.map (List.map (shift k))) := by
  induction ns with
  | nil => rfl
  | cons n ns ih =>
    simp only [List.map_cons, List.mapM_cons, ih, cat?_shift]
    cases n.cat? with
    | none => rfl
    | some items => cases ns.mapM cat? <;> rfl

theorem foldl_commonLength {first : List Node} {others : List (List Node)} {m : Nat} :
    (others.map (List.map (shift k))).foldl
        (fun n b => Nat.min n (commonLength (first.map (shift k)) b)) m =
      others.foldl (fun n b => Nat.min n (commonLength first b)) m := by
  induction others generalizing m with
  | nil => rfl
  | cons b others ih => simp only [List.map_cons, List.foldl_cons, commonLength_map, ih]

theorem foldr_branchesOnto :
    (ns.map (shift k)).foldr branchesOnto [] = (ns.foldr branchesOnto []).map (shift k) := by
  induction ns with
  | nil => rfl
  | cons n ns ih => rw [List.map_cons, List.foldr_cons, ih, map_branchesOnto, List.foldr_cons]

/-- The choice between other than one alternative. -/
theorem chooseWithin_of_length {fuel : Nat} (h : ns.length ≠ 1) :
    chooseWithin fuel ns =
      match ns.mapM char? with
      | some chars => ofSet true (.ofRanges chars)
      | none =>
        match ns.mapM set? with
        | some sets => ofSet true (.unions sets)
        | none =>
          match fuel, ns.mapM cat? with
          | fuel + 1, some (first :: others) =>
            match others.foldl (fun n b => Nat.min n (commonLength first b)) first.length with
            | 0 => ofBranches ns
            | n =>
              let suffixes := (first :: others).map fun b => concat (b.drop n)
              concat (first.take n ++ [chooseWithin fuel (suffixes.foldr branchesOnto [])])
          | _, _ => ofBranches ns := by
  match ns with
  | [] => unfold chooseWithin; rfl
  | [n] => exact absurd rfl h
  | n :: m :: rest => exact chooseWithin.eq_def _ _

theorem shift_chooseWithin {fuel : Nat} :
    (chooseWithin fuel ns).shift k = chooseWithin fuel (ns.map (shift k)) := by
  induction fuel generalizing ns with
  | zero =>
    by_cases h : ns.length = 1
    · obtain ⟨n, rfl⟩ := List.length_eq_one_iff.1 h
      simp [chooseWithin]
    · rw [chooseWithin_of_length h, chooseWithin_of_length (by simpa using h),
        mapM_shift fun _ => char?_shift, mapM_shift fun _ => set?_shift]
      split
      · exact shift_ofSet
      · split
        · exact shift_ofSet
        · exact shift_ofBranches
  | succ fuel ih =>
    by_cases h : ns.length = 1
    · obtain ⟨n, rfl⟩ := List.length_eq_one_iff.1 h
      simp [chooseWithin]
    · rw [chooseWithin_of_length h, chooseWithin_of_length (by simpa using h),
        mapM_shift fun _ => char?_shift, mapM_shift fun _ => set?_shift, mapM_cat?_shift]
      split
      · exact shift_ofSet
      · split
        · exact shift_ofSet
        · cases ns.mapM cat? with
          | none => exact shift_ofBranches
          | some items =>
            cases items with
            | nil => exact shift_ofBranches
            | cons first others =>
              simp only [Option.map_some, List.map_cons, foldl_commonLength, List.length_map]
              split
              · exact shift_ofBranches
              · rw [shift_concat, List.map_append, List.map_take, List.map_singleton, ih,
                  ← foldr_branchesOnto]
                simp [Function.comp_def, shift_concat, List.map_drop]

theorem shift_chooseReversed : (chooseReversed ns).shift k = chooseReversed (ns.map (shift k)) := by
  have hfold : ∀ rest : List Node,
      (ns.map (shift k)).foldl (fun rest n => n.branchesOnto rest) (rest.map (shift k)) =
        (ns.foldl (fun rest n => n.branchesOnto rest) rest).map (shift k) := by
    induction ns with
    | nil =>
      intro rest
      rfl
    | cons n ns ih =>
      intro rest
      rw [List.map_cons, List.foldl_cons, map_branchesOnto]
      exact ih _
  have hnil := hfold []
  rw [List.map_nil] at hnil
  rw [chooseReversed, chooseReversed, hnil]
  cases ns.foldl (fun rest n => n.branchesOnto rest) [] with
  | nil => rfl
  | cons first others =>
    simp only [List.map_cons, spine_shift]
    exact shift_chooseWithin

@[simp] theorem onlyEmpty_shift : (n.shift k).onlyEmpty = n.onlyEmpty := by
  induction n with
  | cat a b iha ihb => simp [shift, onlyEmpty, iha, ihb]
  | alt a b iha ihb => simp [shift, onlyEmpty, iha, ihb]
  | group i a ih => simpa [shift, onlyEmpty] using ih
  | times min max greedy a ih => simp [shift, onlyEmpty, ih]
  | _ => rfl

theorem shift_repeated {min : Nat} {max : Option Nat} {greedy : Bool} :
    (n.repeated min max greedy).shift k = (n.shift k).repeated min max greedy := by
  simp only [repeated, onlyEmpty_shift]
  generalize (if n.onlyEmpty = true then _ else (min, max)) = bounds
  obtain ⟨lo, hi⟩ := bounds
  split <;> rfl

theorem maxGroup_shift : (n.shift k).maxGroup (m + k) = n.maxGroup m + k := by
  induction n generalizing m with
  | cat a b iha ihb => simp only [shift, maxGroup, iha, ihb]
  | alt a b iha ihb => simp only [shift, maxGroup, iha, ihb]
  | group i a ih =>
    simp only [shift, maxGroup, ← ih]
    congr 1
    rw [Nat.max_eq_max, Nat.max_eq_max]
    omega
  | times min max greedy a ih => exact ih
  | _ => rfl

end Node

end StepPhrase.Regex
