import Mathlib.Data.List.Basic
import Mathlib.Logic.Relation
import StepPhrase.Proofs.Regex.Matching
import StepPhrase.Proofs.Regex.Renumbering

/-! What trees match and which groups they have when they are built from parts. -/
namespace StepPhrase.Regex.Node

variable {n m : Node} {ns ms rest before : List Node} {t u v : Thread} {k : Nat}

theorem groups_shift : (n.shift k).groups = n.groups.map (· + k) := by
  induction n with
  | cat a b iha ihb => simp [shift, groups, iha, ihb]
  | alt a b iha ihb => simp [shift, groups, iha, ihb]
  | group i a ih => simp [shift, groups, ih]
  | times min max greedy a ih => simp [shift, groups, ih]
  | _ => rfl

theorem shift_eq_self (h : n.groups = []) : n.shift k = n := by
  induction n with
  | cat a b iha ihb =>
    obtain ⟨ha, hb⟩ := List.append_eq_nil_iff.1 h
    rw [shift, iha ha, ihb hb]
  | alt a b iha ihb =>
    obtain ⟨ha, hb⟩ := List.append_eq_nil_iff.1 h
    rw [shift, iha ha, ihb hb]
  | group i a ih => cases h
  | times min max greedy a ih => rw [shift, ih h]
  | _ => rfl

/-- What is put together from the parts of a concatenation, one after the other. -/
structure Sequential {M : Type} (F : Node → M) (op : M → M → M) (unit : M) : Prop where
  assoc : ∀ x y z, op (op x y) z = op x (op y z)
  unit_op : ∀ x, op unit x = x
  op_unit : ∀ x, op x unit = x
  empty : F .empty = unit
  literal : ∀ s s', F (.literal (s ++ s')) = op (F (.literal s)) (F (.literal s'))
  cat : ∀ a b, F (.cat a b) = op (F a) (F b)

namespace Sequential

variable {M : Type} {F : Node → M} {op : M → M → M} {unit : M}

/-- The parts put together. -/
def all (F : Node → M) (op : M → M → M) (unit : M) (ns : List Node) : M :=
  ns.foldr (fun n x => op (F n) x) unit

variable (h : Sequential F op unit)

include h

theorem all_append : all F op unit (ns ++ ms) = op (all F op unit ns) (all F op unit ms) := by
  induction ns with
  | nil => exact (h.unit_op _).symm
  | cons n ns ih =>
    show op (F n) (all F op unit (ns ++ ms)) = op (op (F n) (all F op unit ns)) _
    rw [ih, h.assoc]

theorem all_singleton : all F op unit [n] = F n := h.op_unit _

theorem all_itemsOnto : all F op unit (n.itemsOnto before).reverse =
    op (all F op unit before.reverse) (F n) := by
  induction n generalizing before with
  | cat a b iha ihb =>
    rw [itemsOnto, ihb, List.reverse_cons, h.all_append, h.all_singleton, h.cat, h.assoc]
  | _ => simp only [itemsOnto, List.reverse_cons, h.all_append, h.all_singleton]

theorem all_consItem : all F op unit (consItem ns n) = op (F n) (all F op unit ns) := by
  unfold consItem
  split
  · rw [h.empty, h.unit_op]
  · rename_i s s' rest
    show op (F (.literal (s ++ s'))) _ = op (F (.literal s)) (op (F (.literal s')) _)
    rw [h.literal, h.assoc]
  · rfl

theorem all_foldl_consItem : all F op unit (ms.foldl consItem ns) =
    op (all F op unit ms.reverse) (all F op unit ns) := by
  induction ms generalizing ns with
  | nil => exact (h.unit_op _).symm
  | cons m ms ih =>
    rw [List.foldl_cons, ih, h.all_consItem, List.reverse_cons, h.all_append, h.all_singleton,
      h.assoc]

theorem map_foldl_cat : F (ns.foldl (fun n a => .cat a n) n) = op (all F op unit ns.reverse) (F n) := by
  induction ns generalizing n with
  | nil => exact (h.unit_op _).symm
  | cons a ns ih =>
    rw [List.foldl_cons, ih, h.cat, List.reverse_cons, h.all_append, h.all_singleton, h.assoc]

theorem map_ofItems : F (ofItems ns) = all F op unit ns := by
  unfold ofItems
  split
  · rename_i hnil
    rw [List.reverse_eq_nil_iff.1 hnil]
    exact h.empty
  · rename_i last others hlast
    rw [h.map_foldl_cat, ← h.all_singleton (n := last), ← h.all_append, ← List.reverse_cons, ← hlast,
      List.reverse_reverse]

/-- A concatenation is made of its parts. -/
theorem map_concatReversed : F (concatReversed ns) = all F op unit ns.reverse := by
  have hfold : ∀ rest : List Node,
      all F op unit (ns.foldl (fun rest n => (n.itemsOnto []).foldl consItem rest) rest) =
        op (all F op unit ns.reverse) (all F op unit rest) := by
    induction ns with
    | nil =>
      intro rest
      exact (h.unit_op _).symm
    | cons n ns ih =>
      intro rest
      have hitems : all F op unit (n.itemsOnto []).reverse = F n :=
        h.all_itemsOnto.trans (h.unit_op _)
      rw [List.foldl_cons, ih, h.all_foldl_consItem, hitems, List.reverse_cons, h.all_append,
        h.all_singleton, h.assoc]
  rw [concatReversed, h.map_ofItems, hfold]
  exact h.op_unit _

theorem map_concat : F (concat ns) = all F op unit ns := by
  rw [concat, h.map_concatReversed, List.reverse_reverse]

end Sequential

theorem sequential_groups : Sequential groups (· ++ ·) [] where
  assoc := List.append_assoc
  unit_op := List.nil_append
  op_unit := List.append_nil
  empty := rfl
  literal _ _ := rfl
  cat _ _ := rfl

theorem all_groups : Sequential.all groups (· ++ ·) [] ns = ns.flatMap groups := by
  induction ns with
  | nil => rfl
  | cons n ns ih => exact congrArg (n.groups ++ ·) ih

/-- A concatenation has the groups of its parts. -/
theorem groups_concatReversed : (concatReversed ns).groups = ns.reverse.flatMap groups := by
  rw [sequential_groups.map_concatReversed, all_groups]

theorem groups_concat : (concat ns).groups = ns.flatMap groups := by
  rw [concat, groups_concatReversed, List.reverse_reverse]

theorem groups_ofSet {b : Bool} {s : Unicode.CharSet} : (ofSet b s).groups = [] := by
  unfold ofSet
  split
  · rfl
  · split <;> rfl

theorem groups_branchesOnto : (n.branchesOnto rest).flatMap groups =
    n.groups ++ rest.flatMap groups := by
  induction n generalizing rest with
  | alt a b iha ihb => simp [branchesOnto, ihb, groups]
  | _ => simp [branchesOnto]

theorem groups_foldl_alt : (ns.foldl (fun n a => alt a n) n).groups =
    ns.reverse.flatMap groups ++ n.groups := by
  induction ns generalizing n with
  | nil => rfl
  | cons a ns ih => simp [ih, groups]

theorem groups_ofBranches : (ofBranches ns).groups = ns.flatMap groups := by
  unfold ofBranches
  split
  · rename_i h
    rw [List.reverse_eq_nil_iff.1 h]
    rfl
  · rename_i last others h
    rw [groups_foldl_alt, ← List.reverse_reverse ns, h]
    simp

theorem groups_items : n.items.flatMap groups = n.groups := by
  rw [items, ← all_groups, sequential_groups.all_itemsOnto]
  rfl

theorem groups_of_cat? {items : List (List Node)} (h : ns.mapM cat? = some items) :
    ns.flatMap groups = items.flatMap (·.flatMap groups) := by
  induction ns generalizing items with
  | nil =>
    cases h
    rfl
  | cons n ns ih =>
    simp only [List.mapM_cons, Option.bind_eq_bind, Option.bind_eq_some_iff, Option.pure_def,
      Option.some.injEq] at h
    obtain ⟨i, hi, is, his, rfl⟩ := h
    rw [List.flatMap_cons, List.flatMap_cons, ih his]
    congr 1
    cases n <;> simp only [cat?, reduceCtorEq, Option.some.injEq] at hi
    rw [← hi, groups_items]

theorem groups_drop_subset : (concat (ns.drop k)).groups ⊆ ns.flatMap groups := by
  intro i hi
  rw [groups_concat] at hi
  obtain ⟨n, hn, hi⟩ := List.mem_flatMap.1 hi
  exact List.mem_flatMap.2 ⟨n, List.mem_of_mem_drop hn, hi⟩

theorem groups_foldr_branchesOnto : (ns.foldr branchesOnto []).flatMap groups =
    ns.flatMap groups := by
  induction ns with
  | nil => rfl
  | cons n ns ih => simp [groups_branchesOnto, ih]

/-- A choice has no groups but those of its alternatives. -/
theorem groups_chooseWithin {fuel : Nat} : (chooseWithin fuel ns).groups ⊆ ns.flatMap groups := by
  induction fuel generalizing ns with
  | zero =>
    by_cases h : ns.length = 1
    · obtain ⟨n, rfl⟩ := List.length_eq_one_iff.1 h
      simp [chooseWithin]
    · rw [chooseWithin_of_length h]
      split
      · simp [groups_ofSet]
      · split
        · simp [groups_ofSet]
        · simp [groups_ofBranches]
  | succ fuel ih =>
    by_cases h : ns.length = 1
    · obtain ⟨n, rfl⟩ := List.length_eq_one_iff.1 h
      simp [chooseWithin]
    · rw [chooseWithin_of_length h]
      split
      · simp [groups_ofSet]
      · split
        · simp [groups_ofSet]
        · split
          · rename_i first others hcat heq
            cases hcat
            split
            · simp [groups_ofBranches]
            · intro i hi
              rw [groups_of_cat? heq]
              rw [groups_concat, List.flatMap_append, List.mem_append, List.flatMap_singleton] at hi
              rcases hi with hi | hi
              · obtain ⟨n, hn, hi⟩ := List.mem_flatMap.1 hi
                exact List.mem_flatMap.2 ⟨first, List.mem_cons_self,
                  List.mem_flatMap.2 ⟨n, List.mem_of_mem_take hn, hi⟩⟩
              · have hi := ih hi
                rw [groups_foldr_branchesOnto, List.flatMap_map] at hi
                obtain ⟨b, hb, hi⟩ := List.mem_flatMap.1 hi
                exact List.mem_flatMap.2 ⟨b, hb, groups_drop_subset hi⟩
          · simp [groups_ofBranches]

theorem groups_chooseReversed : (chooseReversed ns).groups ⊆ ns.flatMap groups := by
  have hfold : ∀ rest : List Node,
      (ns.foldl (fun rest n => n.branchesOnto rest) rest).flatMap groups ⊆
        ns.flatMap groups ++ rest.flatMap groups := by
    induction ns with
    | nil =>
      intro rest
      simp
    | cons n ns ih =>
      intro rest i hi
      have hi := ih _ hi
      simp only [groups_branchesOnto, List.flatMap_cons, List.mem_append] at hi ⊢
      tauto
  have hnil := hfold []
  rw [List.flatMap_nil, List.append_nil] at hnil
  rw [chooseReversed]
  cases hc : ns.foldl (fun rest n => n.branchesOnto rest) [] with
  | nil => simp [fail, groups]
  | cons first others =>
    rw [hc] at hnil
    intro i hi
    exact hnil (groups_chooseWithin hi)

theorem groups_repeated {min : Nat} {max : Option Nat} {greedy : Bool} :
    (n.repeated min max greedy).groups ⊆ n.groups := by
  simp only [repeated]
  generalize (if n.onlyEmpty = true then _ else (min, max)) = bounds
  obtain ⟨lo, hi⟩ := bounds
  split <;> simp [groups]

theorem maxGroup_eq_foldl : n.maxGroup k = n.groups.foldl Nat.max k := by
  induction n generalizing k with
  | cat a b iha ihb => rw [maxGroup, groups, List.foldl_append, iha, ihb]
  | alt a b iha ihb => rw [maxGroup, groups, List.foldl_append, iha, ihb]
  | group i a ih => rw [maxGroup, groups, List.foldl_cons, ih]
  | times min max greedy a ih => exact ih
  | _ => rfl

theorem matches_literal_append {s s' : List Char} :
    (literal (s ++ s')).Matches t v ↔
      ∃ u, (literal s).Matches t u ∧ (literal s').Matches u v := by
  simp only [Matches, Thread.readText_eq_some_iff]
  constructor
  · rintro ⟨rest, hr, rfl⟩
    rw [List.append_assoc] at hr
    exact ⟨_, ⟨s' ++ rest, hr, rfl⟩, rest, rfl, (Thread.after_after (l := []) (m := [])).symm⟩
  · rintro ⟨_, ⟨r, hr, rfl⟩, rest, rfl, rfl⟩
    exact ⟨rest, by simp [hr], Thread.after_after (l := []) (m := [])⟩

theorem sequential_matches : Sequential Matches Relation.Comp Eq where
  assoc _ _ _ := Relation.comp_assoc
  unit_op _ := Relation.eq_comp
  op_unit _ := Relation.comp_eq
  empty := rfl
  literal _ _ := by
    funext t v
    exact propext matches_literal_append
  cat _ _ := rfl

theorem all_matches : Sequential.all Matches Relation.Comp Eq ns t v ↔ Chain ns t v := by
  induction ns generalizing t with
  | nil => rfl
  | cons n ns ih => exact exists_congr fun u => and_congr_right fun _ => ih

/-- A concatenation matches what its parts match one after the other. -/
theorem matches_concat : (concat ns).Matches t v ↔ Chain ns t v := by
  rw [sequential_matches.map_concat, all_matches]

theorem length_consItem : ns.length ≤ (consItem ns n).length := by
  unfold consItem
  split <;> simp

theorem length_foldl_consItem : ns.length ≤ (ms.foldl consItem ns).length := by
  induction ms generalizing ns with
  | nil => exact Nat.le_refl _
  | cons m ms ih => exact Nat.le_trans length_consItem ih

theorem exists_cat_of_foldl (h : ns ≠ []) : ∃ a b, ns.foldl (fun n a => cat a n) n = cat a b := by
  obtain ⟨before, a, rfl⟩ := List.eq_nil_or_concat ns |>.resolve_left h
  exact ⟨a, before.foldl (fun n a => cat a n) n, by simp⟩

theorem exists_cat_of_ofItems (h : 2 ≤ ns.length) : ∃ a b, ofItems ns = cat a b := by
  unfold ofItems
  split
  · rename_i hnil
    rw [List.reverse_eq_nil_iff.1 hnil] at h
    cases h
  · rename_i last before hlast
    apply exists_cat_of_foldl
    rintro rfl
    have := congrArg List.length hlast
    simp at this
    omega

/-- The concatenation between two assertions is one of two or more items. -/
theorem exists_cat_of_concat {l l' : Look} :
    ∃ a b, concat (look l :: ns ++ [look l']) = cat a b := by
  have hreverse : (look l :: ns ++ [look l']).reverse = look l' :: (ns.reverse ++ [look l]) := by
    simp
  have hgrow : ∀ rest : List Node, rest.length ≤
      (ns.reverse.foldl (fun rest n => (n.itemsOnto []).foldl consItem rest) rest).length := by
    induction ns.reverse with
    | nil =>
      intro rest
      exact Nat.le_refl _
    | cons n ns ih =>
      intro rest
      exact Nat.le_trans length_foldl_consItem (ih _)
  apply exists_cat_of_ofItems
  rw [hreverse, List.foldl_cons, List.foldl_append]
  simpa [itemsOnto, consItem] using hgrow [look l']

theorem chooseReversed_concat {l l' : Look} :
    chooseReversed [concat (look l :: ns ++ [look l'])] = concat (look l :: ns ++ [look l']) := by
  obtain ⟨a, b, h⟩ := @exists_cat_of_concat ns l l'
  rw [h]
  show chooseWithin _ [cat a b] = _
  unfold chooseWithin
  rfl

end StepPhrase.Regex.Node
