import StepPhrase.Proofs.Unicode.CharSet
import StepPhrase.Unicode.Folding

/-! Simple case folding of code points, and the characters that fold to a letter. -/
namespace StepPhrase.Unicode.Folding

variable {n m : Nat} {c d : Char}

/-- What a run makes of a code point that it holds. -/
def imageIn (n : Nat) : Nat × Nat × Nat × Nat → Option Nat
  | (first, last, step, image) =>
    if first ≤ n ∧ n ≤ last ∧ (n - first) % step = 0 then some (image + (n - first)) else none

/-- The code point that a run makes `m` of. -/
def sourceIn (m : Nat) : Nat × Nat × Nat × Nat → Option Nat
  | (first, last, step, image) =>
    if image ≤ m ∧ first + (m - image) ≤ last ∧ (m - image) % step = 0 then
      some (first + (m - image))
    else none

/-- What a code point folds to. -/
def fold (n : Nat) : Nat := (runs.findSome? (imageIn n)).getD n

theorem sourceIn_of_imageIn {run : Nat × Nat × Nat × Nat} (h : imageIn n run = some m) :
    sourceIn m run = some n := by
  obtain ⟨first, last, step, image⟩ := run
  simp only [imageIn] at h
  split at h
  · rename_i hn
    cases h
    have hsub : image + (n - first) - image = n - first := by omega
    have hadd : first + (n - first) = n := by omega
    simp only [sourceIn]
    rw [hsub, hadd, if_pos ⟨by omega, hn.2.1, hn.2.2⟩]
  · cases h

theorem eq_or_mem_of_fold (h : fold n = m) : n = m ∨ n ∈ runs.filterMap (sourceIn m) := by
  unfold fold at h
  cases hfind : runs.findSome? (imageIn n) with
  | none =>
    rw [hfind] at h
    exact .inl h
  | some k =>
    rw [hfind] at h
    have hk : k = m := h
    subst hk
    obtain ⟨run, hrun, himage⟩ := List.exists_of_findSome?_eq_some hfind
    exact .inr (List.mem_filterMap.2 ⟨run, hrun, sourceIn_of_imageIn himage⟩)

/-- The letters of the words that fragments name in any case. -/
def letters : List Char := "truefalsniy".toList

/-- The code points that fold to a letter: its capital and itself, and the long `s`. -/
def folding (c : Char) : List Nat :=
  if c = 's' then [0x53, 0x73, 0x17F] else [c.toNat - 0x20, c.toNat]

/-- The letter in any case. -/
def anyCase (c : Char) : CharSet := ⟨(folding c).map fun k => (k, k)⟩

theorem folding_letters : ∀ c ∈ letters, (folding c).Pairwise (· ≤ ·) ∧
    (∀ n ∈ folding c, fold n = c.toNat) ∧
    ∀ n ∈ c.toNat :: runs.filterMap (sourceIn c.toNat), n ∈ folding c :=
  forall_mem_of_all (by decide +kernel)

theorem contains_anyCase_iff (hc : c ∈ letters) :
    (anyCase c).contains d = true ↔ fold d.toNat = c.toNat := by
  obtain ⟨hsorted, hfold, hall⟩ := folding_letters c hc
  rw [anyCase, CharSet.contains_singletons_iff hsorted]
  constructor
  · exact hfold _
  · intro h
    exact hall _ (List.mem_cons.2 (eq_or_mem_of_fold h))

theorem fold_letter (hc : c ∈ letters) : fold c.toNat = c.toNat := by
  have hself : ∀ c ∈ letters, fold c.toNat = c.toNat := forall_mem_of_all (by decide +kernel)
  exact hself c hc

end StepPhrase.Unicode.Folding
