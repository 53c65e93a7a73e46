import StepPhrase.Unicode.Blank
import StepPhrase.Unicode.CharSet.Algebra

/-! Membership in sets of characters. -/
namespace StepPhrase

/-- What holds of each of a list's members can be found by going through them. -/
theorem forall_mem_of_all {α : Type} {P : α → Prop} [DecidablePred P] {l : List α}
    (h : l.all (fun a => decide (P a)) = true) : ∀ a ∈ l, P a :=
  fun a ha => of_decide_eq_true (List.all_eq_true.1 h a ha)

end StepPhrase

namespace StepPhrase.Unicode.CharSet

variable {n : Nat} {c : Char} {l : List (Nat × Nat)} {k : List Nat}

theorem covers_iff (h : l.Pairwise (·.1 ≤ ·.1)) :
    covers n l = true ↔ ∃ x ∈ l, x.1 ≤ n ∧ n ≤ x.2 := by
  induction l with
  | nil => simp [covers]
  | cons x l ih =>
    obtain ⟨hx, hl⟩ := List.pairwise_cons.1 h
    rw [covers]
    split
    · rename_i hlt
      constructor
      · intro hfalse
        cases hfalse
      · rintro ⟨y, hy, hlo, -⟩
        rcases List.mem_cons.1 hy with rfl | hy
        · omega
        · have := hx y hy
          omega
    · rename_i hnlt
      split
      · rename_i hle
        exact ⟨fun _ => ⟨x, List.mem_cons_self, by omega, hle⟩, fun _ => rfl⟩
      · rename_i hnle
        rw [ih hl]
        constructor
        · rintro ⟨y, hy, hin⟩
          exact ⟨y, List.mem_cons_of_mem _ hy, hin⟩
        · rintro ⟨y, hy, hin⟩
          rcases List.mem_cons.1 hy with rfl | hy
          · omega
          · exact ⟨y, hy, hin⟩

/-- A set of single code points. -/
theorem contains_singletons_iff (h : k.Pairwise (· ≤ ·)) :
    contains ⟨k.map fun n => (n, n)⟩ c = true ↔ c.toNat ∈ k := by
  rw [contains, mem, covers_iff (List.pairwise_map.2 h)]
  simp only [List.mem_map]
  constructor
  · rintro ⟨-, ⟨n, hn, rfl⟩, hlo, hhi⟩
    rwa [Nat.le_antisymm hhi hlo]
  · intro hc
    exact ⟨_, ⟨_, hc, rfl⟩, Nat.le_refl _, Nat.le_refl _⟩

/-- A set of two characters. -/
theorem contains_pair_iff {a b : Char} (h : a.toNat ≤ b.toNat) :
    contains ⟨[a.toNat, b.toNat].map fun n => (n, n)⟩ c = true ↔ c = a ∨ c = b := by
  rw [contains_singletons_iff (by simpa using h)]
  simp only [List.mem_cons, List.not_mem_nil, or_false, Char.toNat_inj]

theorem toNat_le_greatest : c.toNat ≤ greatest := by
  have h : c.val.toNat.isValidChar := c.valid
  have hval : c.val.toNat = c.toNat := rfl
  rw [hval] at h
  have hgreatest : greatest = 0x10FFFF := rfl
  unfold Nat.isValidChar at h
  omega

theorem contains_compl_newline_iff : (char '\n').compl.contains c = true ↔ c ≠ '\n' := by
  have hranges : (char '\n').compl.ranges = [(0, 9), (11, greatest)] := by decide +kernel
  have hle : c.toNat ≤ greatest := toNat_le_greatest
  have hne : c ≠ '\n' ↔ c.toNat ≠ 10 := by
    rw [Ne, ← Char.toNat_inj]
    rfl
  rw [contains, mem, hranges, covers_iff (by decide), hne]
  simp only [List.mem_cons, List.not_mem_nil, or_false, exists_eq_or_imp, exists_eq_left]
  omega

theorem contains_compl_whiteSpace_iff : whiteSpace.compl.contains c = true ↔ isBlank c = false := by
  have hranges : whiteSpace.compl.ranges = [(0, 8), (14, 31), (33, 132), (134, 159), (161, 5759),
      (5761, 8191), (8203, 8231), (8234, 8238), (8240, 8286), (8288, 12287), (12289, greatest)] := by
    decide +kernel
  have hle : c.toNat ≤ greatest := toNat_le_greatest
  rw [contains, mem, hranges, covers_iff (by decide), isBlank, ← Bool.not_eq_true, contains, mem,
    covers_iff (by decide), whiteSpace]
  simp only [List.mem_cons, List.not_mem_nil, or_false, exists_eq_or_imp, exists_eq_left]
  omega

end StepPhrase.Unicode.CharSet
