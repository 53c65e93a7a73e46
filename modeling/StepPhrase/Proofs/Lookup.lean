import Mathlib.Data.List.Nodup
import StepPhrase.NameMap

/-! Look-ups by key: where each key has one entry, they tell all that there is, and in a map that is
made of pairs the last pair under a name counts. -/
namespace StepPhrase

section Keys

variable {α κ : Type*} [DecidableEq κ] {key : α → κ} {l l' : List α} {k : κ} {a : α}

theorem find?_key_eq_some_iff (h : (l.map key).Nodup) :
    l.find? (fun b => decide (key b = k)) = some a ↔ a ∈ l ∧ key a = k := by
  constructor
  · intro hfind
    exact ⟨List.mem_of_find?_eq_some hfind, by simpa using List.find?_some hfind⟩
  · rintro ⟨hmem, rfl⟩
    cases hfind : l.find? (fun b => decide (key b = key a)) with
    | none => simpa using List.find?_eq_none.1 hfind a hmem
    | some b =>
      have hkey : key b = key a := by simpa using List.find?_some hfind
      rw [List.inj_on_of_nodup_map h (List.mem_of_find?_eq_some hfind) hmem hkey]

theorem perm_of_find?_key (h : (l.map key).Nodup) (h' : (l'.map key).Nodup)
    (hfind : ∀ k, l.find? (fun b => decide (key b = k)) =
      l'.find? (fun b => decide (key b = k))) : l.Perm l' := by
  refine (List.perm_ext_iff_of_nodup (.of_map _ h) (.of_map _ h')).2 fun a => ?_
  have hmem := find?_key_eq_some_iff (k := key a) (a := a) h
  rw [hfind, find?_key_eq_some_iff h'] at hmem
  simpa using hmem.symm

end Keys

namespace NameMap

variable {α : Type*} {m m' : NameMap α} {name key : String} {a : α} {pairs : List (String × α)}

theorem get?_eq_map_find? :
    m.get? name = (m.entries.find? fun e => decide (e.1 = name)).map (·.2) := by
  simp only [get?, beq_eq_decide]

theorem nodup_keys : (m.entries.map (·.1)).Nodup :=
  List.pairwise_map.2 (m.sorted.imp String.ne_of_lt)

theorem get?_eq_some_iff : m.get? name = some a ↔ (name, a) ∈ m.entries := by
  rw [get?_eq_map_find?, Option.map_eq_some_iff]
  simp only [find?_key_eq_some_iff nodup_keys]
  constructor
  · rintro ⟨e, ⟨hmem, rfl⟩, rfl⟩
    exact hmem
  · intro hmem
    exact ⟨(name, a), ⟨hmem, rfl⟩, rfl⟩

theorem contains_iff : m.contains name = true ↔ ∃ a, m.get? name = some a := by
  rw [contains, Option.isSome_iff_exists]

theorem contains_insert_iff :
    (m.insert name a).contains key = true ↔ key = name ∨ m.contains key = true := by
  rw [contains, get?_insert]
  split
  · rename_i heq
    simp [heq]
  · rename_i hne
    simp [contains, Ne.symm hne]

theorem pairwise_names : m.names.Pairwise (· < ·) := List.pairwise_map.2 m.sorted

theorem mem_names_iff : name ∈ m.names ↔ ∃ a, m.get? name = some a := by
  simp only [names, List.mem_map, Prod.exists, exists_and_right, exists_eq_right, get?_eq_some_iff]

/-- Maps that give the same for every name are equal, for their entries stand in one order. -/
theorem ext_get? (h : ∀ name, m.get? name = m'.get? name) : m = m' := by
  have hmem : ∀ e, e ∈ m.entries ↔ e ∈ m'.entries := by
    rintro ⟨name, a⟩
    rw [← get?_eq_some_iff, ← get?_eq_some_iff, h]
  have hperm : m.entries.Perm m'.entries :=
    (List.perm_ext_iff_of_nodup (.of_map _ nodup_keys) (.of_map _ nodup_keys)).2 hmem
  have hentries : m.entries = m'.entries :=
    hperm.eq_of_pairwise (fun _ _ _ _ hlt hgt => absurd hlt (String.lt_asymm hgt))
      m.sorted m'.sorted
  cases m
  cases m'
  cases hentries
  rfl

theorem get?_foldl_insert :
    (pairs.foldl (fun m (name, a) => m.insert name a) m).get? name =
      ((pairs.reverse.find? (·.1 == name)).map (·.2)).or (m.get? name) := by
  induction pairs generalizing m with
  | nil => rfl
  | cons p pairs ih =>
    rw [List.foldl_cons, ih, List.reverse_cons, List.find?_append, get?_insert]
    cases pairs.reverse.find? (·.1 == name) with
    | some q => rfl
    | none => by_cases h : p.1 = name <;> simp [h]

theorem get?_ofList :
    (ofList pairs).get? name = (pairs.reverse.find? (·.1 == name)).map (·.2) := by
  simp [ofList, get?_foldl_insert]

theorem get?_ofList_cons {p : String × α} : (ofList (p :: pairs)).get? name =
    ((ofList pairs).get? name).or (if p.1 = name then some p.2 else none) := by
  rw [ofList, List.foldl_cons, get?_foldl_insert, get?_insert, get?_empty, get?_ofList]

theorem mem_of_get?_ofList (h : (ofList pairs).get? name = some a) : (name, a) ∈ pairs := by
  rw [get?_ofList] at h
  obtain ⟨⟨key, b⟩, hfind, rfl⟩ := Option.map_eq_some_iff.1 h
  have hname : key = name := by simpa using List.find?_some hfind
  exact List.mem_reverse.1 (hname ▸ List.mem_of_find?_eq_some hfind)

theorem ne_of_get?_ofList (h : (ofList pairs).get? name = none) : ∀ p ∈ pairs, p.1 ≠ name := by
  rw [get?_ofList, Option.map_eq_none_iff, List.find?_eq_none] at h
  intro p hp
  simpa using h p (List.mem_reverse.2 hp)

end NameMap

end StepPhrase
