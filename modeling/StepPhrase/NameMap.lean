/-! Finite maps from names, kept in the order of the names. -/
namespace StepPhrase

structure NameMap (α : Type u) where
  entries : List (String × α)
  sorted : entries.Pairwise (·.1 < ·.1)

namespace NameMap

variable {α : Type u}

def empty : NameMap α := ⟨[], .nil⟩

instance : EmptyCollection (NameMap α) := ⟨empty⟩

def insertEntry (name : String) (a : α) : List (String × α) → List (String × α)
  | [] => [(name, a)]
  | e :: rest =>
    if name < e.1 then (name, a) :: e :: rest
    else if e.1 < name then e :: insertEntry name a rest
    else (name, a) :: rest

theorem mem_insertEntry {name : String} {a : α} {es : List (String × α)} {e : String × α}
    (h : e ∈ insertEntry name a es) : e = (name, a) ∨ e ∈ es := by
  induction es with
  | nil => simpa [insertEntry] using h
  | cons d rest ih =>
    unfold insertEntry at h
    split at h
    · simpa using h
    · split at h
      · rcases List.mem_cons.1 h with h | h
        · exact .inr (by simp [h])
        · exact (ih h).imp_right fun h => List.mem_cons_of_mem _ h
      · exact (List.mem_cons.1 h).imp_right fun h => List.mem_cons_of_mem _ h

theorem pairwise_insertEntry {name : String} {a : α} {es : List (String × α)}
    (h : es.Pairwise (·.1 < ·.1)) : (insertEntry name a es).Pairwise (·.1 < ·.1) := by
  induction es with
  | nil => simp [insertEntry]
  | cons d rest ih =>
    obtain ⟨hd, hrest⟩ := List.pairwise_cons.1 h
    unfold insertEntry
    split
    · rename_i hlt
      refine List.pairwise_cons.2 ⟨fun e he => ?_, h⟩
      rcases List.mem_cons.1 he with rfl | he
      · exact hlt
      · exact String.lt_trans hlt (hd e he)
    · split
      · rename_i hlt
        refine List.pairwise_cons.2 ⟨fun e he => ?_, ih hrest⟩
        rcases mem_insertEntry he with rfl | he
        · exact hlt
        · exact hd e he
      · rename_i hnlt hngt
        have heq : name = d.1 :=
          (Std.lt_trichotomy name d.1).elim (absurd · hnlt) (·.elim id (absurd · hngt))
        exact List.pairwise_cons.2 ⟨fun e he => heq ▸ hd e he, hrest⟩

/-- The map with the name's entry set, whatever stood there. -/
def insert (m : NameMap α) (name : String) (a : α) : NameMap α :=
  ⟨insertEntry name a m.entries, pairwise_insertEntry m.sorted⟩

def get? (m : NameMap α) (name : String) : Option α :=
  (m.entries.find? (·.1 == name)).map (·.2)

theorem find?_insertEntry (name : String) (a : α) (es : List (String × α)) (n : String) :
    (insertEntry name a es).find? (·.1 == n) =
      if name = n then some (name, a) else es.find? (·.1 == n) := by
  induction es with
  | nil => by_cases h : name = n <;> simp [insertEntry, h]
  | cons d rest ih =>
    unfold insertEntry
    split
    · by_cases h : name = n <;> simp [List.find?_cons, h]
    · split
      · rename_i hlt
        by_cases hd : d.1 = n
        · subst hd
          have hne : name ≠ d.1 := fun h => String.lt_irrefl name (by rwa [← h] at hlt)
          simp [hne]
        · simp [hd, ih]
      · rename_i hnlt hngt
        have heq : name = d.1 :=
          (Std.lt_trichotomy name d.1).elim (absurd · hnlt) (·.elim id (absurd · hngt))
        by_cases h : name = n
        · simp [h]
        · simp [h, ← heq]

@[simp] theorem get?_empty (n : String) : (∅ : NameMap α).get? n = none := rfl

theorem get?_insert (m : NameMap α) (name : String) (a : α) (n : String) :
    (m.insert name a).get? n = if name = n then some a else m.get? n := by
  simp only [get?, insert, find?_insertEntry]
  split <;> rfl

def contains (m : NameMap α) (name : String) : Bool := (m.get? name).isSome

def names (m : NameMap α) : List String := m.entries.map (·.1)

def size (m : NameMap α) : Nat := m.entries.length

/-- The map of the pairs; of two with one name the later counts. -/
def ofList (pairs : List (String × α)) : NameMap α :=
  pairs.foldl (fun m (name, a) => m.insert name a) ∅

end NameMap

end StepPhrase
