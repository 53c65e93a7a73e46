/-! Words whose brackets match, and how a reader that counts open brackets tells them. -/
namespace StepPhrase

variable {α : Type} {opens closes : α → Prop} {a b : α} {xs ys : List α} {d : Nat}

/-- Each opening bracket has its closing one, and each closing one its opening one. -/
inductive Balanced (opens closes : α → Prop) : List α → Prop
  | nil : Balanced opens closes []
  | plain {a : α} {rest : List α} (ho : ¬opens a) (hc : ¬closes a) :
    Balanced opens closes rest → Balanced opens closes (a :: rest)
  | pair {a b : α} {inner rest : List α} (ho : opens a) (hc : closes b) :
    Balanced opens closes inner → Balanced opens closes rest →
      Balanced opens closes (a :: (inner ++ b :: rest))

/-- The word closes so many brackets that were open before, and its other brackets match. -/
def Closing (opens closes : α → Prop) : Nat → List α → Prop
  | 0, xs => Balanced opens closes xs
  | d + 1, xs => ∃ ys b zs, xs = ys ++ b :: zs ∧ Balanced opens closes ys ∧ closes b ∧
    Closing opens closes d zs

/-- Some opening bracket is never closed. -/
def Unclosed (opens closes : α → Prop) (xs : List α) : Prop :=
  ∃ before a after, xs = before ++ a :: after ∧ opens a ∧
    ∀ inner b rest, after = inner ++ b :: rest → closes b → ¬Balanced opens closes inner

/-- With so many brackets open before, this is the first closing one that finds none open. -/
def Unopened (opens closes : α → Prop) (d : Nat) (xs : List α) (b : α) : Prop :=
  ∃ before after, xs = before ++ b :: after ∧ closes b ∧ Closing opens closes d before

theorem Balanced.not_closes_head (h : Balanced opens closes (a :: xs)) (hc : closes a)
    (ho : ¬opens a) : False := by
  cases h with
  | plain _ hn _ => exact hn hc
  | pair hn => exact ho hn

theorem closing_nil : Closing opens closes d [] ↔ d = 0 := by
  cases d with
  | zero => exact ⟨fun _ => rfl, fun _ => .nil⟩
  | succ d => simp [Closing]

theorem closing_cons_plain (ho : ¬opens a) (hc : ¬closes a) :
    Closing opens closes d (a :: xs) ↔ Closing opens closes d xs := by
  cases d with
  | zero =>
    constructor
    · intro h
      cases h with
      | plain _ _ h => exact h
      | pair hn => exact absurd hn ho
    · exact .plain ho hc
  | succ d =>
    constructor
    · rintro ⟨ys, b, zs, hxs, hys, hb, hzs⟩
      rcases List.cons_eq_append_iff.1 hxs with ⟨rfl, he⟩ | ⟨ys, rfl, rfl⟩
      · cases he
        exact absurd hb hc
      · cases hys with
        | plain _ _ hys => exact ⟨ys, b, zs, rfl, hys, hb, hzs⟩
        | pair hn => exact absurd hn ho
    · rintro ⟨ys, b, zs, rfl, hys, hb, hzs⟩
      exact ⟨a :: ys, b, zs, rfl, .plain ho hc hys, hb, hzs⟩

theorem closing_cons_open (ho : opens a) (hc : ¬closes a) :
    Closing opens closes d (a :: xs) ↔ Closing opens closes (d + 1) xs := by
  cases d with
  | zero =>
    constructor
    · intro h
      cases h with
      | plain hn => exact absurd ho hn
      | pair _ hb hinner hrest => exact ⟨_, _, _, rfl, hinner, hb, hrest⟩
    · rintro ⟨inner, b, rest, rfl, hinner, hb, hrest⟩
      exact .pair ho hb hinner hrest
  | succ d =>
    constructor
    · rintro ⟨ys, b, zs, hxs, hys, hb, hzs⟩
      rcases List.cons_eq_append_iff.1 hxs with ⟨rfl, he⟩ | ⟨ys, rfl, rfl⟩
      · cases he
        exact absurd hb hc
      · cases hys with
        | plain hn => exact absurd ho hn
        | pair _ hb' hinner hrest =>
          exact ⟨_, _, _, List.append_assoc .., hinner, hb', _, b, zs, rfl, hrest, hb, hzs⟩
    · rintro ⟨inner, b', _, rfl, hinner, hb', rest, b, zs, rfl, hrest, hb, hzs⟩
      exact ⟨a :: (inner ++ b' :: rest), b, zs, by simp, .pair ho hb' hinner hrest, hb, hzs⟩

theorem closing_cons_close (ho : ¬opens a) (hc : closes a) :
    Closing opens closes (d + 1) (a :: xs) ↔ Closing opens closes d xs := by
  constructor
  · rintro ⟨ys, b, zs, hxs, hys, hb, hzs⟩
    rcases List.cons_eq_append_iff.1 hxs with ⟨rfl, he⟩ | ⟨ys, rfl, rfl⟩
    · cases he
      exact hzs
    · exact (hys.not_closes_head hc ho).elim
  · intro h
    exact ⟨[], a, xs, rfl, .nil, hc, h⟩

theorem unopened_cons_iff {d' : Nat} (hcons : ∀ ys, Closing opens closes d (a :: ys) ↔
    Closing opens closes d' ys) (hnil : closes a → ¬Closing opens closes d []) :
    Unopened opens closes d (a :: xs) b ↔ Unopened opens closes d' xs b := by
  constructor
  · rintro ⟨before, after, hxs, hb, h⟩
    rcases List.cons_eq_append_iff.1 hxs with ⟨rfl, he⟩ | ⟨before, rfl, rfl⟩
    · cases he
      exact absurd h (hnil hb)
    · exact ⟨before, after, rfl, hb, (hcons before).1 h⟩
  · rintro ⟨before, after, rfl, hb, h⟩
    exact ⟨a :: before, after, rfl, hb, (hcons before).2 h⟩

theorem unopened_cons_plain (ho : ¬opens a) (hc : ¬closes a) :
    Unopened opens closes d (a :: xs) b ↔ Unopened opens closes d xs b :=
  unopened_cons_iff (fun _ => closing_cons_plain ho hc) (absurd · hc)

theorem unopened_cons_open (ho : opens a) (hc : ¬closes a) :
    Unopened opens closes d (a :: xs) b ↔ Unopened opens closes (d + 1) xs b :=
  unopened_cons_iff (fun _ => closing_cons_open ho hc) (absurd · hc)

theorem unopened_cons_close (ho : ¬opens a) (hc : closes a) :
    Unopened opens closes (d + 1) (a :: xs) b ↔ Unopened opens closes d xs b :=
  unopened_cons_iff (fun _ => closing_cons_close ho hc) fun _ => by simp [closing_nil]

theorem unopened_zero_cons_close (ho : ¬opens a) (hc : closes a) :
    Unopened opens closes 0 (a :: xs) b ↔ a = b := by
  constructor
  · rintro ⟨before, after, hxs, hb, h⟩
    rcases List.cons_eq_append_iff.1 hxs with ⟨rfl, he⟩ | ⟨before, rfl, rfl⟩
    · exact (List.cons.inj he).1.symm
    · exact (Balanced.not_closes_head h hc ho).elim
  · rintro rfl
    exact ⟨[], xs, rfl, hc, .nil⟩

/-- In a word whose brackets match, each opening one is closed. -/
theorem Balanced.not_unclosed (h : Balanced opens closes xs) (hex : ∀ a, opens a → ¬closes a) :
    ¬Unclosed opens closes xs := by
  induction h with
  | nil =>
    rintro ⟨before, a, after, hxs, -⟩
    cases before <;> cases hxs
  | plain ho hc h ih =>
    rintro ⟨before, a, after, hxs, ha, hall⟩
    rcases List.cons_eq_append_iff.1 hxs with ⟨rfl, he⟩ | ⟨before, rfl, rfl⟩
    · cases he
      exact ho ha
    · exact ih ⟨before, a, after, rfl, ha, hall⟩
  | @pair a' b inner rest ho hc hinner hrest ihinner ihrest =>
    rintro ⟨before, a, after, hxs, ha, hall⟩
    rcases List.cons_eq_append_iff.1 hxs with ⟨rfl, he⟩ | ⟨before, rfl, he⟩
    · cases he
      exact hall inner b rest rfl hc hinner
    · rcases List.append_eq_append_iff.1 he with ⟨more, rfl, hmore⟩ | ⟨more, rfl, hmore⟩
      · rcases List.cons_eq_append_iff.1 hmore with ⟨rfl, hcons⟩ | ⟨more, rfl, rfl⟩
        · cases hcons
          exact hex _ ha hc
        · exact ihrest ⟨more, a, after, rfl, ha, hall⟩
      · rcases List.cons_eq_append_iff.1 hmore with ⟨rfl, hcons⟩ | ⟨more, rfl, rfl⟩
        · cases hcons
          exact hex _ ha hc
        · refine ihinner ⟨before, a, more, rfl, ha, fun x c y hxy hcloses hx => ?_⟩
          exact hall x c (y ++ b :: rest) (by simp [hxy]) hcloses hx

theorem Unclosed.append (ys : List α) (h : Unclosed opens closes xs) :
    Unclosed opens closes (ys ++ xs) := by
  obtain ⟨before, a, after, rfl, ha, hall⟩ := h
  exact ⟨ys ++ before, a, after, by simp, ha, hall⟩

/-- The brackets match, or some closing one was never opened, or some opening one is never closed. -/
theorem balanced_or (xs : List α) : Balanced opens closes xs ∨
    (∃ b, Unopened opens closes 0 xs b) ∨ Unclosed opens closes xs := by
  induction hn : xs.length using Nat.strongRecOn generalizing xs with
  | ind n ih =>
    cases xs with
    | nil => exact .inl .nil
    | cons a xs =>
      by_cases ho : opens a
      · by_cases hmatch : ∃ inner b rest, xs = inner ++ b :: rest ∧ closes b ∧
            Balanced opens closes inner
        · obtain ⟨inner, b, rest, rfl, hb, hinner⟩ := hmatch
          have hlt : rest.length < n := by
            simp only [List.length_cons, List.length_append] at hn
            omega
          rcases ih _ hlt rest rfl with hrest | ⟨c, before, after, rfl, hc, hbefore⟩ | hrest
          · exact .inl (.pair ho hb hinner hrest)
          · exact .inr (.inl ⟨c, a :: (inner ++ b :: before), after, by simp, hc,
              .pair ho hb hinner hbefore⟩)
          · exact .inr (.inr (by simpa using hrest.append (a :: (inner ++ [b]))))
        · refine .inr (.inr ⟨[], a, xs, rfl, ho, fun inner b rest hxs hb hinner => ?_⟩)
          exact hmatch ⟨inner, b, rest, hxs, hb, hinner⟩
      · by_cases hc : closes a
        · exact .inr (.inl ⟨a, [], xs, rfl, hc, .nil⟩)
        · have hlt : xs.length < n := by
            simp only [List.length_cons] at hn
            omega
          rcases ih _ hlt xs rfl with hxs | ⟨b, hb⟩ | hxs
          · exact .inl (.plain ho hc hxs)
          · exact .inr (.inl ⟨b, (unopened_cons_plain ho hc).2 hb⟩)
          · exact .inr (.inr (hxs.append [a]))

end StepPhrase
