import Mathlib.Data.List.Forall2
import StepPhrase.Proofs.Regex.Building
import StepPhrase.Proofs.Regex.Preferred

/-! All ways in which a node matches, the preferred one first. The search takes the first of them. -/
namespace StepPhrase.Regex

/-- Reads on, or stops: first the one and then the other, as greed has it. -/
def inOrder (greedy : Bool) (more stop : List Thread) : List Thread :=
  if greedy then more ++ stop else stop ++ more

/-- The ways of so many rounds. -/
def roundsOf (body : Thread → List Thread) : Nat → Thread → List Thread
  | 0, t => [t]
  | n + 1, t => (roundsOf body n t).flatMap body

/-- The ways of at most so many rounds. -/
def roundsUpTo (greedy : Bool) (body : Thread → List Thread) : Nat → Thread → List Thread
  | 0, t => [t]
  | n + 1, t => inOrder greedy ((body t).flatMap (roundsUpTo greedy body n)) [t]

namespace Node

/-- The ways to match, in the order in which they are tried. Rounds without an upper bound are
bounded by what is left to read, so that this is for loops whose rounds read something. -/
def ways : Node → Thread → List Thread
  | empty, t => [t]
  | literal s, t => (t.readText s).toList
  | set _ s, t => (t.readSet s).toList
  | look l, t => if l.holds t.before t.rest then [t] else []
  | cat a b, t => (a.ways t).flatMap b.ways
  | alt a b, t => a.ways t ++ b.ways t
  | group i a, t => (a.ways (t.save (2 * i))).map (·.save (2 * i + 1))
  | times min (some max) greedy a, t =>
    (roundsOf a.ways min t).flatMap (roundsUpTo greedy a.ways (max - min))
  | times min none greedy a, t =>
    (roundsOf a.ways min t).flatMap fun t => roundsUpTo greedy a.ways (t.rest.length + 1) t

/-- Loops without an upper bound have rounds that cannot be empty. -/
def Progressive : Node → Prop
  | empty | literal _ | set .. | look _ => True
  | cat a b | alt a b => a.Progressive ∧ b.Progressive
  | group _ a => a.Progressive
  | times _ max _ a => a.Progressive ∧ (max = none → a.maybeEmpty = false)

end Node

variable {t u v : Thread} {greedy : Bool} {body : Thread → List Thread} {n d : Nat}
  {R : Thread → Thread → Prop}

theorem mem_inOrder {more stop : List Thread} :
    v ∈ inOrder greedy more stop ↔ v ∈ more ∨ v ∈ stop := by
  cases greedy with
  | true => exact List.mem_append
  | false => exact List.mem_append.trans or_comm

theorem mem_roundsOf (h : ∀ t v, v ∈ body t ↔ R t v) : v ∈ roundsOf body n t ↔ Rounds R n t v := by
  induction n generalizing v with
  | zero => simp [roundsOf, Rounds, eq_comm]
  | succ n ih => simp only [roundsOf, List.mem_flatMap, ih, h, rounds_succ_last]

theorem mem_roundsUpTo (h : ∀ t v, v ∈ body t ↔ R t v) :
    v ∈ roundsUpTo greedy body n t ↔ ∃ k ≤ n, Rounds R k t v := by
  induction n generalizing t with
  | zero => simp [roundsUpTo, Rounds, eq_comm]
  | succ n ih =>
    simp only [roundsUpTo, mem_inOrder, List.mem_flatMap, ih, h, List.mem_singleton]
    constructor
    · rintro (⟨u, hu, k, hk, hr⟩ | rfl)
      · exact ⟨k + 1, Nat.succ_le_succ hk, u, hu, hr⟩
      · exact ⟨0, Nat.zero_le _, rfl⟩
    · rintro ⟨_ | k, hk, hr⟩
      · exact .inr hr.symm
      · obtain ⟨u, hu, hr⟩ := hr
        exact .inl ⟨u, hu, k, Nat.le_of_succ_le_succ hk, hr⟩

theorem rounds_le_rest (h : ∀ t u, R t u → u.rest.length + d ≤ t.rest.length)
    (hr : Rounds R n t u) : u.rest.length + d * n ≤ t.rest.length := by
  induction n generalizing t with
  | zero =>
    cases hr
    exact Nat.le_refl _
  | succ n ih =>
    obtain ⟨v, hv, hr⟩ := hr
    have := h t v hv
    have := ih hr
    rw [Nat.mul_succ]
    omega

namespace Node

variable {n : Node}

/-- A match reads at least the least number of characters. -/
theorem Matches.le_rest (h : n.Matches t u) (hd : n.minLength = some d) :
    u.rest.length + d ≤ t.rest.length := by
  induction n generalizing t u d with
  | empty =>
    cases h
    cases hd
    exact Nat.le_refl _
  | literal s =>
    obtain ⟨rest, hrest, rfl⟩ := Thread.readText_eq_some_iff.1 h
    cases hd
    simp only [hrest, Thread.after, List.length_append]
    omega
  | set b c =>
    obtain ⟨c, rest, hrest, -, rfl⟩ := Thread.readSet_eq_some_iff.1 h
    simp only [minLength] at hd
    split at hd
    · cases hd
    · cases hd
      simp [hrest, Thread.after]
  | look l =>
    obtain ⟨-, rfl⟩ := h
    cases hd
    exact Nat.le_refl _
  | cat a b iha ihb =>
    obtain ⟨v, hv, hu⟩ := h
    simp only [minLength, Option.bind_eq_bind, Option.bind_eq_some_iff] at hd
    obtain ⟨x, hx, y, hy, hd⟩ := hd
    cases hd
    have := iha hv hx
    have := ihb hu hy
    omega
  | alt a b iha ihb =>
    simp only [minLength, Option.bind_eq_bind, Option.bind_eq_some_iff] at hd
    obtain ⟨x, hx, y, hy, hd⟩ := hd
    cases hd
    have hx' : Nat.min x y ≤ x := Nat.min_le_left x y
    have hy' : Nat.min x y ≤ y := Nat.min_le_right x y
    rcases h with h | h
    · have := iha h hx
      omega
    · have := ihb h hy
      omega
  | group i a ih =>
    obtain ⟨v, hv, rfl⟩ := h
    have hle := ih hv hd
    exact hle
  | times min max greedy a ih =>
    obtain ⟨k, hmin, -, hk⟩ := h
    simp only [minLength, Option.map_eq_some_iff] at hd
    obtain ⟨x, hx, rfl⟩ := hd
    have hrounds := rounds_le_rest (fun t u h => ih h hx) hk
    have hmul : x * min ≤ x * k := Nat.mul_le_mul_left x hmin
    omega

theorem Matches.shorter (h : n.Matches t u) (hn : n.maybeEmpty = false) :
    u.rest.length < t.rest.length := by
  simp only [maybeEmpty, Bool.not_eq_false', Option.any_eq_true, decide_eq_true_eq] at hn
  obtain ⟨d, hd, hpos⟩ := hn
  have := h.le_rest hd
  omega

/-- The ways are those of all matches. -/
theorem mem_ways (hn : n.Progressive) : v ∈ n.ways t ↔ n.Matches t v := by
  induction n generalizing t v with
  | empty => exact List.mem_singleton.trans eq_comm
  | literal s => exact Option.mem_toList
  | set b s => exact Option.mem_toList
  | look l =>
    by_cases h : l.holds t.before t.rest = true
    · simp [ways, Matches, h, eq_comm]
    · simp [ways, Matches, h]
  | cat a b iha ihb => simp only [ways, Matches, List.mem_flatMap, iha hn.1, ihb hn.2]
  | alt a b iha ihb => simp only [ways, Matches, List.mem_append, iha hn.1, ihb hn.2]
  | group i a ih =>
    have ih : ∀ {t v}, v ∈ a.ways t ↔ a.Matches t v := ih hn
    simp only [ways, Matches, List.mem_map, ih]
  | times min max greedy a ih =>
    have ih : ∀ t v, v ∈ a.ways t ↔ a.Matches t v := fun t v => ih hn.1
    cases max with
    | some max =>
      simp only [ways, Matches, List.mem_flatMap, mem_roundsOf ih, mem_roundsUpTo ih]
      constructor
      · rintro ⟨u, hu, k, hk, hr⟩
        refine ⟨min + k, Nat.le_add_right _ _, ?_, rounds_add.2 ⟨u, hu, hr⟩⟩
        rintro m ⟨⟩
        rw [Nat.max_eq_max]
        omega
      · rintro ⟨k, hmin, hmax, hr⟩
        obtain ⟨j, rfl⟩ := Nat.exists_eq_add_of_le hmin
        obtain ⟨u, hu, hr⟩ := rounds_add.1 hr
        have := hmax max rfl
        rw [Nat.max_eq_max] at this
        exact ⟨u, hu, j, by omega, hr⟩
    | none =>
      simp only [ways, Matches, List.mem_flatMap, mem_roundsOf ih, mem_roundsUpTo ih]
      constructor
      · rintro ⟨u, hu, k, -, hr⟩
        exact ⟨min + k, Nat.le_add_right _ _, by simp, rounds_add.2 ⟨u, hu, hr⟩⟩
      · rintro ⟨k, hmin, -, hr⟩
        obtain ⟨j, rfl⟩ := Nat.exists_eq_add_of_le hmin
        obtain ⟨u, hu, hr⟩ := rounds_add.1 hr
        have := rounds_le_rest (d := 1) (fun t u h => h.shorter (hn.2 rfl)) hr
        exact ⟨u, hu, j, by omega, hr⟩

end Node

/-! The ways of concatenations -/

variable {ns : List Node} {s s' text : List Char}

/-- The ways of nodes one after the other. -/
def chainWays : List Node → Thread → List Thread
  | [], t => [t]
  | n :: ns, t => (n.ways t).flatMap (chainWays ns)

theorem mem_chainWays (h : ∀ n ∈ ns, n.Progressive) : v ∈ chainWays ns t ↔ Chain ns t v := by
  induction ns generalizing t with
  | nil => exact List.mem_singleton.trans eq_comm
  | cons n ns ih =>
    obtain ⟨hn, hns⟩ := List.forall_mem_cons.1 h
    have ih : ∀ {u}, v ∈ chainWays ns u ↔ Chain ns u v := ih hns
    simp only [chainWays, Chain, List.mem_flatMap, Node.mem_ways hn, ih]

theorem Thread.readText_append : t.readText (s ++ s') = (t.readText s).bind (·.readText s') :=
  Option.ext fun _ => Node.matches_literal_append.trans Option.bind_eq_some_iff.symm

theorem chainWays_literals : chainWays (text.map (fun a => .literal [a]) ++ ns) t =
    (t.readText text).toList.flatMap (chainWays ns) := by
  induction text generalizing t with
  | nil => exact (List.flatMap_singleton ..).symm
  | cons a text ih =>
    have hread : t.readText (a :: text) = (t.readText [a]).bind (·.readText text) :=
      Thread.readText_append (s := [a])
    rw [List.map_cons, List.cons_append, chainWays, Node.ways, hread]
    cases t.readText [a] with
    | none => rfl
    | some u => simp [ih]

namespace Node

theorem sequential_progressive : Sequential Progressive And True where
  assoc _ _ _ := propext and_assoc
  unit_op := true_and
  op_unit := and_true
  empty := rfl
  literal _ _ := (true_and True).symm
  cat _ _ := rfl

theorem progressive_concat : (concat ns).Progressive ↔ ∀ n ∈ ns, n.Progressive := by
  rw [sequential_progressive.map_concat]
  induction ns with
  | nil => simp [Sequential.all]
  | cons n ns ih => exact (and_congr_right fun _ => ih).trans List.forall_mem_cons.symm

theorem sequential_ways :
    Sequential ways (fun f g t => (f t).flatMap g) (fun t => [t]) where
  assoc _ _ _ := funext fun _ => List.flatMap_assoc
  unit_op _ := funext fun _ => List.flatMap_singleton ..
  op_unit _ := funext fun _ => List.flatMap_singleton' _
  empty := rfl
  literal s s' := by
    funext t
    simp only [ways, Thread.readText_append]
    cases t.readText s with
    | none => rfl
    | some u => exact (List.flatMap_singleton ..).symm
  cat _ _ := rfl

theorem ways_concat : (concat ns).ways = chainWays ns := by
  rw [sequential_ways.map_concat]
  induction ns with
  | nil => rfl
  | cons n ns ih =>
    funext t
    exact congrArg (n.ways t).flatMap ih

end Node

theorem findSome?_flatMap {α β γ : Type} {l : List α} {f : α → List β} {g : β → Option γ} :
    (l.flatMap f).findSome? g = l.findSome? fun a => (f a).findSome? g := by
  induction l with
  | nil => rfl
  | cons a l ih =>
    rw [List.flatMap_cons, List.findSome?_append, ih, List.findSome?_cons]
    cases (f a).findSome? g <;> rfl

namespace Program

/-- What the exploration of a thread comes to: what its preferred path leads to, or nothing. -/
def Yields (p : Program) (t : Thread) : Option Thread → Prop
  | none => p.Rejects t
  | some u => ∃ k, p.Prefers k t u

/-- Threads at the address `s` go on from the address `e` in these ways, in this order. -/
structure Tries (p : Program) (s e : Nat) (ways : Thread → List Thread) : Prop where
  yields : ∀ (k : Thread → Option Thread) t, (∀ v ∈ ways t, p.Yields (v.goto e) (k v)) →
    p.Yields (t.goto s) ((ways t).findSome? k)

variable {p : Program} {s m e l : Nat} {i : Instruction} {k : Thread → Option Thread}
  {f g : Thread → List Thread} {vs : List Thread} {os : List (Option Thread)} {B : Nat → Prop}

/-- Of threads one after the other, the first that comes to something counts. -/
theorem first_of_yields (h : List.Forall₂ p.Yields vs os) :
    (os.findSome? id = none ∧ ∀ v ∈ vs, p.Rejects v) ∨
      ∃ u failing v more k, os.findSome? id = some u ∧ vs = failing ++ v :: more ∧
        (∀ x ∈ failing, p.Rejects x) ∧ p.Prefers k v u := by
  induction h with
  | nil => exact .inl ⟨rfl, by simp⟩
  | @cons v o vs os hv h ih =>
    cases o with
    | some u =>
      obtain ⟨k, hk⟩ := hv
      exact .inr ⟨u, [], v, vs, k, rfl, rfl, by simp, hk⟩
    | none =>
      rcases ih with ⟨hnone, hall⟩ | ⟨u, failing, w, more, k, hsome, rfl, hfailing, hk⟩
      · exact .inl ⟨hnone, List.forall_mem_cons.2 ⟨hv, hall⟩⟩
      · exact .inr ⟨u, v :: failing, w, more, k, hsome, rfl,
          List.forall_mem_cons.2 ⟨hv, hfailing⟩, hk⟩

theorem yields_of_nexts (hi : p.code[t.address]? = some i) (hne : i ≠ .accept)
    (h : List.Forall₂ p.Yields (p.nexts t) os) : p.Yields t (os.findSome? id) := by
  rcases first_of_yields h with ⟨hnone, hall⟩ | ⟨u, failing, v, more, k, hsome, hn, hf, hk⟩
  · rw [hnone]
    intro k u ha
    cases ha with
    | done hacc => exact hne (Option.some.inj (hi.symm.trans hacc))
    | step hv ha => exact hall _ hv _ _ ha
  · rw [hsome]
    exact ⟨k + 1, .step hn hf hk⟩

theorem tries_refl : p.Tries s s fun t => [t] := by
  refine ⟨fun k t h => ?_⟩
  rw [List.findSome?_singleton]
  exact h t (List.mem_singleton_self t)

theorem Tries.trans (h : p.Tries s m f) (h' : p.Tries m e g) :
    p.Tries s e fun t => (f t).flatMap g := by
  refine ⟨fun k t hk => ?_⟩
  rw [findSome?_flatMap]
  refine h.yields _ t fun v hv => h'.yields k v fun w hw => hk w ?_
  exact List.mem_flatMap.2 ⟨v, hv, hw⟩

theorem Tries.pass (h : p.Tries s m f) (h' : p.Tries m e fun t => [t]) : p.Tries s e f := by
  have hboth := h.trans h'
  simpa only [List.flatMap_singleton'] using hboth

theorem Tries.pass_first (h : p.Tries s m fun t => [t]) (h' : p.Tries m e f) : p.Tries s e f := by
  have hboth := h.trans h'
  simpa only [List.flatMap_singleton] using hboth

/-- What an instruction does. -/
theorem tries_of_nexts (hi : p.code[s]? = some i) (hne : i ≠ .accept)
    (hn : ∀ t : Thread, p.nexts (t.goto s) = (f t).map (·.goto e)) : p.Tries s e f := by
  refine ⟨fun k t hk => ?_⟩
  have h : List.Forall₂ p.Yields (p.nexts (t.goto s)) ((f t).map k) := by
    rw [hn, List.forall₂_map_left_iff, List.forall₂_map_right_iff, List.forall₂_same]
    exact hk
  have hyields := yields_of_nexts (t := t.goto s) hi hne h
  rwa [List.findSome?_map, Function.id_comp] at hyields

theorem readText_goto {cs : List Char} :
    (t.goto s).readText cs = (t.readText cs).map (·.goto s) := by
  induction cs generalizing t with
  | nil => rfl
  | cons c cs ih =>
    unfold Thread.readText
    cases hr : t.rest with
    | nil => simp [Thread.goto, hr]
    | cons d rest =>
      simp only [Thread.goto, hr]
      split
      · exact ih (t := ⟨t.address, t.position + 1, some d, rest, t.slots⟩)
      · rfl

theorem tries_text {cs : List Char} (h : p.code[s]? = some (.text cs)) :
    p.Tries s (s + 1) fun t => (t.readText cs).toList := by
  apply tries_of_nexts h (by simp)
  intro t
  have hcode : p.code[(t.goto s).address]? = some (.text cs) := h
  rw [nexts, hcode]
  dsimp only
  rw [readText_goto]
  cases t.readText cs <;> rfl

theorem tries_set {c : Unicode.CharSet} (h : p.code[s]? = some (.set c)) :
    p.Tries s (s + 1) fun t => (t.readSet c).toList := by
  apply tries_of_nexts h (by simp)
  intro t
  have hcode : p.code[(t.goto s).address]? = some (.set c) := h
  rw [nexts, hcode]
  cases hr : t.rest with
  | nil => simp [Thread.readSet, Thread.goto, hr]
  | cons d rest =>
    simp only [Thread.readSet, Thread.goto, hr]
    split <;> rfl

theorem tries_look {a : Look} (h : p.code[s]? = some (.look a)) :
    p.Tries s (s + 1) fun t => if a.holds t.before t.rest then [t] else [] := by
  apply tries_of_nexts h (by simp)
  intro t
  by_cases ha : a.holds t.before t.rest = true <;> simp [nexts, Thread.goto, h, Thread.next, ha]

theorem tries_save {slot : Nat} (h : p.code[s]? = some (.save slot)) :
    p.Tries s (s + 1) fun t => [t.save slot] :=
  tries_of_nexts h (by simp) fun t => by simp [nexts, Thread.goto, Thread.next, Thread.save, h]

theorem tries_gate (h : p.IsGate s) : p.Tries s (s + 1) fun t => [t] := by
  obtain ⟨g, hg⟩ := h
  exact tries_of_nexts hg (by simp) fun t => nexts_gate (t := t.goto s) ⟨g, hg⟩

theorem tries_jump (h : p.code[s]? = some (.jump e)) : p.Tries s e fun t => [t] :=
  tries_of_nexts h (by simp) fun t => by simpa [Thread.goto] using nexts_jump (t := t.goto s) h

theorem yields_choice {more stop : List Thread} (h : p.ChoiceAt s greedy m n)
    (hm : p.Yields (t.goto m) (more.findSome? k)) (hn : p.Yields (t.goto n) (stop.findSome? k)) :
    p.Yields (t.goto s) ((inOrder greedy more stop).findSome? k) := by
  unfold ChoiceAt at h
  have hor : ∀ o o' : Option Thread, [o, o'].findSome? id = o.or o' := by
    rintro (_ | _) (_ | _) <;> rfl
  cases greedy with
  | true =>
    rw [inOrder, if_pos rfl, List.findSome?_append, ← hor]
    exact yields_of_nexts (t := t.goto s) h (by simp)
      (by simpa [nexts, Thread.goto, h] using ⟨hm, hn⟩)
  | false =>
    rw [inOrder, if_neg Bool.false_ne_true, List.findSome?_append, ← hor]
    exact yields_of_nexts (t := t.goto s) h (by simp)
      (by simpa [nexts, Thread.goto, h] using ⟨hn, hm⟩)

theorem tries_choice (h : p.ChoiceAt s greedy m n) (hm : p.Tries m e f) (hn : p.Tries n e g) :
    p.Tries s e fun t => inOrder greedy (f t) (g t) := by
  refine ⟨fun k t hk => yields_choice h ?_ ?_⟩
  · exact hm.yields k t fun v hv => hk v (mem_inOrder.2 (.inl hv))
  · exact hn.yields k t fun v hv => hk v (mem_inOrder.2 (.inr hv))

section Copies

variable (hB : ∀ s, B s → p.Tries s (s + l) f)

include hB

theorem tries_copies (h : CopiesAt B l n s) : p.Tries s (s + n * l) (roundsOf f n) := by
  induction n with
  | zero =>
    rw [Nat.zero_mul]
    exact tries_refl
  | succ n ih =>
    have hfirst := ih fun i hi => h i (Nat.lt_succ_of_lt hi)
    rw [Nat.succ_mul, ← Nat.add_assoc]
    exact hfirst.trans (hB _ (h n (Nat.lt_succ_self n)))

theorem tries_upTo (h : p.UpToAt B l n greedy s) :
    p.Tries s (s + n * (l + 1) + 1) (roundsUpTo greedy f n) := by
  obtain ⟨hrounds, hgate⟩ := h
  -- With `d` rounds left, by induction on `d`.
  have hleft : ∀ d, d ≤ n →
      p.Tries (s + (n - d) * (l + 1)) (s + n * (l + 1)) (roundsUpTo greedy f d) := by
    intro d
    induction d with
    | zero =>
      intro _
      exact tries_refl
    | succ d ih =>
      intro hd
      obtain ⟨hchoice, hbody⟩ := hrounds (n - (d + 1)) (by omega)
      have hnext : s + (n - (d + 1)) * (l + 1) + 1 + l = s + (n - d) * (l + 1) := by
        rw [show n - d = n - (d + 1) + 1 by omega, Nat.succ_mul]
        omega
      have hround := hB _ hbody
      rw [hnext] at hround
      exact tries_choice hchoice (hround.trans (ih (by omega))) tries_refl
  have hall := hleft n (Nat.le_refl n)
  simp only [Nat.sub_self, Nat.zero_mul, Nat.add_zero] at hall
  exact hall.pass (tries_gate hgate)

end Copies

/-- A choice between leaving and a body that comes back to it. -/
theorem tries_loop (hc : p.ChoiceAt s greedy m e) (hbody : p.Tries m s f)
    (hshorter : ∀ t, ∀ v ∈ f t, v.rest.length < t.rest.length) :
    p.Tries s e fun t => roundsUpTo greedy f (t.rest.length + 1) t := by
  -- More than is left to read bounds the rounds, since each of them reads something.
  have hall : ∀ n t, t.rest.length < n → ∀ k : Thread → Option Thread,
      (∀ v ∈ roundsUpTo greedy f n t, p.Yields (v.goto e) (k v)) →
        p.Yields (t.goto s) ((roundsUpTo greedy f n t).findSome? k) := by
    intro n
    induction n with
    | zero =>
      intro t ht
      exact absurd ht (Nat.not_lt_zero _)
    | succ n ih =>
      intro t ht k hk
      refine yields_choice hc ?_ (tries_refl.yields k t fun v hv => hk v (mem_inOrder.2 (.inr hv)))
      rw [findSome?_flatMap]
      refine hbody.yields _ t fun v hv => ?_
      refine ih v (Nat.lt_of_lt_of_le (hshorter t v hv) (Nat.le_of_lt_succ ht)) k fun w hw => ?_
      exact hk w (mem_inOrder.2 (.inl (List.mem_flatMap.2 ⟨v, hv, hw⟩)))
  exact ⟨fun k t hk => hall _ t (Nat.lt_succ_self _) k hk⟩

theorem tries_plus (hB : ∀ s, B s → p.Tries s (s + l) f) (h : p.PlusAt B l greedy s)
    (hshorter : ∀ t, ∀ v ∈ f t, v.rest.length < t.rest.length) : p.Tries s (s + l + 2)
      fun t => (f t).flatMap fun t => roundsUpTo greedy f (t.rest.length + 1) t := by
  obtain ⟨hgate, hbody, hchoice⟩ := h
  have hround := (tries_gate hgate).pass_first (hB _ hbody)
  exact hround.trans (tries_loop hchoice hround hshorter)

theorem tries_star (hB : ∀ s, B s → p.Tries s (s + l) f) (h : p.StarAt B l greedy s)
    (hshorter : ∀ t, ∀ v ∈ f t, v.rest.length < t.rest.length) :
    p.Tries s (s + l + 3) fun t => roundsUpTo greedy f (t.rest.length + 1) t := by
  obtain ⟨hgate, hchoice, hbody, hjump⟩ := h
  have hback := (hB _ hbody).pass (tries_jump (by rwa [Nat.add_right_comm]))
  exact (tries_gate hgate).pass_first
    (tries_loop hchoice (hback.pass (tries_gate hgate)) hshorter)

end Program

namespace Node

open Program

variable {p : Program} {a n : Node} {s min max : Nat} {text : List Char} {others : List Thread}

theorem tries_times_some (hB : ∀ s, a.StandsAt p s → p.Tries s (s + a.length) a.ways)
    (h : (times min (some max) greedy a).StandsAt p s) :
    p.Tries s (s + (times min (some max) greedy a).length) (times min (some max) greedy a).ways := by
  obtain ⟨hcopies, hmore⟩ := h
  have hmin := tries_copies hB hcopies
  by_cases hlt : min < max
  · rw [Node.length, if_pos hlt, ← Nat.add_assoc, ← Nat.add_assoc]
    exact hmin.trans (tries_upTo hB (hmore hlt))
  · have hnone : (times min (some max) greedy a).ways = roundsOf a.ways min := by
      funext t
      rw [ways, Nat.sub_eq_zero_of_le (Nat.le_of_not_lt hlt)]
      exact List.flatMap_singleton' _
    rwa [Node.length, if_neg hlt, Nat.add_zero, hnone]

theorem tries_times_none (hB : ∀ s, a.StandsAt p s → p.Tries s (s + a.length) a.ways)
    (hn : a.Progressive) (ha : a.maybeEmpty = false) (h : (times min none greedy a).StandsAt p s) :
    p.Tries s (s + (times min none greedy a).length) (times min none greedy a).ways := by
  have hshorter : ∀ t, ∀ v ∈ a.ways t, v.rest.length < t.rest.length :=
    fun t v hv => ((mem_ways hn).1 hv).shorter ha
  cases min with
  | zero =>
    have hlength : (times 0 none greedy a).length = a.length + 3 := by simp [Node.length, ha]
    have hstar : p.StarAt (a.StandsAt p) a.length greedy s := by
      simpa [StandsAt, ha] using h
    have hways : (times 0 none greedy a).ways =
        fun t => roundsUpTo greedy a.ways (t.rest.length + 1) t := by
      funext t
      simp [ways, roundsOf]
    rw [hlength, hways, ← Nat.add_assoc]
    exact tries_star hB hstar hshorter
  | succ n =>
    obtain ⟨hcopies, hplus⟩ := h
    have hlength : s + (times (n + 1) none greedy a).length =
        s + n * a.length + a.length + 2 := by
      rw [Node.length, Nat.succ_mul]
      omega
    have hways : (times (n + 1) none greedy a).ways = fun t => (roundsOf a.ways n t).flatMap
        fun t => (a.ways t).flatMap fun t => roundsUpTo greedy a.ways (t.rest.length + 1) t := by
      funext t
      rw [ways, roundsOf, List.flatMap_assoc]
    rw [hlength, hways]
    exact (tries_copies hB hcopies).trans (tries_plus hB hplus hshorter)

/-- The code of a node tries its ways in their order. -/
theorem StandsAt.tries (h : n.StandsAt p s) (hn : n.Progressive) :
    p.Tries s (s + n.length) n.ways := by
  induction n generalizing s with
  | empty => exact tries_refl
  | literal cs => exact tries_text h
  | set b cs => exact tries_set h
  | look l => exact tries_look h
  | cat a b iha ihb =>
    have hboth := (iha h.1 hn.1).trans (ihb h.2 hn.2)
    rwa [Nat.add_assoc, Nat.add_comm a.length] at hboth
  | alt a b iha ihb =>
    obtain ⟨hsplit, ha, hjump, hb, hgate⟩ := h
    have hchoice : p.ChoiceAt s true (s + 1) (s + a.length + 2) := hsplit
    have hleft := (iha ha hn.1).pass (tries_jump (by rwa [Nat.add_right_comm]))
    have hboth := (tries_choice hchoice hleft (ihb hb hn.2)).pass (tries_gate hgate)
    rwa [show s + a.length + 2 + b.length + 1 = s + (alt a b).length by
      rw [Node.length]; omega] at hboth
  | group i a ih =>
    obtain ⟨hopen, ha, hclose⟩ := h
    have hbody := ih ha hn
    rw [Nat.add_right_comm] at hbody
    have hall := ((tries_save hopen).trans hbody).trans (tries_save hclose)
    have hways : (group i a).ways = fun t =>
        (a.ways (t.save (2 * i))).flatMap fun v => [v.save (2 * i + 1)] := by
      funext t
      exact List.map_eq_flatMap
    rw [hways]
    simpa [Node.length, Nat.add_assoc] using hall
  | times min max greedy a ih =>
    have hB : ∀ s, a.StandsAt p s → p.Tries s (s + a.length) a.ways := fun s h => ih h hn.1
    cases max with
    | some max => exact tries_times_some hB h
    | none => exact tries_times_none hB hn.1 (hn.2 rfl) h

/-- The search takes the first way from the first position that has one. -/
theorem search_of_ways (hn : n.Progressive) (h : n.ways (.start [] text) = u :: others) :
    n.program.search text = some (0, u.goto n.length) := by
  have hc : n.program.Continues (n.emit {}) := continues_push
  have htries := ((emits_emit n n.program).stands {} hc).tries hn
  have hsize : (n.emit {}).size = n.length := by
    rw [(emits_emit n n.program).size]
    exact Nat.zero_add _
  have haccept : n.program.code[n.length]? = some .accept := by
    rw [← hsize]
    exact Continues.at_size (q := n.emit {}) List.prefix_rfl
  have hz : Program.size {} = 0 := rfl
  rw [hz, Nat.zero_add] at htries
  have hyields := htries.yields (fun v => some (v.goto n.length)) (.start [] text)
    fun v _ => ⟨0, .done haccept⟩
  rw [h] at hyields
  obtain ⟨k, hk⟩ := hyields
  exact search_of_prefers n.orderly_program hk

end Node

end StepPhrase.Regex
