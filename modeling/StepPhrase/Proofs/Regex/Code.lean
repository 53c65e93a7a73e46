import StepPhrase.Regex.Program

/-! Where the code of a node stands in a program. -/
namespace StepPhrase.Regex

namespace Program

/-- The program goes on where the other one ends. -/
def Continues (p q : Program) : Prop := q.code.toList <+: p.code.toList

def IsGate (p : Program) (i : Nat) : Prop := ∃ g, p.code[i]? = some (.gate g)

variable {p q r : Program} {i : Instruction} {n s : Nat}

theorem Continues.trans (h : p.Continues q) (h' : q.Continues r) : p.Continues r :=
  List.IsPrefix.trans h' h

theorem continues_push : (q.push i).Continues q := by
  simp [Continues, push]

theorem continues_pushGate : q.pushGate.Continues q := by
  simp [Continues, pushGate, push]

@[simp] theorem size_push : (q.push i).size = q.size + 1 := by
  simp [size, push]

@[simp] theorem size_pushGate : q.pushGate.size = q.size + 1 := by
  simp [size, pushGate, push]

@[simp] theorem size_pushChoice {greedy : Bool} {body exit : Nat} :
    (q.pushChoice greedy body exit).size = q.size + 1 := by
  simp [pushChoice]

theorem Continues.push (h : p.Continues (q.push i)) : p.Continues q := h.trans continues_push

theorem Continues.pushGate (h : p.Continues q.pushGate) : p.Continues q :=
  h.trans continues_pushGate

theorem Continues.pushChoice {greedy : Bool} {body exit : Nat}
    (h : p.Continues (q.pushChoice greedy body exit)) : p.Continues q := h.push

theorem Continues.at_size (h : p.Continues (q.push i)) : p.code[q.size]? = some i := by
  obtain ⟨more, hm⟩ := h
  rw [← Array.getElem?_toList, ← hm]
  simp [size, Program.push]

theorem Continues.gate_at_size (h : p.Continues q.pushGate) : p.IsGate q.size :=
  ⟨q.gates, Continues.at_size (i := .gate q.gates) h⟩

/-- The choice between two addresses that `greedy` puts in order. -/
def ChoiceAt (p : Program) (s : Nat) (greedy : Bool) (body exit : Nat) : Prop :=
  p.code[s]? = some (if greedy then .split body exit else .split exit body)

/-! The forms of loops, for a body of length `l` that stands at the addresses of `B`. -/

def CopiesAt (B : Nat → Prop) (l n s : Nat) : Prop := ∀ i < n, B (s + i * l)

def PlusAt (p : Program) (B : Nat → Prop) (l : Nat) (greedy : Bool) (s : Nat) : Prop :=
  p.IsGate s ∧ B (s + 1) ∧ p.ChoiceAt (s + 1 + l) greedy s (s + l + 2)

def StarAt (p : Program) (B : Nat → Prop) (l : Nat) (greedy : Bool) (s : Nat) : Prop :=
  p.IsGate s ∧ p.ChoiceAt (s + 1) greedy (s + 2) (s + l + 3) ∧ B (s + 2) ∧
    p.code[s + l + 2]? = some (.jump s)

def OptionalPlusAt (p : Program) (B : Nat → Prop) (l : Nat) (greedy : Bool) (s : Nat) : Prop :=
  p.ChoiceAt s greedy (s + 1) (s + l + 3) ∧ p.PlusAt B l greedy (s + 1) ∧ p.IsGate (s + l + 3)

def UpToAt (p : Program) (B : Nat → Prop) (l n : Nat) (greedy : Bool) (s : Nat) : Prop :=
  (∀ i < n,
    p.ChoiceAt (s + i * (l + 1)) greedy (s + i * (l + 1) + 1) (s + n * (l + 1)) ∧
      B (s + i * (l + 1) + 1)) ∧
    p.IsGate (s + n * (l + 1))

/-- What emitting a body does: it adds `l` instructions, which stand at the end. -/
structure Emits (body : Program → Program) (l : Nat) (p : Program) (B : Nat → Prop) : Prop where
  size : ∀ q, (body q).size = q.size + l
  continues : ∀ q, (body q).Continues q
  stands : ∀ q, p.Continues (body q) → B q.size

variable {body : Program → Program} {B : Nat → Prop} {l : Nat} {greedy : Bool}

theorem size_repeat (hsize : ∀ q, (body q).size = q.size + l) :
    (n.repeat body q).size = q.size + n * l := by
  induction n with
  | zero => simp [Nat.repeat]
  | succ n ih => rw [Nat.repeat, hsize, ih, Nat.succ_mul, Nat.add_assoc]

theorem continues_repeat (hc : ∀ q, (body q).Continues q) : (n.repeat body q).Continues q := by
  induction n with
  | zero => exact List.prefix_rfl
  | succ n ih => exact (hc _).trans ih

namespace Emits

variable (h : Emits body l p B)

include h

theorem copies (hp : p.Continues (n.repeat body q)) : CopiesAt B l n q.size := by
  induction n with
  | zero =>
    intro i hi
    exact absurd hi (Nat.not_lt_zero i)
  | succ n ih =>
    intro i hi
    rcases Nat.lt_succ_iff_lt_or_eq.1 hi with hi | rfl
    · exact ih (hp.trans (h.continues _)) i hi
    · have := h.stands _ hp
      rwa [size_repeat h.size] at this

theorem size_plus : (plus body greedy q).size = q.size + l + 2 := by
  simp only [plus, size_pushChoice, h.size, size_pushGate]
  omega

theorem continues_plus : (plus body greedy q).Continues q :=
  (continues_push.trans (h.continues _)).trans continues_pushGate

theorem plus (hp : p.Continues (plus body greedy q)) : p.PlusAt B l greedy q.size := by
  have hbody := hp.pushChoice
  refine ⟨(hbody.trans (h.continues _)).gate_at_size, ?_, ?_⟩
  · simpa using h.stands _ hbody
  · have hat := Continues.at_size hp
    rw [h.size, size_pushGate] at hat
    rw [ChoiceAt, hat, show q.size + 1 + l + 1 = q.size + l + 2 by omega]

theorem size_star : (star body l greedy q).size = q.size + l + 3 := by
  simp only [star, size_push, h.size, size_pushChoice, size_pushGate]
  omega

theorem continues_star : (star body l greedy q).Continues q :=
  ((continues_push.trans (h.continues _)).trans continues_push).trans continues_pushGate

theorem star (hp : p.Continues (star body l greedy q)) : p.StarAt B l greedy q.size := by
  have hbody := hp.push
  have hchoice := hbody.trans (h.continues _)
  refine ⟨hchoice.pushChoice.gate_at_size, ?_, ?_, ?_⟩
  · simpa [ChoiceAt] using Continues.at_size hchoice
  · simpa using h.stands _ hbody
  · have hat := Continues.at_size hp
    rwa [h.size, size_pushChoice, size_pushGate,
      show q.size + 1 + 1 + l = q.size + l + 2 by omega] at hat

theorem size_optionalPlus : (optionalPlus body l greedy q).size = q.size + l + 4 := by
  simp only [optionalPlus, size_pushGate, h.size_plus, size_pushChoice]
  omega

theorem continues_optionalPlus : (optionalPlus body l greedy q).Continues q :=
  (continues_pushGate.trans h.continues_plus).trans continues_push

theorem optionalPlus (hp : p.Continues (optionalPlus body l greedy q)) :
    p.OptionalPlusAt B l greedy q.size := by
  have hplus := hp.pushGate
  refine ⟨Continues.at_size (hplus.trans h.continues_plus), ?_, ?_⟩
  · simpa using h.plus hplus
  · have hat := hp.gate_at_size
    rwa [h.size_plus, size_pushChoice,
      show q.size + 1 + l + 2 = q.size + l + 3 by omega] at hat

theorem size_upTo : (upTo body l n greedy q).size = q.size + n * (l + 1) + 1 := by
  have hround : ∀ exit (r : Program),
      (body (r.pushChoice greedy (r.size + 1) exit)).size = r.size + (l + 1) := by
    intro exit r
    rw [h.size, size_pushChoice]
    omega
  simp only [upTo, size_pushGate, size_repeat (hround _)]

theorem continues_upTo : (upTo body l n greedy q).Continues q :=
  continues_pushGate.trans
    (continues_repeat fun _ => (h.continues _).trans continues_push)

theorem upTo (hp : p.Continues (upTo body l n greedy q)) : p.UpToAt B l n greedy q.size := by
  -- One round is a body of its own, one instruction longer.
  have hround : Emits (fun r => body (r.pushChoice greedy (r.size + 1) (q.size + n * (l + 1))))
      (l + 1) p
      (fun s => p.ChoiceAt s greedy (s + 1) (q.size + n * (l + 1)) ∧ B (s + 1)) := by
    refine ⟨?_, fun r => (h.continues _).trans continues_push, ?_⟩
    · intro r
      rw [h.size, size_pushChoice]
      omega
    · intro r hr
      refine ⟨Continues.at_size (hr.trans (h.continues _)), ?_⟩
      simpa using h.stands _ hr
  refine ⟨hround.copies hp.pushGate, ?_⟩
  have hat := hp.gate_at_size
  rwa [size_repeat hround.size] at hat

end Emits

end Program

open Program

/-- The code of the node stands at the address. -/
def Node.StandsAt (p : Program) : Node → Nat → Prop
  | empty, _ => True
  | literal cs, s => p.code[s]? = some (.text cs)
  | set _ cs, s => p.code[s]? = some (.set cs)
  | look l, s => p.code[s]? = some (.look l)
  | cat a b, s => a.StandsAt p s ∧ b.StandsAt p (s + a.length)
  | alt a b, s =>
    p.code[s]? = some (.split (s + 1) (s + a.length + 2)) ∧ a.StandsAt p (s + 1) ∧
      p.code[s + a.length + 1]? = some (.jump (s + a.length + 2 + b.length)) ∧
      b.StandsAt p (s + a.length + 2) ∧ p.IsGate (s + a.length + 2 + b.length)
  | group index a, s =>
    p.code[s]? = some (.save (2 * index)) ∧ a.StandsAt p (s + 1) ∧
      p.code[s + a.length + 1]? = some (.save (2 * index + 1))
  | times min (some max) greedy a, s =>
    CopiesAt (a.StandsAt p) a.length min s ∧
      (min < max → p.UpToAt (a.StandsAt p) a.length (max - min) greedy (s + min * a.length))
  | times 0 none greedy a, s =>
    if a.maybeEmpty then p.OptionalPlusAt (a.StandsAt p) a.length greedy s
    else p.StarAt (a.StandsAt p) a.length greedy s
  | times (n + 1) none greedy a, s =>
    CopiesAt (a.StandsAt p) a.length n s ∧
      p.PlusAt (a.StandsAt p) a.length greedy (s + n * a.length)

namespace Node

variable {p : Program} {a b : Node} {min max n i : Nat} {greedy : Bool}

theorem emits_cat (iha : Emits a.emit a.length p (a.StandsAt p))
    (ihb : Emits b.emit b.length p (b.StandsAt p)) :
    Emits (cat a b).emit (cat a b).length p ((cat a b).StandsAt p) := by
  refine ⟨?_, fun q => (ihb.continues _).trans (iha.continues _), ?_⟩
  · intro q
    rw [Node.emit, ihb.size, iha.size, Node.length]
    omega
  · intro q h
    refine ⟨iha.stands _ (h.trans (ihb.continues _)), ?_⟩
    have := ihb.stands _ h
    rwa [iha.size] at this

theorem emits_alt (iha : Emits a.emit a.length p (a.StandsAt p))
    (ihb : Emits b.emit b.length p (b.StandsAt p)) :
    Emits (alt a b).emit (alt a b).length p ((alt a b).StandsAt p) := by
  refine ⟨?_, ?_, ?_⟩
  · intro q
    simp only [Node.emit, size_pushGate, ihb.size, size_push, iha.size, Node.length]
    omega
  · intro q
    exact (((continues_pushGate.trans (ihb.continues _)).trans continues_push).trans
      (iha.continues _)).trans continues_push
  · intro q h
    have hb := h.pushGate
    have hjump := hb.trans (ihb.continues _)
    have ha := hjump.push
    have hs : (a.emit (q.push (.split (q.size + 1) (q.size + a.length + 2)))).size =
        q.size + a.length + 1 := by
      rw [iha.size, size_push]
      omega
    have hs' : ((a.emit (q.push (.split (q.size + 1) (q.size + a.length + 2)))).push
        (.jump (q.size + a.length + 2 + b.length))).size = q.size + a.length + 2 := by
      rw [size_push, hs]
    refine ⟨Continues.at_size (ha.trans (iha.continues _)), ?_, ?_, ?_, ?_⟩
    · simpa using iha.stands _ ha
    · have hat := Continues.at_size hjump
      rwa [hs] at hat
    · have hat := ihb.stands _ hb
      rwa [hs'] at hat
    · have hat := h.gate_at_size
      rwa [ihb.size, hs'] at hat

theorem emits_group (ih : Emits a.emit a.length p (a.StandsAt p)) :
    Emits (group i a).emit (group i a).length p ((group i a).StandsAt p) := by
  refine ⟨?_, ?_, ?_⟩
  · intro q
    simp only [Node.emit, size_push, ih.size, Node.length]
    omega
  · intro q
    exact (continues_push.trans (ih.continues _)).trans continues_push
  · intro q h
    have ha := h.push
    refine ⟨Continues.at_size (ha.trans (ih.continues _)), ?_, ?_⟩
    · simpa using ih.stands _ ha
    · have hat := Continues.at_size h
      rwa [ih.size, size_push, show q.size + 1 + a.length = q.size + a.length + 1 by omega] at hat

theorem emits_times_some (ih : Emits a.emit a.length p (a.StandsAt p)) :
    Emits (times min (some max) greedy a).emit (times min (some max) greedy a).length p
      ((times min (some max) greedy a).StandsAt p) := by
  by_cases hlt : min < max
  · refine ⟨?_, ?_, ?_⟩
    · intro q
      simp only [Node.emit, if_pos hlt, ih.size_upTo, size_repeat ih.size, Node.length]
      omega
    · intro q
      simp only [Node.emit, if_pos hlt]
      exact ih.continues_upTo.trans (continues_repeat ih.continues)
    · intro q h
      simp only [Node.emit, if_pos hlt] at h
      refine ⟨ih.copies (h.trans ih.continues_upTo), fun _ => ?_⟩
      have hat := ih.upTo h
      rwa [size_repeat ih.size] at hat
  · refine ⟨?_, ?_, ?_⟩
    · intro q
      simp only [Node.emit, if_neg hlt, size_repeat ih.size, Node.length]
      omega
    · intro q
      simp only [Node.emit, if_neg hlt]
      exact continues_repeat ih.continues
    · intro q h
      simp only [Node.emit, if_neg hlt] at h
      exact ⟨ih.copies h, fun hc => absurd hc hlt⟩

theorem emits_star (ih : Emits a.emit a.length p (a.StandsAt p)) :
    Emits (times 0 none greedy a).emit (times 0 none greedy a).length p
      ((times 0 none greedy a).StandsAt p) := by
  cases hm : a.maybeEmpty with
  | true =>
    refine ⟨?_, ?_, ?_⟩ <;> intro q <;>
      simp only [Node.emit, Node.length, Node.StandsAt, hm, if_true]
    · exact ih.size_optionalPlus
    · exact ih.continues_optionalPlus
    · exact ih.optionalPlus
  | false =>
    refine ⟨?_, ?_, ?_⟩ <;> intro q <;>
      simp only [Node.emit, Node.length, Node.StandsAt, hm, Bool.false_eq_true, if_false]
    · exact ih.size_star
    · exact ih.continues_star
    · exact ih.star

theorem emits_plus (ih : Emits a.emit a.length p (a.StandsAt p)) :
    Emits (times (n + 1) none greedy a).emit (times (n + 1) none greedy a).length p
      ((times (n + 1) none greedy a).StandsAt p) := by
  refine ⟨?_, ?_, ?_⟩
  · intro q
    simp only [Node.emit, ih.size_plus, size_repeat ih.size, Node.length]
    rw [Nat.succ_mul]
    omega
  · intro q
    exact ih.continues_plus.trans (continues_repeat ih.continues)
  · intro q h
    refine ⟨ih.copies (h.trans ih.continues_plus), ?_⟩
    have hat := ih.plus h
    rwa [size_repeat ih.size] at hat

end Node

/-- The code of a node is as long as announced, and stands where the program ended before. -/
theorem emits_emit (n : Node) (p : Program) : Emits n.emit n.length p (n.StandsAt p) := by
  induction n with
  | empty => exact ⟨fun q => rfl, fun q => List.prefix_rfl, fun q _ => trivial⟩
  | literal cs => exact ⟨fun q => size_push, fun q => continues_push, fun q h => h.at_size⟩
  | set b cs => exact ⟨fun q => size_push, fun q => continues_push, fun q h => h.at_size⟩
  | look l => exact ⟨fun q => size_push, fun q => continues_push, fun q h => h.at_size⟩
  | cat a b iha ihb => exact Node.emits_cat iha ihb
  | alt a b iha ihb => exact Node.emits_alt iha ihb
  | group i a ih => exact Node.emits_group ih
  | times min max greedy a ih =>
    cases max with
    | some max => exact Node.emits_times_some ih
    | none =>
      cases min with
      | zero => exact Node.emits_star ih
      | succ n => exact Node.emits_plus ih

end StepPhrase.Regex
