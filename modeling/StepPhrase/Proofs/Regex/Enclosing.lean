import StepPhrase.Proofs.Regex.Building
import StepPhrase.Proofs.Regex.Embedding
import StepPhrase.Proofs.Regex.Opened
import StepPhrase.Regex.Basic

/-! Expressions put in capturing parentheses of a larger one. -/
namespace StepPhrase.Regex

variable {n : Node} {d : Bool} {f s t : List Char} {b c r : Reading} {m k : Nat}

/-- What is left open at the end of the text of an expression. -/
def Reading.ofText (f : List Char) : Reading := (Reading.run f.length {} f).getD {}

/-- The text is an expression of its own. -/
structure Whole (f : List Char) : Prop where
  run : Reading.run f.length {} f = some (.ofText f)
  outer : (Reading.ofText f).outer = []
  height : (Reading.ofText f).body.height ≤ maxHeight

theorem Node.ofText?_eq_some_iff :
    Node.ofText? f = some n ↔ Whole f ∧ (Reading.ofText f).body.node = n := by
  unfold Node.ofText?
  constructor
  · intro h
    split at h
    · cases h
    · rename_i r hrun
      split at h
      · rename_i hr
        cases h
        simp only [Bool.and_eq_true, List.isEmpty_iff, decide_eq_true_eq] at hr
        have hof : Reading.ofText f = r := by simp [Reading.ofText, hrun]
        exact ⟨⟨hof ▸ hrun, hof ▸ hr.1, hof ▸ hr.2⟩, by rw [hof]⟩
      · cases h
  · rintro ⟨h, rfl⟩
    rw [h.run]
    simp [h.outer, h.height]

theorem compile_eq_ok {source : String} {r : Regex} (h : Regex.compile source = .ok r) :
    ∃ n, Node.ofText? source.toList = some n ∧ r = ⟨source, n.program, n.maxGroup 0⟩ := by
  unfold Regex.compile at h
  split at h
  · cases h
  · rename_i n hn
    split at h
    · cases h
    · cases h
      exact ⟨n, hn, rfl⟩

theorem Whole.amongFirst (h : Whole f) :
    (Reading.ofText f).body.node.AmongFirst (Reading.ofText f).groups :=
  (Reading.counted_of_run Reading.counted_empty h.run).body

/-- A closing parenthesis after the text is not taken into it. It is if the text ends in a comment. -/
def Sealed (f : List Char) : Prop := Node.ofText? (f ++ [')']) = none

instance : Decidable (Sealed f) := inferInstanceAs (Decidable (_ = none))

namespace Reading

/-- Nothing has been read since a group was opened, and no flag is set. -/
structure AtStart (c : Reading) : Prop where
  branches : c.branches = []
  items : c.items = []
  flags : c.flags = {}

theorem atStart_empty : AtStart {} := ⟨rfl, rfl, rfl⟩

theorem atStart_openCapture (h : b.flags = {}) : AtStart b.openCapture := ⟨rfl, rfl, h⟩

theorem AtStart.within (h : AtStart c) : ({} : Reading).within c = c := by
  obtain ⟨hb, hi, hf⟩ := h
  cases c
  simp only at hb hi hf
  subst hb hi hf
  simp [Reading.within]

theorem run_closing_none (h : c.outer = []) : run m c (')' :: t) = none := by
  have hskip : skip c.flags.verbose (')' :: t) = ')' :: t := skip_closing rfl
  cases m with
  | zero =>
    unfold run
    rw [hskip]
  | succ m =>
    rw [run, hskip]
    simp [step, closeGroup, h]

end Reading

/-- A text that is not sealed has a comment open at its end. -/
theorem Whole.run_within (h : Whole f) :
    ∃ k ≤ f.length, ∃ d, (d = true → (Reading.ofText f).flags.verbose = true) ∧
      (Sealed f ↔ d = false) ∧
      ∀ c t, Reading.AtStart c → Reading.Closes d t → ∀ m,
        Reading.run (k + m) c (f ++ t) =
            Reading.run m ((Reading.ofText f).within c) (Reading.pastComment d t) ∨
          Reading.run (k + m) c (f ++ t) = none ∧ c.names ≠ [] := by
  obtain ⟨k, hk, d, hverbose, hrun⟩ := Reading.run_within h.run
  refine ⟨k, hk, d, hverbose, ?_, fun c t hc ht m => by simpa [hc.within] using hrun c t ht m⟩
  have hsome : Reading.run (f ++ [')']).length {} (f ++ [')']) =
      Reading.run (f.length + 1 - k) ((Reading.ofText f).within {}) (Reading.pastComment d [')']) := by
    have hcloses : Reading.Closes d [')'] := by
      cases d <;> exact ⟨rfl, by decide⟩
    have hfuel : (f ++ [')']).length = k + (f.length + 1 - k) := by simp; omega
    rw [hfuel]
    simpa [Reading.atStart_empty.within] using hrun {} [')'] hcloses (f.length + 1 - k)
  have houter : ((Reading.ofText f).within {}).outer = [] := by simp [Reading.within, h.outer]
  rw [Sealed, Node.ofText?, hsome]
  cases d with
  | false =>
    have : Reading.run (f.length + 1 - k) ((Reading.ofText f).within {}) [')'] = none :=
      Reading.run_closing_none houter
    simp [Reading.pastComment, this]
  | true =>
    have : Reading.run (f.length + 1 - k) ((Reading.ofText f).within {}) [] =
        some ((Reading.ofText f).within {}) :=
      Reading.run_of_skip_nil skip_nil
    have hheight : ((Reading.ofText f).within {}).body.height ≤ maxHeight := by
      rw [Reading.body_within]
      exact h.height
    simp [Reading.pastComment, skipVerbose, this, houter, hheight]

/-- Outside of verbose mode there are no comments. -/
theorem Whole.sealed (h : Whole f) (hverbose : (Reading.ofText f).flags.verbose = false) :
    Sealed f := by
  obtain ⟨k, hk, d, hd, hsealed, -⟩ := h.run_within
  apply hsealed.2
  cases d with
  | false => rfl
  | true => exact absurd (hd rfl) (by simp [hverbose])

namespace Reading

/-- The reading after an expression in capturing parentheses. -/
def enclose (b r : Reading) : Reading where
  outer := b.outer
  branches := b.branches
  items := { node := .group (b.groups + 1) (r.body.node.shift (b.groups + 1)),
             height := r.body.height + 1 } :: b.items
  flags := b.flags
  groups := r.groups + (b.groups + 1)
  names := r.names ++ b.names

theorem closeGroup_within_openCapture (h : r.outer = []) :
    (r.within b.openCapture).closeGroup = some (b.enclose r) := by
  have houter : (r.within b.openCapture).outer =
      ⟨some (b.groups + 1), b.branches, b.items, b.flags⟩ :: b.outer := by
    simp [within, h, openCapture, openGroup]
  unfold closeGroup
  rw [houter]
  dsimp only
  rw [body_within]
  rfl

theorem run_close (h : r.outer = []) :
    run (m + 1) (r.within b.openCapture) (')' :: t) = run m (b.enclose r) t := by
  apply run_of_skip_cons (skip_closing rfl)
  show (closeGroup _).map _ = _
  rw [closeGroup_within_openCapture h]
  rfl

theorem run_open (hb : b.flags = {}) (ht : t.head? ≠ some '?') :
    run (m + 1) b ('(' :: t) = run m b.openCapture t := by
  apply run_of_skip_cons (by rw [hb]; rfl)
  show readGroup _ _ = _
  have hskip : skip b.flags.verbose t = t := by rw [hb]; rfl
  rw [readGroup_capture (by rwa [hskip]), hskip]

end Reading

/-- An expression does not begin with a repetition mark. -/
theorem Whole.head_ne (h : Whole f) : f.head? ≠ some '?' := by
  intro hhead
  obtain ⟨f, rfl⟩ := List.head?_eq_some_iff.1 hhead
  have hrun := h.run
  cases f with
  | nil => cases hrun
  | cons a f =>
    have hskip : skip ({} : Reading).flags.verbose ('?' :: a :: f) = '?' :: a :: f := rfl
    rw [Reading.run, hskip] at hrun
    have hstep : ({} : Reading).step '?' (a :: f) = none := by
      show Reading.readMark _ _ _ _ = none
      unfold Reading.readMark
      split <;> rfl
    simp [hstep] at hrun

theorem Whole.head_append_ne (h : Whole f) : (f ++ ')' :: t).head? ≠ some '?' := by
  cases f with
  | nil => simp
  | cons a f => exact h.head_ne

/-- A sealed expression in capturing parentheses is read to its end, and the group is closed. -/
theorem Whole.run_enclosed (h : Whole f) (hs : Sealed f) :
    ∃ k ≤ f.length, ∀ b t, b.flags = {} → ∀ m,
      Reading.run (k + 2 + m) b ('(' :: (f ++ ')' :: t)) = Reading.run m (b.enclose (.ofText f)) t ∨
        Reading.run (k + 2 + m) b ('(' :: (f ++ ')' :: t)) = none ∧ b.names ≠ [] := by
  obtain ⟨k, hk, d, -, hsealed, hrun⟩ := h.run_within
  cases hsealed.1 hs
  refine ⟨k, hk, fun b t hb m => ?_⟩
  have hfuel : k + 2 + m = k + (m + 1) + 1 := by omega
  rw [hfuel, Reading.run_open hb h.head_append_ne]
  have hcloses : Reading.Closes false (')' :: t) := ⟨rfl, by simp [Reading.pastComment]⟩
  rcases hrun b.openCapture _ (Reading.atStart_openCapture hb) hcloses (m + 1) with hsome | hnone
  · exact .inl (hsome.trans (Reading.run_close h.outer))
  · exact .inr hnone

namespace Reading

/-- The reading after a character that stands for itself. -/
def pushLiteral (b : Reading) (a : Char) : Reading := b.push { node := .literal [a] }

theorem ofSet_char {u : Bool} {a : Char} : Node.ofSet u (.char a) = .literal [a] := by
  simp [Node.ofSet, Unicode.CharSet.char, Unicode.CharSet.range, Unicode.CharSet.isEmpty,
    Unicode.CharSet.single?]

theorem pushChar_eq {a : Char} (hb : b.flags = {}) : b.pushChar a false = some (b.pushLiteral a) := by
  simp [pushChar, pushSet, pushLiteral, hb, Flags.fold, ofSet_char]

theorem read_meta {a : Char} {f : Flags} (ha : isMeta a = true) :
    Escape.read f (a :: t) = some (.char a false, t) := by
  simp only [isMeta, metaCharacters, List.contains_eq_mem, decide_eq_true_eq, List.mem_cons,
    List.not_mem_nil, or_false] at ha
  rcases ha with rfl | rfl | rfl | rfl | rfl | rfl | rfl | rfl | rfl | rfl | rfl | rfl | rfl |
    rfl | rfl | rfl | rfl | rfl
  all_goals rfl

theorem run_escape {a : Char} (hb : b.flags = {}) :
    run (m + 1) b (escape [a] ++ t) = run m (b.pushLiteral a) t := by
  by_cases ha : isMeta a = true
  · have hskip : skip b.flags.verbose (escape [a] ++ t) = '\\' :: a :: t := by
      rw [hb]
      simp [escape, ha, skip]
    apply run_of_skip_cons hskip
    rw [step, read_meta ha]
    show (b.pushChar a false).map _ = _
    rw [pushChar_eq hb]
    rfl
  · have hskip : skip b.flags.verbose (escape [a] ++ t) = a :: t := by
      rw [hb]
      simp [escape, ha, skip]
    have hplain : a ∉ constructChars := by
      intro hmem
      have hmeta : ∀ d ∈ constructChars, isMeta d = true := forall_mem_of_all (by decide)
      exact ha (hmeta a hmem)
    apply run_of_skip_cons hskip
    rw [step_char hplain, pushChar_eq hb]
    rfl

end Reading

end StepPhrase.Regex
