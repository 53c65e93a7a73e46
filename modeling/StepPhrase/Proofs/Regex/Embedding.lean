import Mathlib.Data.List.Basic
import StepPhrase.Proofs.Regex.Renumbering
import StepPhrase.Proofs.Regex.Stability.Bracket
import StepPhrase.Proofs.Regex.Stability.Count

/-! An expression read in parentheses of another is read as it is alone, with its groups counted
on. The exception is a comment that is open at its end. -/
namespace StepPhrase.Regex

variable {k m n : Nat} {d v : Bool} {a : Char} {s s' t rest : List Char}

namespace Part

def shift (k : Nat) (p : Part) : Part := { p with node := p.node.shift k }

variable {ps : List Part}

theorem heightAround_map : heightAround (ps.map (shift k)) = heightAround ps := by
  simp only [heightAround, List.foldl_map, List.length_map]
  rfl

theorem map_node : (ps.map (shift k)).map (·.node) = (ps.map (·.node)).map (Node.shift k) := by
  simp only [List.map_map]
  rfl

theorem concat_map : concat (ps.map (shift k)) = (concat ps).shift k := by
  rw [concat, heightAround_map, map_node, ← Node.shift_concatReversed]
  rfl

theorem choose_map : choose (ps.map (shift k)) = (choose ps).shift k := by
  rw [choose, heightAround_map, map_node, ← Node.shift_chooseReversed]
  rfl

end Part

def OpenGroup.shift (k : Nat) (g : OpenGroup) : OpenGroup :=
  ⟨g.index.map (· + k), g.branches.map (Part.shift k), g.items.map (Part.shift k), g.flags⟩

namespace Reading

variable {r r₁ c : Reading}

/-- The reading as it goes on inside of another one, between items. -/
def within (r c : Reading) : Reading where
  outer := r.outer.map (OpenGroup.shift c.groups) ++ c.outer
  branches := r.branches.map (Part.shift c.groups)
  items := r.items.map (Part.shift c.groups)
  flags := r.flags
  groups := r.groups + c.groups
  names := r.names ++ c.names

theorem push_within {p : Part} :
    (r.within c).push (p.shift c.groups) = (r.push p).within c := rfl

theorem body_within : (r.within c).body = r.body.shift c.groups := by
  simp only [body, within, Part.concat_map, ← List.map_cons, Part.choose_map]

theorem nextBranch_within : (r.within c).nextBranch = r.nextBranch.within c := by
  simp only [nextBranch, within, Part.concat_map, List.map_cons, List.map_nil]

theorem openCapture_within : (r.within c).openCapture = r.openCapture.within c := by
  simp only [openCapture, openGroup, within, OpenGroup.shift, List.map_cons, List.map_nil,
    List.cons_append, Option.map_some, Nat.add_right_comm]

theorem closeGroup_within (h : r.closeGroup = some r₁) :
    (r.within c).closeGroup = some (r₁.within c) := by
  unfold closeGroup at h
  split at h
  · cases h
  · rename_i g outer hr
    cases h
    have houter : (r.within c).outer =
        g.shift c.groups :: (outer.map (OpenGroup.shift c.groups) ++ c.outer) := by
      rw [within, hr]
      rfl
    unfold closeGroup
    rw [houter]
    dsimp only
    rw [body_within]
    cases hindex : g.index with
    | none => simp [OpenGroup.shift, hindex, within, Part.shift]
    | some i => simp [OpenGroup.shift, hindex, within, Part.shift, Node.shift]

theorem repeatLast_within {min : Nat} {max : Option Nat} {greedy : Bool}
    (h : r.repeatLast min max greedy = some r₁) :
    (r.within c).repeatLast min max greedy = some (r₁.within c) := by
  unfold repeatLast at h
  split at h
  · cases h
  · rename_i p items hr
    split at h
    · cases h
    · rename_i hp
      cases h
      have hitems : (r.within c).items = p.shift c.groups :: items.map (Part.shift c.groups) := by
        rw [within, hr]
        rfl
      unfold repeatLast
      rw [hitems]
      dsimp only
      rw [if_neg (show ¬(!(p.shift c.groups).repeatable) = true from hp)]
      simp only [within, Part.shift, List.map_cons, Node.shift_repeated]

theorem flags_repeatLast {min : Nat} {max : Option Nat} {greedy : Bool}
    (h : r.repeatLast min max greedy = some r₁) : r₁.flags = r.flags := by
  unfold repeatLast at h
  split at h
  · cases h
  · split at h
    · cases h
    · cases h
      rfl

theorem pushSet_within {set : Unicode.CharSet} {height : Nat} :
    (r.within c).pushSet set height = (r.pushSet set height).within c := by
  simp only [pushSet, ← push_within, Part.shift, Node.shift_ofSet]
  rfl

theorem pushChar_within {b : Bool} :
    (r.within c).pushChar a b = (r.pushChar a b).map (·.within c) := by
  unfold pushChar
  show (if r.flags.unicode || a.toNat < 0x80 then _ else _) = _
  split
  · exact congrArg some pushSet_within
  · split <;> rfl

theorem pushAtom_within {x : Atom} :
    (r.within c).pushAtom x = (r.pushAtom x).map (·.within c) := by
  cases x with
  | char a b => exact pushChar_within
  | look l => rfl
  | set set => exact congrArg some pushSet_within

theorem pushDot_within : (r.within c).pushDot = r.pushDot.map (·.within c) := by
  unfold pushDot
  show (if !r.flags.unicode then none else if r.flags.dotAll then _
    else if r.flags.crlf then _ else _) = _
  split
  · rfl
  · split
    · exact congrArg some pushSet_within
    · split <;> exact congrArg some pushSet_within

/-- What is left of a text after a comment that is open before it, if one is. -/
def pastComment (inComment : Bool) (t : List Char) : List Char :=
  if inComment then skipVerbose true t else t

/-- The text closes the group before it, or a question mark is not the first thing after the
comment that is open before it. -/
def Closes (inComment : Bool) (t : List Char) : Prop :=
  t.head? = some ')' ∧ (pastComment inComment t).head? ≠ some '?'

theorem Closes.of_comment (h : Closes d t) : Closes false t :=
  ⟨h.1, by simp [pastComment, h.1]⟩

theorem skip_closing (h : t.head? = some ')') : skip v t = t := by
  obtain ⟨t, rfl⟩ := List.head?_eq_some_iff.1 h
  cases v with
  | false => rfl
  | true =>
    have : Unicode.isBlank ')' = false := by decide +kernel
    simp [skip, skipVerbose, this]

/-- Only in verbose mode can a comment be open at the end of a text. -/
theorem skip_append_of_nil (h : skip v s = []) :
    ∃ d, (d = true → v = true) ∧
      ∀ t, t.head? = some ')' → skip v (s ++ t) = pastComment d t := by
  cases v with
  | false =>
    cases h
    exact ⟨false, by simp, fun t _ => rfl⟩
  | true =>
    obtain ⟨d, hd⟩ := skipVerbose_append_of_nil h
    refine ⟨d, fun _ => rfl, fun t ht => ?_⟩
    rw [skip, if_pos rfl, hd]
    cases d with
    | true => rfl
    | false => exact skip_closing (v := true) ht

/-- Inside of another reading the same is read, unless a name is taken there. -/
def Carries (c : Reading) (t : List Char) (alone : Reading × List Char)
    (inside : Option (Reading × List Char)) : Prop :=
  inside = some (alone.1.within c, alone.2 ++ t) ∨ inside = none ∧ c.names ≠ []

theorem openNamed_eq {name : List Char} {first : Char} {others : List Char}
    (hname : s.takeWhile (· != '>') = name) (hfirst : name = first :: others)
    (hrest : s.drop name.length = '>' :: rest) :
    r.openNamed s =
      if isGroupNameStart first && others.all isGroupNameChar && !r.names.contains name then
        some ({ r.openCapture with names := name :: r.names }, rest)
      else none := by
  unfold openNamed
  simp only [hname, hrest]
  subst hfirst
  rfl

theorem openNamed_within (h : r.openNamed s = some (r₁, s')) :
    Carries c t (r₁, s') ((r.within c).openNamed (s ++ t)) := by
  have hopen := h
  unfold openNamed at h
  dsimp only at h
  split at h
  · rename_i first others rest hname hrest
    obtain ⟨hname', hrest'⟩ := takeWhile_append_of_drop (t := t) hrest
    rw [hname] at hname' hrest hrest'
    rw [openNamed_eq hname rfl hrest] at hopen
    rw [openNamed_eq hname' rfl hrest']
    split at hopen
    · rename_i hok
      cases hopen
      simp only [Bool.and_eq_true, Bool.not_eq_true', List.contains_eq_mem, decide_eq_false_iff_not] at hok
      by_cases htaken : first :: others ∈ c.names
      · right
        rw [if_neg (by simp [within, htaken])]
        exact ⟨rfl, List.ne_nil_of_mem htaken⟩
      · left
        rw [if_pos (by simp [within, htaken, hok]), openCapture_within]
        rfl
    · cases hopen
  · cases h

theorem readMark_within {min : Nat} {max : Option Nat} (h : r.readMark min max s = some (r₁, s'))
    (ht : t.head? ≠ some '?') :
    (r.within c).readMark min max (s ++ t) = some (r₁.within c, s' ++ t) := by
  unfold readMark at h
  split at h
  · obtain ⟨r', hr, h⟩ := Option.map_eq_some_iff.1 h
    cases h
    rw [List.cons_append, readMark, repeatLast_within hr]
    rfl
  · rename_i hs
    obtain ⟨r', hr, h⟩ := Option.map_eq_some_iff.1 h
    cases h
    unfold readMark
    split
    · rename_i rest hst
      cases s with
      | nil =>
        rw [List.nil_append] at hst
        rw [hst] at ht
        exact absurd rfl ht
      | cons a s =>
        cases hst
        exact absurd rfl (hs _)
    · rw [repeatLast_within hr]
      rfl

theorem readGroup_capture (h : (skip r.flags.verbose s).head? ≠ some '?') :
    r.readGroup s = some (r.openCapture, skip r.flags.verbose s) := by
  unfold readGroup
  generalize skip r.flags.verbose s = x at h
  split
  case h_8 => rfl
  all_goals exact absurd rfl h

/-- Reads what follows a parenthesis and a question mark. -/
def readSpecial (r : Reading) : List Char → Option (Reading × List Char)
  | '=' :: _ | '!' :: _ => none
  | '<' :: '=' :: _ | '<' :: '!' :: _ => none
  | 'P' :: '<' :: rest | '<' :: rest => r.openNamed rest
  | rest =>
    match r.flags.read [] rest with
    | none => none
    | some (flags, any, mark, rest) =>
      if mark = ':' then some (r.openGroup none flags, rest)
      else if any then some ({ r with flags }.push { node := .empty, repeatable := false }, rest)
      else none

theorem readSpecial_name (hequal : ∀ tail, rest ≠ '=' :: tail) (hnot : ∀ tail, rest ≠ '!' :: tail) :
    r.readSpecial ('<' :: rest) = r.openNamed rest := by
  unfold readSpecial
  split
  case h_6 =>
    rename_i heq
    cases heq
    rfl
  case h_3 =>
    rename_i heq
    cases heq
    exact absurd rfl (hequal _)
  case h_4 =>
    rename_i heq
    cases heq
    exact absurd rfl (hnot _)
  case h_7 =>
    rename_i h
    exact absurd rfl (h _)
  all_goals
    rename_i heq
    cases heq

theorem readGroup_special (hs : skip r.flags.verbose s = '?' :: rest) :
    r.readGroup s = r.readSpecial rest := by
  unfold readGroup
  rw [hs]
  split
  case h_6 =>
    rename_i hequal hnot heq
    cases heq
    exact (readSpecial_name hequal hnot).symm
  case h_7 =>
    rename_i h₁ h₂ h₃ h₄ h₅ h₆ heq
    cases heq
    unfold readSpecial
    symm
    split
    case h_1 => exact absurd rfl (h₁ _)
    case h_2 => exact absurd rfl (h₂ _)
    case h_3 => exact absurd rfl (h₃ _)
    case h_4 => exact absurd rfl (h₄ _)
    case h_5 => exact absurd rfl (h₅ _)
    case h_6 => exact absurd rfl (h₆ _)
    case h_7 => rfl
  case h_8 =>
    rename_i h
    exact absurd rfl (h _)
  all_goals
    rename_i heq
    cases heq
    rfl

theorem readSpecial_flags (ha : a ∉ ['=', '!', '<', 'P']) : r.readSpecial (a :: rest) =
    match r.flags.read [] (a :: rest) with
    | none => none
    | some (flags, any, mark, rest) =>
      if mark = ':' then some (r.openGroup none flags, rest)
      else if any then some ({ r with flags }.push { node := .empty, repeatable := false }, rest)
      else none := by
  unfold readSpecial
  split
  case h_7 => rfl
  all_goals
    rename_i heq
    cases heq
    exact absurd (by decide) ha

theorem readSpecial_within (h : r.readSpecial s = some (r₁, s')) :
    Carries c t (r₁, s') ((r.within c).readSpecial (s ++ t)) := by
  cases s with
  | nil => cases h
  | cons a s =>
    by_cases ha : a ∈ ['=', '!', '<', 'P']
    · simp only [List.mem_cons, List.not_mem_nil, or_false] at ha
      rcases ha with rfl | rfl | rfl | rfl
      · cases h
      · cases h
      · cases s with
        | nil => cases h
        | cons b s =>
          by_cases hb : b = '=' ∨ b = '!'
          · rcases hb with rfl | rfl <;> cases h
          · simp only [not_or] at hb
            rw [readSpecial_name (by simp [hb]) (by simp [hb])] at h
            rw [List.cons_append, readSpecial_name (by simp [hb]) (by simp [hb])]
            exact openNamed_within h
      · cases s with
        | nil => cases h
        | cons b s =>
          by_cases hb : b = '<'
          · subst hb
            exact openNamed_within h
          · unfold readSpecial at h
            split at h
            case h_5 =>
              rename_i heq
              cases heq
              exact absurd rfl hb
            -- `P` is no flag
            case h_7 => cases h
            all_goals
              rename_i heq
              cases heq
    · rw [readSpecial_flags ha] at h
      rw [List.cons_append, readSpecial_flags ha]
      split at h
      · cases h
      · rename_i flags any mark rest hflags
        rw [← List.cons_append, show (r.within c).flags = r.flags from rfl, Flags.read_append hflags]
        left
        dsimp only
        split at h
        · rename_i hmark
          cases h
          rw [if_pos hmark]
          rfl
        · rename_i hmark
          rw [if_neg hmark]
          split at h
          · rename_i hany
            cases h
            rw [if_pos hany]
            rfl
          · cases h

theorem readGroup_within (h : r.readGroup s = some (r₁, s')) :
    ∃ d, (d = true → s' = [] ∧ r₁.flags.verbose = true) ∧ ∀ c t, Closes d t →
      Carries c (pastComment d t) (r₁, s') ((r.within c).readGroup (s ++ t)) := by
  by_cases hnil : skip r.flags.verbose s = []
  · obtain ⟨d, hd, hskip⟩ := skip_append_of_nil hnil
    rw [readGroup_capture (by simp [hnil]), hnil] at h
    cases h
    refine ⟨d, fun h => ⟨rfl, hd h⟩, fun c t ht => .inl ?_⟩
    have hskip' : skip (r.within c).flags.verbose (s ++ t) = pastComment d t := hskip t ht.1
    rw [readGroup_capture (by rw [hskip']; exact ht.2), hskip', openCapture_within]
    rfl
  · refine ⟨false, by simp, fun c t ht => ?_⟩
    obtain ⟨a, rest, hs⟩ := List.exists_cons_of_ne_nil hnil
    have hs' : skip (r.within c).flags.verbose (s ++ t) = a :: (rest ++ t) := skip_append_cons hs
    by_cases ha : a = '?'
    · subst ha
      rw [readGroup_special hs] at h
      rw [readGroup_special hs']
      exact readSpecial_within h
    · rw [readGroup_capture (by simpa [hs] using ha), hs] at h
      cases h
      rw [readGroup_capture (by simpa [hs'] using ha), hs', openCapture_within]
      exact .inl rfl

/-- Characters that do not stand for themselves where a construct begins. -/
def constructChars : List Char :=
  ['(', ')', '|', '[', '?', '*', '+', '{', '\\', '.', '^', '$']

theorem step_char (ha : a ∉ constructChars) : r.step a s = (r.pushChar a false).map (·, s) := by
  unfold step
  split
  case h_13 => rfl
  all_goals exact absurd (by decide) ha

/-- One construct, read alone and inside of another reading. Only after a comment at the end of
the text does the text that follows not go on where it begins. -/
theorem step_within (h : r.step a s = some (r₁, s')) :
    ∃ d, (d = true → s' = [] ∧ r₁.flags.verbose = true) ∧ ∀ c t, Closes d t →
      Carries c (pastComment d t) (r₁, s') ((r.within c).step a (s ++ t)) := by
  have closed (hc : ∀ c t, t.head? = some ')' → Carries c t (r₁, s') ((r.within c).step a (s ++ t))) :
      ∃ d, (d = true → s' = [] ∧ r₁.flags.verbose = true) ∧ ∀ c t, Closes d t →
        Carries c (pastComment d t) (r₁, s') ((r.within c).step a (s ++ t)) :=
    ⟨false, by simp, fun c t ht => hc c t ht.1⟩
  have mark {t : List Char} (ht : t.head? = some ')') : t.head? ≠ some '?' := by simp [ht]
  unfold step at h
  split at h
  · exact readGroup_within h
  · obtain ⟨r', hr, h⟩ := Option.map_eq_some_iff.1 h
    cases h
    exact closed fun c t _ => .inl (by rw [step, closeGroup_within hr, Option.map_some])
  · cases h
    exact closed fun c t _ => .inl (by rw [step, nextBranch_within])
  · split at h
    · rename_i set height rest hread
      cases h
      refine closed fun c t _ => .inl ?_
      rw [step, show (r.within c).flags = r.flags from rfl, Bracket.read_append hread]
      dsimp only
      rw [pushSet_within]
    · cases h
  · exact closed fun c t ht => .inl (readMark_within h (mark ht))
  · exact closed fun c t ht => .inl (readMark_within h (mark ht))
  · exact closed fun c t ht => .inl (readMark_within h (mark ht))
  · split at h
    · rename_i min max rest hbounds
      by_cases hnil : skip r.flags.verbose rest = []
      · obtain ⟨d, hd, hskip⟩ := skip_append_of_nil hnil
        rw [hnil] at h
        obtain ⟨r', hr, h'⟩ := Option.map_eq_some_iff.1 (h : (r.repeatLast _ _ _).map (·, []) = _)
        cases h'
        refine ⟨d, fun hv => ⟨rfl, by rw [flags_repeatLast hr]; exact hd hv⟩, fun c t ht => .inl ?_⟩
        rw [step, show (r.within c).flags = r.flags from rfl, readBounds_append hbounds]
        dsimp only
        rw [hskip t ht.1]
        exact readMark_within (s := []) h ht.2
      · refine closed fun c t ht => .inl ?_
        rw [step, show (r.within c).flags = r.flags from rfl, readBounds_append hbounds]
        dsimp only
        rw [skip_append hnil]
        exact readMark_within h (mark ht)
    · cases h
  · split at h
    · rename_i x rest hread
      obtain ⟨r', hr, h⟩ := Option.map_eq_some_iff.1 h
      cases h
      refine closed fun c t ht => .inl ?_
      rw [step, show (r.within c).flags = r.flags from rfl,
        Escape.read_append hread (fun _ => by simp [ht])]
      dsimp only
      rw [pushAtom_within, hr]
      rfl
    · cases h
  · obtain ⟨r', hr, h⟩ := Option.map_eq_some_iff.1 h
    cases h
    exact closed fun c t _ => .inl (by rw [step, pushDot_within, hr]; rfl)
  · cases h
    exact closed fun c t _ => .inl rfl
  · cases h
    exact closed fun c t _ => .inl rfl
  · obtain ⟨r', hr, h⟩ := Option.map_eq_some_iff.1 h
    cases h
    have ha : a ∉ constructChars := by
      simp only [constructChars, List.mem_cons, List.not_mem_nil, or_false, not_or]
      and_intros <;> assumption
    refine closed fun c t _ => .inl ?_
    rw [step_char ha, pushChar_within, hr]
    rfl

theorem run_of_skip_nil (h : skip r.flags.verbose s = []) : run n r s = some r := by
  unfold run
  rw [h]

theorem run_of_skip_cons (h : skip r.flags.verbose s = a :: rest)
    (hstep : r.step a rest = some (r₁, s')) :
    run (n + 1) r s = run n r₁ s' := by
  rw [run, h]
  dsimp only
  rw [hstep]

theorem run_skip (h : skip r.flags.verbose s = skip r.flags.verbose s') : run n r s = run n r s' := by
  unfold run
  rw [h]

theorem run_within_of_skip_nil (h : skip r.flags.verbose s = []) :
    ∃ d, (d = true → r.flags.verbose = true) ∧ ∀ c t, Closes d t → ∀ m,
      run m (r.within c) (s ++ t) = run m (r.within c) (pastComment d t) := by
  obtain ⟨d, hd, hskip⟩ := skip_append_of_nil h
  refine ⟨d, hd, fun c t ht m => run_skip ?_⟩
  show skip r.flags.verbose (s ++ t) = skip r.flags.verbose (pastComment d t)
  rw [← hskip t ht.1, skip_idem]

/-- Whole texts, read alone and inside of another reading; `k` counts the constructs. -/
theorem run_within (h : run n r s = some r₁) :
    ∃ k ≤ n, ∃ d, (d = true → r₁.flags.verbose = true) ∧ ∀ c t, Closes d t → ∀ m,
      run (k + m) (r.within c) (s ++ t) = run m (r₁.within c) (pastComment d t) ∨
        run (k + m) (r.within c) (s ++ t) = none ∧ c.names ≠ [] := by
  induction n generalizing r s with
  | zero =>
    unfold run at h
    split at h
    · rename_i hnil
      cases h
      obtain ⟨d, hd, hrun⟩ := run_within_of_skip_nil hnil
      exact ⟨0, Nat.le_refl _, d, hd, fun c t ht m => .inl (by rw [Nat.zero_add, hrun c t ht])⟩
    · cases h
  | succ n ih =>
    cases hs : skip r.flags.verbose s with
    | nil =>
      rw [run_of_skip_nil hs] at h
      cases h
      obtain ⟨d, hd, hrun⟩ := run_within_of_skip_nil hs
      exact ⟨0, Nat.zero_le _, d, hd, fun c t ht m => .inl (by rw [Nat.zero_add, hrun c t ht])⟩
    | cons a rest =>
      rw [run, hs] at h
      dsimp only at h
      split at h
      · rename_i r' s' hstep
        obtain ⟨d, hd, hcarries⟩ := step_within hstep
        have hskip {c t} : skip (r.within c).flags.verbose (s ++ t) = a :: (rest ++ t) :=
          skip_append_cons hs
        cases d with
        | true =>
          -- the comment is open at the end of the text, where reading alone stops
          obtain ⟨rfl, hverbose⟩ := hd rfl
          rw [run_of_skip_nil skip_nil] at h
          cases h
          refine ⟨1, by omega, true, fun _ => hverbose, fun c t ht m => ?_⟩
          rw [Nat.add_comm]
          rcases hcarries c t ht with hinside | ⟨hnone, hnames⟩
          · exact .inl (run_of_skip_cons hskip hinside)
          · right
            rw [run, hskip]
            dsimp only
            rw [hnone]
            exact ⟨rfl, hnames⟩
        | false =>
          obtain ⟨k, hk, d, hd, hrun⟩ := ih h
          refine ⟨k + 1, by omega, d, hd, fun c t ht m => ?_⟩
          rw [Nat.add_right_comm]
          rcases hcarries c t ht.of_comment with hinside | ⟨hnone, hnames⟩
          · rw [run_of_skip_cons hskip hinside]
            exact hrun c t ht m
          · right
            rw [run, hskip]
            dsimp only
            rw [hnone]
            exact ⟨rfl, hnames⟩
      · cases h

end Reading

end StepPhrase.Regex
