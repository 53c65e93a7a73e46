import Mathlib.Data.List.Chain
import StepPhrase.Proofs.Pattern.Scan

/-! Tokens written out as a pattern. The scan finds them again, at the bytes where they are written,
just if they are such as a scan can find. -/
namespace StepPhrase.Token

variable {position : Nat} {c : Char} {s rest : List Char} {t u : Token} {tokens : List Token}

/-- Literals are not empty, and names and hints can stand in a placeholder. -/
def WellFormed : Token → Prop
  | literal s => s ≠ []
  | placeholder p =>
    Placeholder.IsName p.name.toList ∧ ∀ hint ∈ p.hint, Placeholder.IsHint hint.toList
  | openBrace _ => True
  | closeBrace _ => True

/-- The two tokens stay two when one is written after the other: literals would join, and braces
would double. -/
def Apart : Token → Token → Prop
  | literal _, literal _ => False
  | openBrace _, openBrace _ => False
  | openBrace _, placeholder _ => False
  | closeBrace _, closeBrace _ => False
  | _, _ => True

/-- The tokens are such as a scan can find. -/
structure Normal (tokens : List Token) : Prop where
  wellFormed : ∀ t ∈ tokens, t.WellFormed
  apart : tokens.IsChain Apart

/-- How a token is written: each literal character with a backslash before it, a placeholder in
braces, and a stray brace as it is. -/
def written : Token → List Char
  | literal s => s.flatMap fun c => ['\\', c]
  | placeholder p =>
    '{' :: (p.name.toList ++ p.hint.elim [] (fun hint => ':' :: hint.toList) ++ ['}'])
  | openBrace _ => ['{']
  | closeBrace _ => ['}']

/-- The token, moved to the byte. -/
def moved (position : Nat) : Token → Token
  | literal s => literal s
  | placeholder p => placeholder { p with start := position }
  | openBrace _ => openBrace position
  | closeBrace _ => closeBrace position

/-- The tokens at the bytes where they are written, the first at `position`. -/
def placed (position : Nat) : List Token → List Token
  | [] => []
  | t :: tokens => t.moved position :: placed (position + byteLength t.written) tokens

/-- The character that a token begins with where it is written. -/
def opening : Token → Char
  | literal _ => '\\'
  | placeholder _ => '{'
  | openBrace _ => '{'
  | closeBrace _ => '}'

theorem apart_literal_iff : Apart (literal s) u ↔ ∀ text, u ≠ literal text := by
  cases u <;> simp [Apart]

theorem apart_openBrace_iff : Apart (openBrace position) u ↔ u.opening ≠ '{' := by
  cases u <;> simp [Apart, opening]

theorem apart_closeBrace_iff : Apart (closeBrace position) u ↔ u.opening ≠ '}' := by
  cases u <;> simp [Apart, opening]

theorem isNameStart_opening : Text.isNameStart t.opening = false := by
  cases t <;> rfl

theorem head?_written (h : t.WellFormed) : (t.written ++ rest).head? = some t.opening := by
  cases t with
  | literal s =>
    obtain ⟨c, s, rfl⟩ := List.exists_cons_of_ne_nil h
    rfl
  | placeholder p => rfl
  | openBrace position => rfl
  | closeBrace position => rfl

theorem normal_cons_iff : Normal (t :: tokens) ↔
    t.WellFormed ∧ (∀ u ∈ tokens.head?, Apart t u) ∧ Normal tokens := by
  constructor
  · rintro ⟨hwell, hapart⟩
    obtain ⟨ht, hwell⟩ := List.forall_mem_cons.1 hwell
    obtain ⟨hnext, hapart⟩ := List.isChain_cons.1 hapart
    exact ⟨ht, hnext, hwell, hapart⟩
  · rintro ⟨ht, hnext, hwell, hapart⟩
    exact ⟨List.forall_mem_cons.2 ⟨ht, hwell⟩, List.isChain_cons.2 ⟨hnext, hapart⟩⟩

theorem normal_nil : Normal [] := ⟨by simp, .nil⟩

theorem Normal.head?_written (h : Normal tokens) :
    (tokens.flatMap written).head? = tokens.head?.map opening := by
  cases tokens with
  | nil => rfl
  | cons t tokens => exact Token.head?_written (normal_cons_iff.1 h).1

theorem wellFormed_moved : (t.moved position).WellFormed ↔ t.WellFormed := by
  cases t <;> rfl

theorem apart_moved {position' : Nat} :
    Apart (t.moved position) (u.moved position') ↔ Apart t u := by
  cases t <;> cases u <;> rfl

/-- Where the tokens stand is no part of their form. -/
theorem normal_placed : Normal (placed position tokens) ↔ Normal tokens := by
  induction tokens generalizing position with
  | nil => rfl
  | cons t tokens ih =>
    rw [placed, normal_cons_iff, normal_cons_iff, ih, wellFormed_moved]
    cases tokens with
    | nil => simp [placed]
    | cons u tokens => simp [placed, apart_moved]

/-! What is written is scanned as it was -/

theorem scan_literal : scan position ((literal s).written ++ rest) =
    (scan (position + byteLength (literal s).written) rest).map (join (literal s)) := by
  induction s generalizing position with
  | nil =>
    change scan position rest = (scan position rest).map id
    cases scan position rest <;> rfl
  | cons c s ih =>
    have hescaped : Next position ['\\', c] (literal [c]) ((literal s).written ++ rest) := .escaped
    have hwritten : (literal (c :: s)).written = ['\\', c] ++ (literal s).written := rfl
    rw [hwritten, List.append_assoc, scan_of_next hescaped, ih, map_map, byteLength_append,
      Nat.add_assoc]
    rfl

theorem content_of_wellFormed {p : Placeholder} (h : (placeholder p).WellFormed) :
    Placeholder.Content (p.name.toList ++ p.hint.elim [] (fun hint => ':' :: hint.toList))
      p.name.toList (p.hint.map String.toList) := by
  obtain ⟨name, hint, start⟩ := p
  obtain ⟨hname, hhint⟩ := h
  cases hint with
  | none =>
    have hrest : Placeholder.Unhinted ([] ++ ['}']) := by
      refine ⟨by simp [Text.isNameChar], ?_⟩
      rintro ⟨blanks, c, rest, he, hblanks, -⟩
      rcases List.cons_eq_append_iff.1 he with ⟨rfl, -⟩ | ⟨blanks, rfl, he⟩
      · exact hblanks rfl
      · simp at he
    exact .plain hname hrest .nil
  | some hint => exact .hinted hname (hhint hint rfl)

/-- The scan takes a token that is written, whatever tokens come after it. -/
theorem scan_written (h : Normal (t :: tokens)) :
    scan position (t.written ++ tokens.flatMap written) =
      (scan (position + byteLength t.written) (tokens.flatMap written)).map
        (join (t.moved position)) := by
  obtain ⟨hwell, hapart, htokens⟩ := normal_cons_iff.1 h
  -- a stray brace is told from a doubled one and a placeholder by the character after it
  have hnext : ∀ c ∈ (tokens.flatMap written).head?, ∃ u, Apart t u ∧ u.opening = c := by
    intro c hc
    rw [htokens.head?_written] at hc
    obtain ⟨u, hu, hopening⟩ := Option.map_eq_some_iff.1 hc
    exact ⟨u, hapart u hu, hopening⟩
  cases t with
  | literal s => exact scan_literal
  | placeholder p =>
    have hplaceholder : Next position (placeholder p).written
        (placeholder ⟨String.ofList p.name.toList,
          (p.hint.map String.toList).map String.ofList, position⟩) (tokens.flatMap written) :=
      .placeholder (content_of_wellFormed hwell)
    have hid : String.ofList ∘ String.toList = id := funext fun _ => String.ofList_toList
    rw [Option.map_map, String.ofList_toList, hid, Option.map_id] at hplaceholder
    exact scan_of_next hplaceholder
  | openBrace _ =>
    refine scan_of_next (.openBrace fun c hc => ?_)
    obtain ⟨u, hu, rfl⟩ := hnext c hc
    exact ⟨apart_openBrace_iff.1 hu, isNameStart_opening⟩
  | closeBrace _ =>
    refine scan_of_next (.closeBrace fun c hc => ?_)
    obtain ⟨u, hu, rfl⟩ := hnext c hc
    exact apart_closeBrace_iff.1 hu

theorem foldr_prepend (hs : s ≠ []) (h : ∀ u ∈ tokens.head?, ∀ text, u ≠ literal text) :
    s.foldr prepend tokens = literal s :: tokens := by
  induction s with
  | nil => exact absurd rfl hs
  | cons c s ih =>
    rw [List.foldr_cons]
    cases s with
    | nil =>
      cases tokens with
      | nil => rfl
      | cons u tokens =>
        cases u with
        | literal text => exact absurd rfl (h _ rfl text)
        | placeholder p => rfl
        | openBrace position => rfl
        | closeBrace position => rfl
    | cons d s => rw [ih (by simp), prepend]

theorem join_of_apart (hwell : t.WellFormed) (h : ∀ u ∈ tokens.head?, Apart t u) :
    join t tokens = t :: tokens := by
  cases t with
  | literal s => exact foldr_prepend hwell fun u hu => apart_literal_iff.1 (h u hu)
  | placeholder p => rfl
  | openBrace position => rfl
  | closeBrace position => rfl

theorem Normal.scan (h : Normal tokens) :
    scan position (tokens.flatMap written) = .ok (placed position tokens) := by
  induction tokens generalizing position with
  | nil => exact scan_nil
  | cons t tokens ih =>
    have hplaced : Normal (placed position (t :: tokens)) := normal_placed.2 h
    obtain ⟨hwell, hapart, -⟩ := normal_cons_iff.1 hplaced
    rw [List.flatMap_cons, scan_written h, ih (normal_cons_iff.1 h).2.2]
    exact congrArg Except.ok (join_of_apart hwell hapart)

/-! What a scan finds -/

theorem normal_prepend (h : Normal tokens) : Normal (prepend c tokens) := by
  have hfront : (∀ u ∈ tokens.head?, ∀ text, u ≠ literal text) →
      Normal (literal [c] :: tokens) := fun hne =>
    normal_cons_iff.2 ⟨by simp [WellFormed], fun u hu => apart_literal_iff.2 (hne u hu), h⟩
  cases tokens with
  | nil => exact hfront (by simp)
  | cons t tokens =>
    cases t with
    | literal s =>
      obtain ⟨-, hapart, htokens⟩ := normal_cons_iff.1 h
      refine normal_cons_iff.2 ⟨by simp [WellFormed], fun u hu => ?_, htokens⟩
      exact apart_literal_iff.2 (apart_literal_iff.1 (hapart u hu))
    | placeholder p => exact hfront (by simp)
    | openBrace position => exact hfront (by simp)
    | closeBrace position => exact hfront (by simp)

/-- A token that is found first shows in the first character, unless it is a literal. -/
def Shows (s : List Char) (tokens : List Token) : Prop :=
  ∀ t ∈ tokens.head?, (∃ text, t = literal text) ∨ s.head? = some t.opening

theorem shows_prepend : Shows s (prepend c tokens) := by
  intro t ht
  cases tokens with
  | nil =>
    cases ht
    exact .inl ⟨_, rfl⟩
  | cons u tokens =>
    cases u <;> (cases ht; exact .inl ⟨_, rfl⟩)

theorem shows_cons (h : s.head? = some t.opening) : Shows s (t :: tokens) := by
  intro u hu
  cases hu
  exact .inr h

theorem Shows.forall_head? {P : Token → Prop} (h : Shows s tokens)
    (hliteral : ∀ text, P (literal text)) (hopening : ∀ t, t.opening ∈ s.head? → P t) :
    ∀ t ∈ tokens.head?, P t := by
  intro t ht
  rcases h t ht with ⟨text, rfl⟩ | ht
  · exact hliteral text
  · exact hopening t ht

/-- What the scan finds next goes with what it finds after that. -/
theorem Next.normal_join (h : Next position s t rest) (hnormal : Normal tokens)
    (hshows : Shows rest tokens) : Normal (join t tokens) ∧ Shows (s ++ rest) (join t tokens) := by
  cases h with
  | escaped => exact ⟨normal_prepend hnormal, shows_prepend⟩
  | lastBackslash => exact ⟨normal_prepend hnormal, shows_prepend⟩
  | doubled => exact ⟨normal_prepend hnormal, shows_prepend⟩
  | plain => exact ⟨normal_prepend hnormal, shows_prepend⟩
  | @placeholder content name _ hint hcontent =>
    refine ⟨normal_cons_iff.2 ⟨?_, by simp [Apart], hnormal⟩, shows_cons rfl⟩
    cases hcontent with
    | hinted hname hhint => simpa [WellFormed] using ⟨hname, hhint⟩
    | plain hname => simpa [WellFormed] using hname
  | openBrace hrest =>
    refine ⟨normal_cons_iff.2 ⟨trivial, ?_, hnormal⟩, shows_cons rfl⟩
    exact hshows.forall_head? (fun _ => trivial) fun u hu => apart_openBrace_iff.2 (hrest _ hu).1
  | closeBrace hrest =>
    refine ⟨normal_cons_iff.2 ⟨trivial, ?_, hnormal⟩, shows_cons rfl⟩
    exact hshows.forall_head? (fun _ => trivial) fun u hu => apart_closeBrace_iff.2 (hrest _ hu)

theorem normal_of_scan (h : scan position s = .ok tokens) : Normal tokens ∧ Shows s tokens := by
  induction position, s using scan_induction generalizing tokens with
  | nil position =>
    rw [scan_nil] at h
    cases h
    exact ⟨normal_nil, by simp [Shows]⟩
  | next hnext ih =>
    rw [scan_of_next hnext] at h
    obtain ⟨others, hothers, rfl⟩ := map_eq_ok_iff.1 h
    obtain ⟨hnormal, hshows⟩ := ih hothers
    exact hnext.normal_join hnormal hshows
  | malformed hbad =>
    rw [scan_of_malformed hbad] at h
    cases h

/-- The scan of tokens that are written out finds just these, each at the byte where it is written,
if they are such as a scan can find, and only then. -/
theorem ofPattern_written_iff : ofPattern (String.ofList (tokens.flatMap written)) =
    .ok (placed 0 tokens) ↔ Normal tokens := by
  rw [ofPattern, String.toList_ofList]
  constructor
  · intro h
    exact normal_placed.1 (normal_of_scan h).1
  · intro h
    exact h.scan

/-- The `é` takes two bytes, and the backslash before it one. -/
example : placed 0 [literal ['é'], placeholder ⟨"n", some "u8", 0⟩, openBrace 0] =
    [literal ['é'], placeholder ⟨"n", some "u8", 3⟩, openBrace 9] := by decide

end StepPhrase.Token
