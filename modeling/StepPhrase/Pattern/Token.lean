import StepPhrase.Pattern.Fault

/-! Step patterns as tokens: literal text, placeholders and stray braces. -/
namespace StepPhrase

open Text

/-- A placeholder `name` or `name:hint` in braces; `start` is the byte of its opening brace. -/
structure Placeholder where
  name : String
  hint : Option String
  start : Nat
  deriving DecidableEq, Repr

inductive Token where
  | literal (text : List Char)
  | placeholder (p : Placeholder)
  /-- A stray brace with its byte. -/
  | openBrace (position : Nat)
  | closeBrace (position : Nat)
  deriving DecidableEq, Repr

/-- The length of a text in UTF-8. -/
def byteLength : List Char → Nat
  | [] => 0
  | c :: rest => c.utf8Size + byteLength rest

/-- The text before the brace that closes the current nesting level, and the text after it. -/
def splitClosing (depth : Nat) : List Char → Option (List Char × List Char)
  | [] => none
  | c :: rest =>
    let keep (r : Option (List Char × List Char)) := r.map fun (inside, after) => (c :: inside, after)
    if c = '{' then keep (splitClosing (depth + 1) rest)
    else if c = '}' then
      match depth with
      | 0 => some ([], rest)
      | depth + 1 => keep (splitClosing depth rest)
    else keep (splitClosing depth rest)

theorem eq_append_of_splitClosing {depth : Nat} {s inside after : List Char}
    (h : splitClosing depth s = some (inside, after)) : s = inside ++ '}' :: after := by
  induction s generalizing depth inside with
  | nil => simp [splitClosing] at h
  | cons c rest ih =>
    unfold splitClosing at h
    split at h
    · obtain ⟨⟨i, a⟩, hr, he⟩ := Option.map_eq_some_iff.1 h
      cases he
      simp [ih hr]
    · split at h
      · subst c
        split at h
        · cases h; rfl
        · obtain ⟨⟨i, a⟩, hr, he⟩ := Option.map_eq_some_iff.1 h
          cases he
          simp [ih hr]
      · obtain ⟨⟨i, a⟩, hr, he⟩ := Option.map_eq_some_iff.1 h
        cases he
        simp [ih hr]

namespace Placeholder

/-- A hint is not empty and has neither blanks nor opening braces. -/
def isHint (s : List Char) : Bool := !s.isEmpty && s.all fun c => !isAsciiBlank c && c != '{'

/-- A placeholder that was read, the byte after its closing brace, and the text from there on. -/
structure Found where
  placeholder : Placeholder
  stop : Nat
  after : List Char

/-- Reads the rest of the placeholder whose opening brace is at byte `start`. Without a hint, what
stands between the name and the closing brace is ignored. -/
def read (start : Nat) (body : List Char) : Except PlaceholderError Found :=
  let name := body.takeWhile isNameChar
  let rest := body.dropWhile isNameChar
  let blanks := rest.takeWhile isAsciiBlank
  let trimmed := rest.dropWhile isAsciiBlank
  let fail (fault : BraceFault) : Except PlaceholderError Found :=
    .error ⟨fault, start, some (String.ofList name)⟩
  let offset := start + 1 + byteLength name + byteLength blanks
  match trimmed with
  | ':' :: tail =>
    let hint := tail.takeWhile (· != '}')
    if !blanks.isEmpty then fail .invalidPlaceholder
    else match tail.dropWhile (· != '}') with
      | [] => fail (if tail.contains '{' then .invalidPlaceholder else .unclosedPlaceholder)
      | _ :: after =>
        if isHint hint then
          .ok ⟨⟨String.ofList name, some (String.ofList hint), start⟩,
            offset + 1 + byteLength hint + 1, after⟩
        else fail .invalidPlaceholder
  | trimmed =>
    if !blanks.isEmpty && trimmed.head? == some '}' then fail .invalidPlaceholder
    else match splitClosing 0 trimmed with
      | none => fail .unclosedPlaceholder
      | some (inside, after) =>
        .ok ⟨⟨String.ofList name, none, start⟩, offset + byteLength inside + 1, after⟩

theorem length_dropWhile_le {α : Type} (p : α → Bool) (s : List α) :
    (s.dropWhile p).length ≤ s.length :=
  (List.dropWhile_suffix p).sublist.length_le

theorem length_after_lt {start : Nat} {body : List Char} {f : Found}
    (h : read start body = .ok f) : f.after.length < body.length := by
  have hrest := length_dropWhile_le isNameChar body
  have htrim := length_dropWhile_le isAsciiBlank (body.dropWhile isNameChar)
  unfold read at h
  simp only at h
  split at h
  · rename_i tail heq
    have htail := length_dropWhile_le (· != '}') tail
    rw [heq] at htrim
    split at h
    · simp at h
    · split at h
      · simp at h
      · rename_i after heq'
        rw [heq'] at htail
        split at h
        · cases h
          simp only [List.length_cons] at htrim htail ⊢
          omega
        · simp at h
  · split at h
    · simp at h
    · split at h
      · simp at h
      · rename_i inside after heq
        cases h
        have := congrArg List.length (eq_append_of_splitClosing heq)
        simp only [List.length_append, List.length_cons] at this ⊢
        omega

end Placeholder

namespace Token

/-- Puts a literal character in front, into the literal that stands there if there is one. -/
def prepend (c : Char) : List Token → List Token
  | literal s :: rest => literal (c :: s) :: rest
  | tokens => literal [c] :: tokens

/-- The tokens of a text that begins at byte `pos`. A backslash makes the next character literal, a
doubled brace is a literal one, and a brace before a letter or underscore opens a placeholder. -/
def scan (pos : Nat) : List Char → Except PlaceholderError (List Token)
  | [] => .ok []
  | c :: rest =>
    if c = '\\' then
      match rest with
      | [] => .ok [literal [c]]
      | d :: rest => (scan (pos + 1 + d.utf8Size) rest).map (prepend d)
    else if c = '{' then
      match rest with
      | [] => .ok [openBrace pos]
      | d :: rest =>
        if d = '{' then (scan (pos + 2) rest).map (prepend c)
        else if isNameStart d then
          match _h : Placeholder.read pos (d :: rest) with
          | .error e => .error e
          | .ok f => (scan f.stop f.after).map (placeholder f.placeholder :: ·)
        else (scan (pos + 1) (d :: rest)).map (openBrace pos :: ·)
    else if c = '}' then
      match rest with
      | [] => .ok [closeBrace pos]
      | d :: rest =>
        if d = '}' then (scan (pos + 2) rest).map (prepend c)
        else (scan (pos + 1) (d :: rest)).map (closeBrace pos :: ·)
    else (scan (pos + c.utf8Size) rest).map (prepend c)
termination_by s => s.length
decreasing_by
  all_goals simp only [List.length_cons]
  all_goals first
    | omega
    | exact Nat.lt_succ_of_lt (Placeholder.length_after_lt _h)

/-- The tokens of a pattern. -/
def ofPattern (pattern : String) : Except PlaceholderError (List Token) :=
  scan 0 pattern.toList

end Token

end StepPhrase
