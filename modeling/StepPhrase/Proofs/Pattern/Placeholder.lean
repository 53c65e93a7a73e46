import StepPhrase.Pattern.Token
import StepPhrase.Proofs.Pattern.Balance
import StepPhrase.Proofs.Text.Ascii

/-! What stands between the braces of a placeholder, and what can be wrong there. -/
namespace StepPhrase

open Text

variable {d start : Nat} {s inside after name rest blanks body tail content : List Char}
  {hint : Option (List Char)} {fault : BraceFault}

theorem byteLength_append : byteLength (s ++ rest) = byteLength s + byteLength rest := by
  induction s with
  | nil => exact (Nat.zero_add _).symm
  | cons c s ih => rw [List.cons_append, byteLength, byteLength, ih, Nat.add_assoc]

theorem byteLength_braced : byteLength ('{' :: (content ++ ['}'])) = 1 + byteLength content + 1 := by
  rw [byteLength, byteLength_append, ← Nat.add_assoc]
  rfl

/-- The braces in the text match. -/
abbrev Nested : List Char → Prop := Balanced (· = '{') (· = '}')

/-- A character is kept in front of what is split off after it. -/
theorem map_cons_split_iff {c : Char} {d' : Nat}
    (ih : ∀ inside, splitClosing d' rest = some (inside, after) ↔
      rest = inside ++ '}' :: after ∧ Closing (· = '{') (· = '}') d' inside)
    (hcons : ∀ inside, Closing (· = '{') (· = '}') d (c :: inside) ↔
      Closing (· = '{') (· = '}') d' inside)
    (hnil : c = '}' → ¬Closing (· = '{') (· = '}') d []) :
    ((splitClosing d' rest).map fun (i, a) => (c :: i, a)) = some (inside, after) ↔
      c :: rest = inside ++ '}' :: after ∧ Closing (· = '{') (· = '}') d inside := by
  simp only [Option.map_eq_some_iff, Prod.mk.injEq, Prod.exists]
  constructor
  · rintro ⟨i, a, h, rfl, rfl⟩
    obtain ⟨rfl, hi⟩ := (ih i).1 h
    exact ⟨rfl, (hcons i).2 hi⟩
  · rintro ⟨he, h⟩
    rcases List.cons_eq_append_iff.1 he with ⟨rfl, he⟩ | ⟨i, rfl, rfl⟩
    · cases he
      exact absurd h (hnil rfl)
    · exact ⟨i, after, (ih i).2 ⟨rfl, (hcons i).1 h⟩, rfl, rfl⟩

theorem splitClosing_eq_some_iff : splitClosing d s = some (inside, after) ↔
    s = inside ++ '}' :: after ∧ Closing (· = '{') (· = '}') d inside := by
  induction s generalizing d inside with
  | nil => simp [splitClosing]
  | cons c rest ih =>
    unfold splitClosing
    by_cases ho : c = '{'
    · subst ho
      have hc : '{' ≠ '}' := by decide
      rw [if_pos rfl]
      exact map_cons_split_iff (fun i => ih) (fun i => closing_cons_open rfl hc) (absurd · hc)
    · rw [if_neg ho]
      by_cases hc : c = '}'
      · subst hc
        rw [if_pos rfl]
        cases d with
        | zero =>
          constructor
          · intro h
            cases h
            exact ⟨rfl, .nil⟩
          · rintro ⟨he, h⟩
            rcases List.cons_eq_append_iff.1 he with ⟨rfl, he⟩ | ⟨i, rfl, rfl⟩
            · cases he
              rfl
            · exact (Balanced.not_closes_head h rfl ho).elim
        | succ d =>
          exact map_cons_split_iff (fun i => ih) (fun i => closing_cons_close ho rfl) fun _ => by
            simp [closing_nil]
      · rw [if_neg hc]
        exact map_cons_split_iff (fun i => ih) (fun i => closing_cons_plain ho hc) (absurd · hc)

namespace Placeholder

/-- A letter or underscore, then letters, digits and underscores. -/
def IsName (s : List Char) : Prop :=
  (∃ c ∈ s.head?, isNameStart c = true) ∧ ∀ c ∈ s, isNameChar c = true

/-- One or more characters that are neither blanks nor braces. -/
def IsHint (s : List Char) : Prop :=
  s ≠ [] ∧ ∀ c ∈ s, isAsciiBlank c = false ∧ c ≠ '{' ∧ c ≠ '}'

/-- The text begins with blanks in front of a colon or closing brace. -/
def Parted (s : List Char) : Prop :=
  ∃ blanks c rest, s = blanks ++ c :: rest ∧ blanks ≠ [] ∧ (∀ b ∈ blanks, isAsciiBlank b = true) ∧
    (c = ':' ∨ c = '}')

/-- What may follow a name at once where no hint is given. -/
def Unhinted (s : List Char) : Prop :=
  (∀ c ∈ s.head?, isNameChar c = false ∧ c ≠ ':') ∧ ¬Parted s

/-- A placeholder without its braces: a name, and a hint after a colon or else any text in which
braces match. -/
inductive Content : List Char → List Char → Option (List Char) → Prop
  | hinted {name hint : List Char} : IsName name → IsHint hint →
    Content (name ++ ':' :: hint) name (some hint)
  | plain {name inside : List Char} : IsName name → Unhinted (inside ++ ['}']) → Nested inside →
    Content (name ++ inside) name none

/-- What is wrong with the text after an opening brace and the name that it begins with. -/
inductive Malformed : List Char → List Char → BraceFault → Prop
  | parted {name rest : List Char} : IsName name → Parted rest →
    Malformed (name ++ rest) name .invalidPlaceholder
  | badHint {name hint rest : List Char} : IsName name → '}' ∉ hint → ¬IsHint hint →
    Malformed (name ++ ':' :: (hint ++ '}' :: rest)) name .invalidPlaceholder
  | openHint {name tail : List Char} : IsName name → '}' ∉ tail →
    Malformed (name ++ ':' :: tail) name
      (if '{' ∈ tail then .invalidPlaceholder else .unclosedPlaceholder)
  | unclosed {name rest : List Char} : IsName name → Unhinted rest →
    (∀ inside after, rest = inside ++ '}' :: after → ¬Nested inside) →
    Malformed (name ++ rest) name .unclosedPlaceholder

/-! What the reader makes of them -/

theorem Parted.head (h : Parted s) : ∀ c ∈ s.head?, isNameChar c = false ∧ c ≠ ':' := by
  obtain ⟨blanks, c, rest, rfl, hne, hblanks, -⟩ := h
  obtain ⟨b, blanks, rfl⟩ := List.exists_cons_of_ne_nil hne
  intro d hd
  cases hd
  have hb := hblanks _ List.mem_cons_self
  simp only [isAsciiBlank, Bool.or_eq_true, decide_eq_true_eq] at hb
  rcases hb with (((rfl | rfl) | rfl) | rfl) | rfl <;> decide

/-- Whether a text is parted shows before its first brace. -/
theorem parted_append : Parted (inside ++ '}' :: after) ↔ Parted (inside ++ ['}']) := by
  have hone : ∀ x y, Parted (inside ++ '}' :: x) → Parted (inside ++ '}' :: y) := by
    rintro x y ⟨blanks, c, rest, he, hne, hblanks, hc⟩
    rcases List.append_eq_append_iff.1 he with ⟨more, rfl, hmore⟩ | ⟨more, rfl, hmore⟩
    · rcases List.cons_eq_append_iff.1 hmore with ⟨rfl, -⟩ | ⟨more, rfl, -⟩
      · exact ⟨inside, '}', y, rfl, by simpa using hne, by simpa using hblanks, .inr rfl⟩
      · exact absurd (hblanks '}' (by simp)) (by decide)
    · rcases List.cons_eq_append_iff.1 hmore with ⟨rfl, -⟩ | ⟨more, rfl, -⟩
      · exact ⟨blanks, '}', y, by simp, hne, hblanks, .inr rfl⟩
      · exact ⟨blanks, c, more ++ '}' :: y, by simp, hne, hblanks, hc⟩
  exact ⟨hone _ _, hone _ _⟩

theorem unhinted_append : Unhinted (inside ++ '}' :: after) ↔ Unhinted (inside ++ ['}']) := by
  rw [Unhinted, Unhinted, parted_append]
  cases inside <;> rfl

theorem isHint_iff (h : '}' ∉ s) : isHint s = true ↔ IsHint s := by
  simp only [isHint, Bool.and_eq_true, Bool.not_eq_true', List.isEmpty_eq_false_iff, List.all_eq_true,
    bne_iff_ne, IsHint]
  refine and_congr_right fun _ => forall₂_congr fun c hc => ?_
  have hne : c ≠ '}' := fun he => h (he ▸ hc)
  simp [hne]

/-- A hint is read up to the first closing brace. -/
theorem read_hint (hname : ∀ c ∈ name, isNameChar c = true) (hs : '}' ∉ s) :
    read start (name ++ ':' :: (s ++ '}' :: after)) =
      if isHint s then .ok ⟨⟨String.ofList name, some (String.ofList s), start⟩,
        start + 1 + byteLength (name ++ ':' :: s) + 1, after⟩
      else .error ⟨.invalidPlaceholder, start, some (String.ofList name)⟩ := by
  have hstop : ∀ c ∈ s, (c != '}') = true := fun c hc => by
    simpa using fun he : c = '}' => hs (he ▸ hc)
  have hcolon : ∀ c ∈ (':' :: (s ++ '}' :: after)).head?, isNameChar c = false := by
    simp [isNameChar]
  have hbrace : ∀ c ∈ ('}' :: after).head?, (c != '}') = false := by simp
  have hsize : byteLength (name ++ ':' :: s) = byteLength name + 1 + byteLength s := by
    rw [byteLength_append, byteLength, show (':' : Char).utf8Size = 1 by decide, Nat.add_assoc]
  have hblank : (':' :: (s ++ '}' :: after)).takeWhile isAsciiBlank = [] ∧
      (':' :: (s ++ '}' :: after)).dropWhile isAsciiBlank = ':' :: (s ++ '}' :: after) := by
    simp [isAsciiBlank]
  simp only [read, takeWhile_append_stop hname hcolon, dropWhile_append_stop hname hcolon,
    hblank.1, hblank.2, takeWhile_append_stop hstop hbrace, dropWhile_append_stop hstop hbrace, hsize,
    byteLength, List.isEmpty_nil, Bool.not_true, Bool.false_eq_true, if_false]
  split
  · simp only [Except.ok.injEq, Found.mk.injEq, true_and, and_true]
    omega
  · rfl

theorem read_openHint (hname : ∀ c ∈ name, isNameChar c = true) (hs : '}' ∉ s) :
    read start (name ++ ':' :: s) =
      .error ⟨if '{' ∈ s then .invalidPlaceholder else .unclosedPlaceholder, start,
        some (String.ofList name)⟩ := by
  have hstop : ∀ c ∈ s, (c != '}') = true := fun c hc => by
    simpa using fun he : c = '}' => hs (he ▸ hc)
  have hcolon : ∀ c ∈ (':' :: s).head?, isNameChar c = false := by
    simp [isNameChar]
  have hblank : (':' :: s).takeWhile isAsciiBlank = [] ∧
      (':' :: s).dropWhile isAsciiBlank = ':' :: s := by
    simp [isAsciiBlank]
  have hrest : s.dropWhile (· != '}') = [] := List.dropWhile_eq_nil_iff.2 hstop
  simp only [read, takeWhile_append_stop hname hcolon, dropWhile_append_stop hname hcolon,
    hblank.1, hblank.2, hrest, List.isEmpty_nil, Bool.not_true, Bool.false_eq_true, if_false,
    List.contains_iff_mem]

theorem read_parted (hname : ∀ c ∈ name, isNameChar c = true) (hs : Parted s) :
    read start (name ++ s) =
      .error ⟨.invalidPlaceholder, start, some (String.ofList name)⟩ := by
  have hhead : ∀ c ∈ s.head?, isNameChar c = false := fun c hc => (hs.head c hc).1
  obtain ⟨blanks, c, rest, rfl, hne, hblanks, hc⟩ := hs
  have hstop : ∀ b ∈ (c :: rest).head?, isAsciiBlank b = false := by
    rintro b hb
    cases hb
    rcases hc with rfl | rfl <;> decide
  have hempty : blanks.isEmpty = false := List.isEmpty_eq_false_iff.2 hne
  simp only [read, takeWhile_append_stop hname hhead, dropWhile_append_stop hname hhead,
    takeWhile_append_stop hblanks hstop, dropWhile_append_stop hblanks hstop, hempty, Bool.not_false,
    Bool.true_and]
  rcases hc with rfl | rfl <;> rfl

theorem splitClosing_append (hs : ∀ c ∈ s, c ≠ '{' ∧ c ≠ '}') :
    splitClosing d (s ++ rest) = (splitClosing d rest).map fun (i, a) => (s ++ i, a) := by
  induction s with
  | nil => simp
  | cons c s ih =>
    obtain ⟨ho, hc⟩ := hs c List.mem_cons_self
    rw [List.cons_append, splitClosing.eq_def]
    dsimp only
    rw [if_neg ho, if_neg hc, ih fun c hc => hs c (List.mem_cons_of_mem _ hc)]
    simp [Function.comp_def]

/-- Without a hint, what stands before the closing brace of the level is passed over. -/
theorem read_unhinted (hname : ∀ c ∈ name, isNameChar c = true) (hs : Unhinted s) :
    read start (name ++ s) =
      match splitClosing 0 s with
      | none => .error ⟨.unclosedPlaceholder, start, some (String.ofList name)⟩
      | some (inside, after) => .ok ⟨⟨String.ofList name, none, start⟩,
        start + 1 + byteLength (name ++ inside) + 1, after⟩ := by
  have hhead : ∀ c ∈ s.head?, isNameChar c = false := fun c hc => (hs.1 c hc).1
  obtain ⟨blanks, rest, rfl, hblanks, hstop⟩ := exists_span isAsciiBlank s
  have hplain : ∀ c ∈ blanks, c ≠ '{' ∧ c ≠ '}' := by
    intro c hc
    constructor <;> rintro rfl <;> exact absurd (hblanks _ hc) (by decide)
  simp only [read, takeWhile_append_stop hname hhead, dropWhile_append_stop hname hhead,
    takeWhile_append_stop hblanks hstop, dropWhile_append_stop hblanks hstop,
    splitClosing_append hplain]
  have hparted : blanks ≠ [] → ∀ c tail, rest = c :: tail → ¬(c = ':' ∨ c = '}') :=
    fun hne c tail he hc => hs.2 ⟨blanks, c, tail, he ▸ rfl, hne, hblanks, hc⟩
  split
  · rename_i tail
    cases blanks with
    | nil => exact absurd rfl (hs.1 ':' rfl).2
    | cons b blanks => exact absurd (.inl rfl) (hparted (by simp) ':' tail rfl)
  · have hopen : (!blanks.isEmpty && rest.head? == some '}') = false := by
      cases blanks with
      | nil => rfl
      | cons b blanks =>
        cases rest with
        | nil => rfl
        | cons c tail =>
          have := hparted (by simp) c tail rfl
          simp_all
    rw [hopen, if_neg (by decide)]
    cases splitClosing 0 rest with
    | none => rfl
    | some r => simp [byteLength_append, Nat.add_assoc]

/-- The reader takes a placeholder up to its closing brace. -/
theorem read_of_content (h : Content content name hint) :
    read start (content ++ '}' :: after) = .ok ⟨⟨String.ofList name, hint.map String.ofList, start⟩,
      start + 1 + byteLength content + 1, after⟩ := by
  cases h with
  | @hinted _ s hname hs =>
    have hbrace : '}' ∉ s := fun hmem => (hs.2 _ hmem).2.2 rfl
    rw [List.append_assoc, List.cons_append, read_hint hname.2 hbrace,
      if_pos ((isHint_iff hbrace).2 hs)]
    rfl
  | @plain _ inside hname hs hnested =>
    have hsplit : splitClosing 0 (inside ++ '}' :: after) = some (inside, after) :=
      splitClosing_eq_some_iff.2 ⟨rfl, hnested⟩
    rw [List.append_assoc, read_unhinted hname.2 (unhinted_append.2 hs), hsplit]
    rfl

theorem read_of_malformed (h : Malformed body name fault) :
    read start body = .error ⟨fault, start, some (String.ofList name)⟩ := by
  cases h with
  | parted hname hs => exact read_parted hname.2 hs
  | badHint hname hs hbad => rw [read_hint hname.2 hs, if_neg ((isHint_iff hs).not.2 hbad)]
  | openHint hname hs => exact read_openHint hname.2 hs
  | @unclosed _ rest hname hs hopen =>
    have hnone : splitClosing 0 rest = none := by
      cases hsplit : splitClosing 0 rest with
      | none => rfl
      | some r =>
        obtain ⟨hrest, hnested⟩ := splitClosing_eq_some_iff.1 hsplit
        exact absurd hnested (hopen _ _ hrest)
    rw [read_unhinted hname.2 hs, hnone]

/-- How a placeholder goes on after its name. -/
theorem rest_cases (h : ∀ c ∈ rest.head?, isNameChar c = false) : Parted rest ∨
    (∃ hint after, rest = ':' :: (hint ++ '}' :: after) ∧ '}' ∉ hint) ∨
    (∃ tail, rest = ':' :: tail ∧ '}' ∉ tail) ∨ Unhinted rest := by
  by_cases hparted : Parted rest
  · exact .inl hparted
  · by_cases hcolon : ∃ tail, rest = ':' :: tail
    · obtain ⟨tail, rfl⟩ := hcolon
      by_cases hmem : '}' ∈ tail
      · obtain ⟨hint, after, rfl, hhint⟩ := List.eq_append_cons_of_mem hmem
        exact .inr (.inl ⟨hint, after, rfl, hhint⟩)
      · exact .inr (.inr (.inl ⟨tail, rfl, hmem⟩))
    · refine .inr (.inr (.inr ⟨fun c hc => ⟨h c hc, ?_⟩, hparted⟩))
      rintro rfl
      obtain ⟨tail, rfl⟩ := List.head?_eq_some_iff.1 hc
      exact hcolon ⟨tail, rfl⟩

/-- After a name, a placeholder goes on as it should, or something is wrong with it. -/
theorem content_or_malformed (h : ∃ c ∈ body.head?, isNameStart c = true) :
    (∃ content name hint after, body = content ++ '}' :: after ∧ Content content name hint) ∨
      ∃ name fault, Malformed body name fault := by
  obtain ⟨c, hc, hstart⟩ := h
  obtain ⟨name, rest, rfl, hchars, hrest⟩ := exists_span isNameChar body
  have hchar : ∀ c, isNameStart c = true → isNameChar c = true := by
    intro c hc
    simp only [isNameStart, isNameChar, Char.isAlphanum, Bool.or_eq_true, decide_eq_true_eq] at hc ⊢
    exact hc.imp_left .inl
  have hname : IsName name := by
    refine ⟨?_, hchars⟩
    cases name with
    | nil => exact absurd (hchar c hstart) (by simp [hrest c hc])
    | cons d name => exact ⟨c, hc, hstart⟩
  rcases rest_cases hrest with hparted | ⟨s, after, rfl, hs⟩ | ⟨tail, rfl, htail⟩ | hs
  · exact .inr ⟨name, _, .parted hname hparted⟩
  · by_cases hhint : IsHint s
    · exact .inl ⟨_, name, _, after, by simp, .hinted hname hhint⟩
    · exact .inr ⟨name, _, .badHint hname hs hhint⟩
  · exact .inr ⟨name, _, .openHint hname htail⟩
  · by_cases hclosed : ∃ inside after, rest = inside ++ '}' :: after ∧ Nested inside
    · obtain ⟨inside, after, rfl, hnested⟩ := hclosed
      exact .inl ⟨name ++ inside, name, none, after, by simp,
        .plain hname (unhinted_append.1 hs) hnested⟩
    · exact .inr ⟨name, _, .unclosed hname hs fun inside after he hn =>
        hclosed ⟨inside, after, he, hn⟩⟩

end Placeholder

end StepPhrase
