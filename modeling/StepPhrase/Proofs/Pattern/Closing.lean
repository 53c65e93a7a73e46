import Mathlib.Order.Bounds.Defs
import StepPhrase.Proofs.Pattern.Placeholder

/-! Where a nesting level and a placeholder end: at the first closing brace before which as many
braces open as close. -/
namespace StepPhrase

open Text
open Regex.Size (bytes)

variable {d i start : Nat} {c : Char} {s inside before after rest body content : List Char}

/-- As many braces open in the text as close, and in no part from its start close more. -/
structure Matched (s : List Char) : Prop where
  even : s.count '{' = s.count '}'
  never_more : ∀ part, part <+: s → part.count '}' ≤ part.count '{'

/-- At the byte stands a closing brace, and before it each brace has its own. -/
structure ClosesAt (s : List Char) (i : Nat) : Prop where
  brace : (bytes s)[i]? = some '}'.toUInt8
  matched : ∃ inside, inside <+: s ∧ byteLength inside = i ∧ Matched inside

theorem length_bytes : (bytes s).length = byteLength s := by
  induction s with
  | nil => rfl
  | cons c s ih =>
    rw [bytes, List.flatMap_cons, List.length_append, String.length_utf8EncodeChar, byteLength,
      ← ih, bytes]

theorem bytes_append : bytes (s ++ rest) = bytes s ++ bytes rest := List.flatMap_append

/-- No character but the brace itself begins with its byte: of one that takes more bytes, the first
is at least 192. -/
theorem eq_of_head?_utf8EncodeChar (h : (String.utf8EncodeChar c).head? = some '}'.toUInt8) :
    c = '}' := by
  have hbyte : ∀ n, some (UInt8.ofNat n) = some '}'.toUInt8 → n % 256 = 125 := by
    intro n hn
    have heq := congrArg UInt8.toNat (Option.some.inj hn)
    rwa [UInt8.toNat_ofNat'] at heq
  unfold String.utf8EncodeChar at h
  dsimp only at h
  split at h
  · have hmod := hbyte _ h
    have hval : c.toNat = 125 := by
      change c.val.toNat = 125
      omega
    rw [← Char.ofNat_toNat c, hval]
  · split at h
    · have hmod := hbyte _ h
      omega
    · split at h
      · have hmod := hbyte _ h
        omega
      · have hmod := hbyte _ h
        omega

theorem head?_bytes_iff : (bytes s).head? = some '}'.toUInt8 ↔ ∃ after, s = '}' :: after := by
  constructor
  · intro h
    cases s with
    | nil => cases h
    | cons c s =>
      have hne : String.utf8EncodeChar c ≠ [] := String.utf8EncodeChar_ne_nil
      obtain ⟨first, others, hc⟩ := List.exists_cons_of_ne_nil hne
      have hhead : (String.utf8EncodeChar c).head? = some '}'.toUInt8 := by
        rw [bytes, List.flatMap_cons, hc] at h
        rw [hc]
        exact h
      exact ⟨s, congrArg (· :: s) (eq_of_head?_utf8EncodeChar hhead)⟩
  · rintro ⟨after, rfl⟩
    rfl

/-- The byte after a part of a text is that of a closing brace just if the brace comes next. -/
theorem closesAt_iff : ClosesAt s i ↔
    ∃ inside after, s = inside ++ '}' :: after ∧ byteLength inside = i ∧ Matched inside := by
  have hnext : ∀ inside rest,
      (bytes (inside ++ rest))[byteLength inside]? = (bytes rest).head? := by
    intro inside rest
    rw [bytes_append, ← length_bytes, List.getElem?_append_right (Nat.le_refl _), Nat.sub_self,
      List.head?_eq_getElem?]
  constructor
  · rintro ⟨hbrace, inside, ⟨rest, rfl⟩, rfl, hmatched⟩
    rw [hnext] at hbrace
    obtain ⟨after, rfl⟩ := head?_bytes_iff.1 hbrace
    exact ⟨inside, after, rfl, rfl, hmatched⟩
  · rintro ⟨inside, after, rfl, rfl, hmatched⟩
    refine ⟨?_, inside, List.prefix_append inside _, rfl, hmatched⟩
    rw [hnext]
    exact head?_bytes_iff.2 ⟨after, rfl⟩

theorem forall_part_cons_iff {P : List Char → Prop} :
    (∀ part, part <+: c :: s → P part) ↔ P [] ∧ ∀ part, part <+: s → P (c :: part) := by
  constructor
  · intro h
    exact ⟨h [] List.nil_prefix, fun part hpart => h _ (List.cons_prefix_cons.2 ⟨rfl, hpart⟩)⟩
  · rintro ⟨hnil, hcons⟩ part hpart
    rcases List.prefix_cons_iff.1 hpart with rfl | ⟨others, rfl, hothers⟩
    · exact hnil
    · exact hcons others hothers

/-- What a text closes of the braces that were open before it shows in how many braces it has. -/
theorem closing_iff_count : Closing (· = '{') (· = '}') d s ↔
    s.count '}' = s.count '{' + d ∧ ∀ part, part <+: s → part.count '}' ≤ part.count '{' + d := by
  induction s generalizing d with
  | nil =>
    rw [closing_nil]
    simp [eq_comm]
  | cons c s ih =>
    rw [forall_part_cons_iff]
    by_cases ho : c = '{'
    · subst ho
      have hstep : Closing (· = '{') (· = '}') d ('{' :: s) ↔
          Closing (· = '{') (· = '}') (d + 1) s := closing_cons_open rfl (by decide)
      have hcount : ∀ part : List Char, ('{' :: part).count '{' + d = part.count '{' + (d + 1) ∧
          ('{' :: part).count '}' = part.count '}' := by
        intro part
        simp
        omega
      rw [hstep, ih]
      simp only [hcount, List.count_nil, Nat.zero_le, true_and]
    · by_cases hc : c = '}'
      · subst hc
        have hcount : ∀ part : List Char, ('}' :: part).count '{' = part.count '{' ∧
            ('}' :: part).count '}' = part.count '}' + 1 := by simp
        cases d with
        | zero =>
          constructor
          · intro h
            exact (Balanced.not_closes_head h rfl ho).elim
          · rintro ⟨-, -, h⟩
            have := h [] List.nil_prefix
            simp at this
        | succ d =>
          have hstep : Closing (· = '{') (· = '}') (d + 1) ('}' :: s) ↔
              Closing (· = '{') (· = '}') d s := closing_cons_close ho rfl
          rw [hstep, ih]
          simp only [hcount, List.count_nil, Nat.zero_le, true_and, ← Nat.add_assoc,
            Nat.add_right_cancel_iff, Nat.add_le_add_iff_right]
      · have hstep : Closing (· = '{') (· = '}') d (c :: s) ↔ Closing (· = '{') (· = '}') d s :=
          closing_cons_plain ho hc
        have hcount : ∀ part : List Char, (c :: part).count '{' = part.count '{' ∧
            (c :: part).count '}' = part.count '}' := by
          intro part
          simp [ho, hc]
        rw [hstep, ih]
        simp only [hcount, List.count_nil, Nat.zero_le, true_and, Nat.zero_add]

theorem nested_iff_matched : Nested s ↔ Matched s := by
  have hcount : Nested s ↔ s.count '}' = s.count '{' + 0 ∧
      ∀ part, part <+: s → part.count '}' ≤ part.count '{' + 0 := closing_iff_count (d := 0)
  rw [hcount]
  exact ⟨fun ⟨heven, hmore⟩ => ⟨heven.symm, hmore⟩, fun ⟨heven, hmore⟩ => ⟨heven.symm, hmore⟩⟩

theorem splitClosing_zero_eq_some_iff :
    splitClosing 0 s = some (inside, after) ↔ s = inside ++ '}' :: after ∧ Matched inside := by
  rw [← nested_iff_matched]
  exact splitClosing_eq_some_iff

theorem map_splitClosing_eq_some_iff :
    (splitClosing 0 s).map (fun r => byteLength r.1) = some i ↔ ClosesAt s i := by
  rw [closesAt_iff, Option.map_eq_some_iff]
  constructor
  · rintro ⟨⟨inside, after⟩, hsplit, rfl⟩
    obtain ⟨hs, hmatched⟩ := splitClosing_zero_eq_some_iff.1 hsplit
    exact ⟨inside, after, hs, rfl, hmatched⟩
  · rintro ⟨inside, after, hs, rfl, hmatched⟩
    exact ⟨(inside, after), splitClosing_zero_eq_some_iff.2 ⟨hs, hmatched⟩, rfl⟩

/-- Where the braces match, a closing one that comes next has none to match. -/
theorem Matched.not_matched_append (h : Matched inside) : ¬Matched (inside ++ '}' :: rest) := by
  intro hall
  have hpart : inside ++ ['}'] <+: inside ++ '}' :: rest := ⟨rest, by simp⟩
  have hmore := hall.never_more _ hpart
  have heven := h.even
  simp at hmore
  omega

namespace Placeholder

variable {p : Placeholder} {f : Found}

/-- What stands between the braces of a placeholder: the name as far as it goes, and then text that
is ignored in which braces match, or a colon and the hint. -/
inductive Between : Placeholder → List Char → Prop
  | plain {name ignored : List Char} {start : Nat} : (∀ c ∈ name, isNameChar c = true) →
    (∀ c ∈ ignored.head?, isNameChar c = false ∧ c ≠ ':') → Matched ignored →
      Between ⟨String.ofList name, none, start⟩ (name ++ ignored)
  | hinted {name hint : List Char} {start : Nat} : (∀ c ∈ name, isNameChar c = true) →
    IsHint hint →
      Between ⟨String.ofList name, some (String.ofList hint), start⟩ (name ++ ':' :: hint)

/-- The content may be that of the placeholder: its name, and then text in which braces match, or a
colon and the hint. -/
def Fits (p : Placeholder) (content : List Char) : Prop :=
  (∃ ignored, content = p.name.toList ++ ignored ∧ Matched ignored) ∨
    ∃ hint ∈ p.hint, content = p.name.toList ++ ':' :: hint.toList

/-- The byte is one after a closing brace, and what stands from the opening brace between the two
texts to there fits the placeholder. -/
def EndsAt (before body : List Char) (p : Placeholder) (stop : Nat) : Prop :=
  ∃ content after, body = content ++ '}' :: after ∧ p.Fits content ∧
    stop = byteLength (before ++ '{' :: (content ++ ['}']))

theorem Between.fits (h : p.Between content) : p.Fits content := by
  cases h with
  | @plain name ignored start hname hignored hmatched => exact .inl ⟨ignored, by simp, hmatched⟩
  | @hinted name hint start hname hhint => exact .inr ⟨_, rfl, by simp⟩

/-- What fits a placeholder does not go on to the end of it past a closing brace. -/
theorem Fits.not_between (h : p.Fits content) : ¬p.Between (content ++ '}' :: rest) := by
  intro hall
  generalize hcontent : content ++ '}' :: rest = all at hall
  cases hall with
  | @plain name ignored start hname hignored hmatched =>
    rcases h with ⟨passed, rfl, hpassed⟩ | ⟨hint, hhint, -⟩
    -- the ignored text would close a brace that nothing in it opens
    · rw [String.toList_ofList, List.append_assoc] at hcontent
      rw [← List.append_cancel_left hcontent] at hmatched
      exact hpassed.not_matched_append hmatched
    · cases hhint
  | @hinted name hint start hname hhint =>
    have hmem : '}' ∈ name ++ ':' :: hint := hcontent ▸ by simp
    rcases List.mem_append.1 hmem with hmem | hmem
    · exact absurd (hname _ hmem) (by decide)
    · rcases List.mem_cons.1 hmem with heq | hmem
      · cases heq
      · exact (hhint.2 _ hmem).2.2 rfl

theorem Between.byteLength_le (h : p.Between content) {other after' : List Char}
    (heq : content ++ '}' :: after = other ++ '}' :: after') (hother : p.Fits other) :
    byteLength content ≤ byteLength other := by
  rcases List.append_eq_append_iff.1 heq with ⟨more, rfl, -⟩ | ⟨more, rfl, hmore⟩
  · rw [byteLength_append]
    exact Nat.le_add_right _ _
  · rcases List.cons_eq_append_iff.1 hmore with ⟨rfl, -⟩ | ⟨more, rfl, -⟩
    · rw [List.append_nil]
    · exact (hother.not_between h).elim

/-- The reader takes up what stands before the closing brace, and that brace. -/
theorem exists_between (h : read start body = .ok f) :
    ∃ content, body = content ++ '}' :: f.after ∧ f.stop = start + 1 + byteLength content + 1 ∧
      f.placeholder.start = start ∧ f.placeholder.Between content := by
  obtain ⟨name, rest, rfl, hname, hrest⟩ := exists_span isNameChar body
  rcases rest_cases hrest with hparted | ⟨hint, after, rfl, hbrace⟩ | ⟨tail, rfl, htail⟩ | hs
  · rw [read_parted hname hparted] at h
    cases h
  · rw [read_hint hname hbrace] at h
    split at h
    · rename_i hhint
      cases h
      exact ⟨name ++ ':' :: hint, by simp, rfl, rfl, .hinted hname ((isHint_iff hbrace).1 hhint)⟩
    · cases h
  · rw [read_openHint hname htail] at h
    cases h
  · rw [read_unhinted hname hs] at h
    split at h
    · cases h
    · rename_i inside after hsplit
      cases h
      obtain ⟨rfl, hmatched⟩ := splitClosing_zero_eq_some_iff.1 hsplit
      refine ⟨name ++ inside, by simp, rfl, rfl, .plain hname (fun c hc => hs.1 c ?_) hmatched⟩
      simp [List.head?_append, Option.mem_def.1 hc]

end Placeholder

/-- A nesting level ends at the closing brace before which all braces match, if there is one. So a
placeholder that is read ends after a closing brace, with its name and then ignored text or its hint
before that, and no sooner closing brace would do; what comes after the brace is left to be read. -/
theorem placeholder_ends_where_closed :
    (∀ s i, (splitClosing 0 s).map (fun r => byteLength r.1) = some i ↔ ClosesAt s i) ∧
    (∀ s, splitClosing 0 s = none ↔ ∀ i, ¬ClosesAt s i) ∧
    ∀ before body f, Placeholder.read (byteLength before) body = .ok f →
      (∃ content, body = content ++ '}' :: f.after ∧
        f.stop = byteLength (before ++ '{' :: (content ++ ['}'])) ∧
        f.placeholder.start = byteLength before ∧ f.placeholder.Between content) ∧
      IsLeast {stop | f.placeholder.EndsAt before body stop} f.stop := by
  refine ⟨fun s i => map_splitClosing_eq_some_iff, fun s => ?_, fun before body f h => ?_⟩
  · simp only [← map_splitClosing_eq_some_iff]
    cases splitClosing 0 s with
    | none => simp
    | some r => exact iff_of_false (by simp) fun h => h _ rfl
  · obtain ⟨content, hbody, hstop, hstart, hbetween⟩ := Placeholder.exists_between h
    have hsize : ∀ content, byteLength (before ++ '{' :: (content ++ ['}'])) =
        byteLength before + 1 + byteLength content + 1 := by
      intro content
      rw [byteLength_append, byteLength_braced]
      omega
    rw [← hsize] at hstop
    refine ⟨⟨content, hbody, hstop, hstart, hbetween⟩,
      ⟨content, f.after, hbody, hbetween.fits, hstop⟩, ?_⟩
    rintro stop ⟨other, after, hother, hfits, rfl⟩
    have hle := hbetween.byteLength_le (hbody.symm.trans hother) hfits
    rw [hstop, hsize, hsize]
    omega

/-- The placeholder goes on over the inner braces, and the letter with an accent takes two bytes. -/
theorem placeholder_ends_where_closed_inner :
    Placeholder.read (byteLength ['é']) "outer \x7binner\x7d\x7d after".toList =
      .ok ⟨⟨"outer", none, 2⟩, 17, " after".toList⟩ ∧
    IsLeast {stop | (Placeholder.mk "outer" none 2).EndsAt ['é']
      "outer \x7binner\x7d\x7d after".toList stop} 17 := by
  have h : Placeholder.read (byteLength ['é']) "outer \x7binner\x7d\x7d after".toList =
      .ok ⟨⟨"outer", none, 2⟩, 17, " after".toList⟩ := by rfl
  exact ⟨h, (placeholder_ends_where_closed.2.2 _ _ _ h).2⟩

end StepPhrase
