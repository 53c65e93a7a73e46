import Mathlib.Data.List.Nodup
import StepPhrase.Proofs.Expression.Agreement
import StepPhrase.Proofs.Pattern.Scan

/-! Where in a pattern the hints of its placeholders stand. -/
namespace StepPhrase.Token

variable {position : Nat} {pre s taken rest : List Char} {c : Char} {token : Token}
  {tokens items : List Token} {p q : Placeholder} {hint : String}

/-- The scan meets a placeholder with the hint whose opening brace is at the byte. -/
def HintAt (s : List Char) (hint : String) (position : Nat) : Prop :=
  ∃ pre items content name rest, s = pre ++ '{' :: (content ++ '}' :: rest) ∧
    Scanned pre items ('{' :: (content ++ '}' :: rest)) ∧
    Placeholder.Content content name (some hint.toList) ∧ position = byteLength pre

theorem placeholders_cons :
    placeholders (token :: tokens) = (placeholder? token).toList ++ placeholders tokens := by
  cases token <;> rfl

theorem placeholders_append :
    placeholders (tokens ++ items) = placeholders tokens ++ placeholders items :=
  List.filterMap_append

theorem placeholders_prepend : placeholders (prepend c tokens) = placeholders tokens := by
  cases tokens with
  | nil => rfl
  | cons token tokens => cases token <;> rfl

/-- Joined literals change nothing for placeholders. -/
theorem placeholders_join : placeholders (items.foldr join []) = placeholders items := by
  induction items with
  | nil => rfl
  | cons token items ih =>
    rw [List.foldr_cons, placeholders_cons, ← ih]
    cases token with
    | literal s =>
      induction s with
      | nil => rfl
      | cons c s ihs => exact placeholders_prepend.trans ihs
    | placeholder p => rfl
    | openBrace position => rfl
    | closeBrace position => rfl

theorem mem_placeholders_iff : p ∈ placeholders tokens ↔ placeholder p ∈ tokens := by
  simp only [placeholders, List.mem_filterMap]
  constructor
  · rintro ⟨token, hmem, htoken⟩
    cases token with
    | placeholder q =>
      cases htoken
      exact hmem
    | literal s => cases htoken
    | openBrace position => cases htoken
    | closeBrace position => cases htoken
  · intro hmem
    exact ⟨_, hmem, rfl⟩

theorem Next.pos_byteLength (h : Next position taken token rest) : 0 < byteLength taken := by
  obtain ⟨c, taken', rfl⟩ := List.exists_cons_of_ne_nil h.ne_nil
  exact Nat.add_pos_left (Char.utf8Size_pos c) _

theorem Next.start_eq (h : Next position taken token rest) (hp : placeholder? token = some p) :
    p.start = position := by
  cases h with
  | placeholder =>
    cases hp
    rfl
  | escaped => cases hp
  | lastBackslash => cases hp
  | doubled => cases hp
  | openBrace => cases hp
  | closeBrace => cases hp
  | plain => cases hp

/-- Placeholders come in the order of their bytes, all of them where the scan has been. -/
theorem Scanned.pairwise_start (h : Scanned pre items rest) :
    (placeholders items).Pairwise (·.start < ·.start) ∧
      ∀ p ∈ placeholders items, p.start < byteLength pre := by
  induction h with
  | start => exact ⟨.nil, by simp [placeholders]⟩
  | @next pre taken rest items token h hnext ih =>
    obtain ⟨hpairwise, hbound⟩ := ih
    have hpos := hnext.pos_byteLength
    have hlast : ∀ p ∈ (placeholder? token).toList, p.start = byteLength pre := by
      intro p hp
      exact hnext.start_eq (Option.mem_toList.1 hp)
    have hsingle : placeholders [token] = (placeholder? token).toList := by
      rw [placeholders_cons]
      exact List.append_nil _
    rw [placeholders_append, hsingle, byteLength_append]
    constructor
    · refine List.pairwise_append.2 ⟨hpairwise, ?_, ?_⟩
      · cases placeholder? token with
        | none => exact .nil
        | some p => exact List.pairwise_singleton _ p
      · intro p hp q hq
        rw [hlast q hq]
        exact hbound p hp
    · intro p hp
      rcases List.mem_append.1 hp with hp | hp
      · exact Nat.lt_add_right _ (hbound p hp)
      · rw [hlast p hp]
        omega

theorem Scanned.eq_of_start_eq (h : Scanned pre items rest) (hp : p ∈ placeholders items)
    (hq : q ∈ placeholders items) (heq : p.start = q.start) : p = q := by
  have hnodup : ((placeholders items).map (·.start)).Nodup :=
    List.pairwise_map.2 (h.pairwise_start.1.imp Nat.ne_of_lt)
  exact List.inj_on_of_nodup_map hnodup hp hq heq

theorem Scanned.placeholders_unique (h : Scanned s items []) (h' : Scanned s tokens []) :
    placeholders items = placeholders tokens := by
  have hscan := (scan_of_scanned h).symm.trans (scan_of_scanned h')
  rw [scan_nil] at hscan
  have hjoined : items.foldr join [] = tokens.foldr join [] := Except.ok.inj hscan
  rw [← placeholders_join, hjoined, placeholders_join]

/-- A pattern without malformed placeholders can be scanned on to its end from anywhere. -/
theorem Scanned.exists_end (hall : Scanned (pre ++ rest) tokens []) (h : Scanned pre items rest) :
    ∃ more, Scanned (pre ++ rest) (items ++ more) [] := by
  rcases h.exists_stop with hmore | ⟨before, items', body, name, fault, hs, hscanned, hbad⟩
  · exact hmore
  · have hend := scan_of_scanned hall
    rw [List.append_nil, hs, scan_of_scanned hscanned, scan_of_malformed hbad, scan_nil] at hend
    cases hend

theorem Scanned.placeholder {content name : List Char} {hint : Option (List Char)}
    (h : Scanned pre items ('{' :: (content ++ '}' :: rest)))
    (hcontent : Placeholder.Content content name hint) :
    Scanned (pre ++ '{' :: (content ++ ['}'])) (items ++
      [placeholder ⟨String.ofList name, hint.map String.ofList, byteLength pre⟩]) rest := by
  have htaken : Scanned pre items (('{' :: (content ++ ['}'])) ++ rest) := by simpa using h
  exact htaken.next (.placeholder hcontent)

/-- The hints that the scan meets are those of the placeholders that it finds. -/
theorem Scanned.hintAt_iff (hall : Scanned s tokens []) : HintAt s hint position ↔
    ∃ p ∈ placeholders tokens, p.hint = some hint ∧ p.start = position := by
  constructor
  · rintro ⟨pre, items, content, name, rest, rfl, hscanned, hcontent, rfl⟩
    have hsplit : pre ++ '{' :: (content ++ '}' :: rest) =
        (pre ++ '{' :: (content ++ ['}'])) ++ rest := by simp
    rw [hsplit] at hall
    obtain ⟨more, hmore⟩ := hall.exists_end (hscanned.placeholder hcontent)
    rw [hall.placeholders_unique hmore]
    refine ⟨_, mem_placeholders_iff.2 (List.mem_append_left more List.mem_concat_self), ?_, rfl⟩
    simp
  · rintro ⟨p, hp, hhint, rfl⟩
    obtain ⟨before, after, rfl⟩ := List.append_of_mem (mem_placeholders_iff.1 hp)
    obtain ⟨pre, taken, rest, hs, hscanned, hnext⟩ := hall.exists_next
    rw [List.append_nil] at hs
    cases hnext with
    | @placeholder content name _ hint' hcontent =>
      obtain ⟨characters, rfl, hcharacters⟩ := Option.map_eq_some_iff.1 hhint
      refine ⟨pre, before, content, name, rest, by simpa using hs, by simpa using hscanned, ?_, rfl⟩
      rwa [← hcharacters, String.toList_ofList]

end StepPhrase.Token
