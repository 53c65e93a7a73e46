import Mathlib.Data.List.Forall2
import StepPhrase.Text.Ascii
import StepPhrase.Text.Json

/-! JSON read back: what is written as a string, an array or an object is read as just that. -/
namespace StepPhrase.Json

open Text

/-- What a JSON text of strings, arrays and objects holds. No numbers and literal names are read. -/
inductive Document where
  | text (s : String)
  | list (items : List Document)
  | record (fields : List (String × Document))

/-- White space, which may stand before each part of a text. -/
def isBlank (c : Char) : Bool := c == ' ' || c == '\t' || c == '\n' || c == '\r'

def skip (s : List Char) : List Char := s.dropWhile isBlank

/-- What a character behind a backslash stands for. -/
def escaped? : Char → Option Char
  | '"' => some '"'
  | '\\' => some '\\'
  | '/' => some '/'
  | 'b' => some '\x08'
  | 'f' => some '\x0c'
  | 'n' => some '\n'
  | 'r' => some '\r'
  | 't' => some '\t'
  | _ => none

/-- The character whose number the hexadecimal digits are. Halves of surrogate pairs are refused. -/
def numbered? (digits : List Char) : Option Char := do
  let n := ofDigits 16 (← digits.mapM hexValue?)
  if n.isValidChar then some (.ofNat n) else none

/-- Reads what stands before the closing quotation mark. -/
def readText : List Char → Option (List Char × List Char)
  | [] => none
  | '"' :: rest => some ([], rest)
  | '\\' :: 'u' :: a :: b :: c :: d :: rest => do
    let x ← numbered? [a, b, c, d]
    let (text, rest) ← readText rest
    some (x :: text, rest)
  | '\\' :: c :: rest => do
    let x ← escaped? c
    let (text, rest) ← readText rest
    some (x :: text, rest)
  | c :: rest =>
    if c.toNat < 0x20 then none
    else do
      let (text, rest) ← readText rest
      some (c :: text, rest)

section Sequence

variable {α : Type} (close : Char) (readItem : List Char → Option (α × List Char))

/-- Reads items with commas between them, up to the closing mark. -/
def readItems : Nat → List Char → Option (List α × List Char)
  | 0, _ => none
  | fuel + 1, s => do
    let (item, rest) ← readItem s
    match skip rest with
    | [] => none
    | ',' :: rest => do
      let (items, rest) ← readItems fuel rest
      some (item :: items, rest)
    | c :: rest => if c = close then some ([item], rest) else none

/-- Reads what stands between an opening mark and the closing one: items, or none. -/
def readSequence (fuel : Nat) (s : List Char) : Option (List α × List Char) :=
  if (skip s).head? = some close then some ([], (skip s).tail)
  else readItems close readItem fuel s

end Sequence

/-- Reads a name, a colon and a value. -/
def readField (readValue : List Char → Option (Document × List Char)) (s : List Char) :
    Option ((String × Document) × List Char) :=
  match skip s with
  | '"' :: rest => do
    let (name, rest) ← readText rest
    match skip rest with
    | ':' :: rest => do
      let (value, rest) ← readValue rest
      some ((String.ofList name, value), rest)
    | _ => none
  | _ => none

/-- Reads a value at the beginning of the text. -/
def readValue : Nat → List Char → Option (Document × List Char)
  | 0, _ => none
  | fuel + 1, s =>
    match skip s with
    | '"' :: rest => (readText rest).map fun (text, rest) => (.text (String.ofList text), rest)
    | '[' :: rest =>
      (readSequence ']' (readValue fuel) fuel rest).map fun (items, rest) => (.list items, rest)
    | '{' :: rest =>
      (readSequence '}' (readField (readValue fuel)) fuel rest).map fun (fields, rest) =>
        (.record fields, rest)
    | _ => none

/-- What the text holds. Each value and each item takes at least one character. -/
def read? (s : String) : Option Document := do
  let (value, rest) ← readValue s.toList.length s.toList
  if skip rest = [] then some value else none

section Characters

variable {c : Char} {rest : List Char}

theorem skip_cons (h : isBlank c = false) : skip (c :: rest) = c :: rest :=
  List.dropWhile_cons_of_neg (by simp [h])

theorem readText_cons (hquote : c ≠ '"') (hslash : c ≠ '\\') (hcontrol : ¬c.toNat < 0x20) :
    readText (c :: rest) = (readText rest).map fun p => (c :: p.1, p.2) := by
  rw [readText]
  · rw [if_neg hcontrol]
    cases readText rest with
    | none => rfl
    | some p => rfl
  · exact hquote
  · intro _ _ _ _ _ h _
    exact hslash h
  · intro _ _ h _
    exact hslash h

theorem readText_escaped {x : Char} (h : escaped? c = some x) :
    readText ('\\' :: c :: rest) = (readText rest).map fun p => (x :: p.1, p.2) := by
  rw [readText]
  · rw [h]
    cases readText rest with
    | none => rfl
    | some p => rfl
  · rintro a b c d rest rfl
    cases h

theorem readText_numbered {a b c d x : Char} (h : numbered? [a, b, c, d] = some x) :
    readText ('\\' :: 'u' :: a :: b :: c :: d :: rest) =
      (readText rest).map fun p => (x :: p.1, p.2) := by
  rw [readText, h]
  cases readText rest with
  | none => rfl
  | some p => rfl

/-- The digits of a control character. -/
theorem numbered?_toDigits : ∀ n < 0x20,
    let digits := Nat.toDigits 16 n
    let padded := List.replicate (4 - digits.length) '0' ++ digits
    padded.length = 4 ∧ numbered? padded = some (.ofNat n) := by
  decide

theorem readText_escapeChar :
    readText ((escapeChar c).toList ++ rest) = (readText rest).map fun p => (c :: p.1, p.2) := by
  unfold escapeChar
  split
  · exact readText_escaped rfl
  · exact readText_escaped rfl
  · exact readText_escaped rfl
  · exact readText_escaped rfl
  · exact readText_escaped rfl
  · exact readText_escaped rfl
  · exact readText_escaped rfl
  · rename_i hquote hslash _ _ _ _ _
    split
    · rename_i hcontrol
      obtain ⟨hlength, hnumber⟩ := numbered?_toDigits c.toNat hcontrol
      obtain ⟨a, b, d, e, hdigits⟩ := List.length_eq_four.1 hlength
      rw [Char.ofNat_toNat] at hnumber
      simp only [String.toList_append, String.toList_ofList, hdigits] at hnumber ⊢
      exact readText_numbered hnumber
    · rename_i hcontrol
      rw [Char.toString_eq_singleton, String.toList_singleton]
      exact readText_cons hquote hslash hcontrol

theorem readText_escape {s : List Char} :
    readText (s.flatMap (fun c => (escapeChar c).toList) ++ '"' :: rest) = some (s, rest) := by
  induction s with
  | nil => rfl
  | cons c s ih =>
    rw [List.flatMap_cons, List.append_assoc, readText_escapeChar, ih]
    rfl

theorem toList_string {s : String} :
    (string s).toList = '"' :: (s.toList.flatMap (fun c => (escapeChar c).toList) ++ ['"']) := by
  simp [string, String.toList_join, List.flatMap_map]

end Characters

section Sequences

variable {α : Type} {close : Char} {readItem : List Char → Option (α × List Char)}
  {text rest : List Char} {texts : List (List Char)} {item : α} {items : List α} {fuel : Nat}

/-- The reader takes just the text for the item, whatever comes after it. -/
def Reads (readItem : List Char → Option (α × List Char)) (text : List Char) (item : α) : Prop :=
  ∀ rest, readItem (text ++ rest) = some (item, rest)

theorem length_le_of_mem (h : text ∈ texts) : text.length ≤ ([','].intercalate texts).length := by
  induction texts with
  | nil => cases h
  | cons first texts ih =>
    cases texts with
    | nil => simp_all
    | cons second texts =>
      rw [List.intercalate_cons_cons, List.length_append, List.length_append]
      rcases List.mem_cons.1 h with rfl | h
      · omega
      · have := ih h
        omega

theorem length_le_succ : texts.length ≤ ([','].intercalate texts).length + 1 := by
  induction texts with
  | nil => simp
  | cons first texts ih =>
    cases texts with
    | nil => simp
    | cons second texts =>
      rw [List.intercalate_cons_cons]
      simp only [List.length_append, List.length_cons] at ih ⊢
      omega

theorem readItems_last (hcomma : close ≠ ',') (hblank : isBlank close = false)
    (h : Reads readItem text item) :
    readItems close readItem (fuel + 1) (text ++ close :: rest) = some ([item], rest) := by
  simp only [readItems, h _, Option.bind_eq_bind, Option.bind_some, skip_cons hblank, if_true]

theorem readItems_comma (h : Reads readItem text item) :
    readItems close readItem (fuel + 1) (text ++ ',' :: rest) =
      (readItems close readItem fuel rest).map fun p => (item :: p.1, p.2) := by
  have hskip : skip (',' :: rest) = ',' :: rest := skip_cons rfl
  simp only [readItems, h _, Option.bind_eq_bind, Option.bind_some, hskip]
  cases readItems close readItem fuel rest with
  | none => rfl
  | some p => rfl

theorem readItems_intercalate (hcomma : close ≠ ',') (hblank : isBlank close = false)
    (h : List.Forall₂ (Reads readItem) texts items) (hne : texts ≠ [])
    (hfuel : texts.length ≤ fuel) :
    readItems close readItem fuel ([','].intercalate texts ++ close :: rest) =
      some (items, rest) := by
  induction h generalizing fuel with
  | nil => exact absurd rfl hne
  | @cons text item texts items hitem hrest ih =>
    cases fuel with
    | zero => cases hfuel
    | succ fuel =>
      cases hrest with
      | nil =>
        rw [List.intercalate_singleton]
        exact readItems_last hcomma hblank hitem
      | cons _ _ =>
        have hlater := ih (List.cons_ne_nil _ _) (Nat.le_of_succ_le_succ hfuel)
        rw [List.intercalate_cons_cons, List.append_assoc, List.append_assoc]
        exact (readItems_comma hitem).trans (congrArg _ hlater)

/-- Items are read between the marks, if none of them begins with the closing one. -/
theorem readSequence_intercalate (hcomma : close ≠ ',') (hblank : isBlank close = false)
    (hclose : ∀ s, (skip s).head? = some close → readItem s = none)
    (h : List.Forall₂ (Reads readItem) texts items) (hfuel : texts.length ≤ fuel) :
    readSequence close readItem fuel ([','].intercalate texts ++ close :: rest) =
      some (items, rest) := by
  unfold readSequence
  cases h with
  | nil =>
    rw [List.intercalate_nil, List.nil_append, skip_cons hblank]
    exact if_pos rfl
  | cons hitem hrest =>
    have hitems : readItems close readItem fuel (_ ++ close :: rest) = _ :=
      readItems_intercalate hcomma hblank (.cons hitem hrest) (List.cons_ne_nil _ _) hfuel
    split
    · rename_i hhead
      cases fuel with
      | zero => cases hfuel
      | succ fuel =>
        rw [readItems, hclose _ hhead] at hitems
        cases hitems
    · exact hitems

end Sequences

variable {s : String} {v : Document} {rest : List Char} {fuel : Nat}

/-- The string is read as the value, whatever comes after it. -/
def Spells (s : String) (v : Document) : Prop :=
  ∀ fuel, s.toList.length ≤ fuel → Reads (readValue fuel) s.toList v

theorem Spells.read?_eq (h : Spells s v) : read? s = some v := by
  have hread := h s.toList.length (Nat.le_refl _) []
  rw [List.append_nil] at hread
  rw [read?, hread]
  rfl

theorem spells_string : Spells (string s) (.text s) := by
  intro fuel hfuel rest
  rw [toList_string] at hfuel ⊢
  obtain ⟨fuel, rfl⟩ := Nat.exists_eq_succ_of_ne_zero (Nat.ne_zero_of_lt hfuel)
  rw [List.cons_append, List.append_assoc, readValue, skip_cons rfl]
  simp only [List.singleton_append, readText_escape, Option.map_some, String.ofList_toList]

/-- No value begins with the mark that closes an array or an object. -/
theorem readValue_eq_none {c : Char} {s : List Char} (hc : c = ']' ∨ c = '}')
    (h : (skip s).head? = some c) : readValue fuel s = none := by
  obtain ⟨rest, hskip⟩ : ∃ rest, skip s = c :: rest := by
    cases hs : skip s with
    | nil => simp [hs] at h
    | cons d rest =>
      rw [hs] at h
      cases h
      exact ⟨rest, rfl⟩
  cases fuel with
  | zero => rfl
  | succ fuel =>
    rw [readValue, hskip]
    rcases hc with rfl | rfl
    · rfl
    · rfl

/-- Where the fuel is enough for a text between marks, it is enough for each of its parts. -/
theorem exists_fuel {mark close : Char} {texts : List (List Char)}
    (h : (mark :: ([','].intercalate texts ++ [close])).length ≤ fuel) :
    ∃ fuel', fuel = fuel' + 1 ∧ texts.length ≤ fuel' ∧ ∀ text ∈ texts, text.length ≤ fuel' := by
  rw [List.length_cons, List.length_append, List.length_singleton] at h
  have hcount : texts.length ≤ ([','].intercalate texts).length + 1 := length_le_succ
  refine ⟨fuel - 1, by omega, by omega, fun text htext => ?_⟩
  have := length_le_of_mem htext
  omega

theorem spells_array {items : List String} {values : List Document}
    (h : List.Forall₂ Spells items values) : Spells (array items) (.list values) := by
  intro fuel hfuel rest
  have htext : (array items).toList =
      '[' :: ([','].intercalate (items.map String.toList) ++ [']']) := by
    simp [array, String.toList_intercalate]
  rw [htext] at hfuel ⊢
  obtain ⟨fuel, rfl, hcount, hlength⟩ := exists_fuel hfuel
  have hitems : List.Forall₂ (Reads (readValue fuel)) (items.map String.toList) values := by
    have hfits : ∀ item ∈ items, item.toList.length ≤ fuel := fun item hitem =>
      hlength _ (List.mem_map_of_mem hitem)
    refine List.forall₂_map_left_iff.2 (((List.forall₂_and_left _ _).2 ⟨hfits, h⟩).imp ?_)
    rintro item v ⟨hle, hspells⟩
    exact hspells fuel hle
  rw [List.cons_append, List.append_assoc, readValue, skip_cons rfl]
  simp only [List.singleton_append]
  rw [readSequence_intercalate (by decide) rfl (fun s => readValue_eq_none (.inl rfl)) hitems
    hcount]
  rfl

theorem readField_eq_none {readValue : List Char → Option (Document × List Char)} {s : List Char}
    (h : (skip s).head? = some '}') : readField readValue s = none := by
  unfold readField
  split
  · rename_i hskip
    simp [hskip] at h
  · rfl

theorem toList_field {name value : String} : (string name ++ ":" ++ value).toList =
    '"' :: (name.toList.flatMap (fun c => (escapeChar c).toList) ++
      '"' :: ':' :: value.toList) := by
  simp [toList_string]

theorem reads_field {name value : String} (h : Reads (readValue fuel) value.toList v) :
    Reads (readField (readValue fuel)) (string name ++ ":" ++ value).toList (name, v) := by
  intro rest
  have hcolon : skip (':' :: (value.toList ++ rest)) = ':' :: (value.toList ++ rest) :=
    skip_cons rfl
  rw [toList_field, List.cons_append, List.append_assoc, readField, skip_cons rfl]
  simp only [List.cons_append, readText_escape, Option.bind_eq_bind, Option.bind_some, hcolon,
    h rest, String.ofList_toList]

theorem spells_object {fields : List (String × String)} {values : List (String × Document)}
    (h : List.Forall₂ (fun f g => f.1 = g.1 ∧ Spells f.2 g.2) fields values) :
    Spells (object fields) (.record values) := by
  intro fuel hfuel rest
  have htext : (object fields).toList = '{' :: ([','].intercalate
      (fields.map fun f => (string f.1 ++ ":" ++ f.2).toList) ++ ['}']) := by
    simp [object, String.toList_intercalate, Function.comp_def]
  rw [htext] at hfuel ⊢
  obtain ⟨fuel, rfl, hcount, hlength⟩ := exists_fuel hfuel
  have hfields : List.Forall₂ (Reads (readField (readValue fuel)))
      (fields.map fun f => (string f.1 ++ ":" ++ f.2).toList) values := by
    have hfits : ∀ f ∈ fields, (string f.1 ++ ":" ++ f.2).toList.length ≤ fuel := fun f hf =>
      hlength _ (List.mem_map_of_mem hf)
    refine List.forall₂_map_left_iff.2 (((List.forall₂_and_left _ _).2 ⟨hfits, h⟩).imp ?_)
    rintro ⟨name, value⟩ ⟨name', v⟩ ⟨hle, rfl, hspells⟩
    rw [toList_field] at hle
    simp only [List.length_cons, List.length_append] at hle
    have hvalue : value.toList.length ≤ fuel := by omega
    exact reads_field (hspells fuel hvalue)
  rw [List.cons_append, List.append_assoc, readValue, skip_cons rfl]
  simp only [List.singleton_append]
  rw [readSequence_intercalate (by decide) rfl (fun s => readField_eq_none) hfields hcount]
  rfl

/-- Quotation marks, line ends and control characters come back. -/
example : read? (object [("a\"b", array [string "\n\\", string "\x01é"]), ("", array [])]) =
    some (.record [("a\"b", .list [.text "\n\\", .text "\x01é"]), ("", .list [])]) := by
  rfl

end StepPhrase.Json
