import StepPhrase.Proofs.Pattern.Cut
import StepPhrase.Proofs.Pattern.Types
import StepPhrase.Proofs.Regex.Order

/-! Which texts the types that stand ready try first, and which cut of a text pieces try first. -/
namespace StepPhrase

open Regex Unicode Lexeme

namespace Fragment

variable {fragment : String} {n : Node} {p : Preference} {w : List Char}

/-- The fragment tries texts in order of length. -/
structure Chooses (fragment : String) (p : Preference) : Prop where
  progressive : (Reading.ofText fragment.toList).body.node.Progressive
  ordered : (Reading.ofText fragment.toList).body.node.Ordered p

theorem chooses_of (h : readsAs fragment.toList n = true) (hn : n.Progressive) (ho : n.Ordered p) :
    Chooses fragment p := by
  constructor
  · rwa [node_of_readsAs h]
  · rwa [node_of_readsAs h]

theorem progressive_folded : (folded w).Progressive := by
  induction w with
  | nil => trivial
  | cons c w ih =>
    cases w with
    | nil => trivial
    | cons d w => exact ⟨trivial, ih⟩

theorem ordered_folded : (folded w).Ordered .neither := by
  induction w with
  | nil => exact fun t => List.pairwise_singleton _ t
  | cons c w ih =>
    cases w with
    | nil => exact Node.ordered_set
    | cons d w => exact Node.ordered_set.cat ih

theorem progressive_digits : digits.Progressive := ⟨trivial, fun _ => by decide⟩

theorem chooses_text : Chooses text .shorter :=
  chooses_of readsAs_text ⟨trivial, fun _ => by decide⟩ Node.ordered_plus

theorem chooses_word : Chooses word .longer :=
  chooses_of readsAs_word ⟨trivial, fun _ => by decide⟩ Node.ordered_plus

theorem chooses_unsigned : Chooses unsigned .longer :=
  chooses_of readsAs_unsigned progressive_digits Node.ordered_plus

theorem chooses_signed : Chooses signed .longer := by
  refine chooses_of readsAs_signed ⟨⟨trivial, by simp⟩, progressive_digits⟩ ?_
  refine Node.ordered_optional_cat Node.ordered_plus progressive_digits language_digits ?_ ?_
  · intro c w hw
    have hc : isDecimal c = true := hw.2 c List.mem_cons_self
    rw [← Bool.not_eq_true, CharSet.contains_pair_iff (a := '+') (b := '-') (by decide)]
    rintro (rfl | rfl)
    · exact absurd hc (by decide +kernel)
    · exact absurd hc (by decide +kernel)
  · exact fun hnil => hnil.1 rfl

theorem chooses_bool : Chooses bool .neither := by
  refine chooses_of readsAs_bool ⟨progressive_folded, progressive_folded⟩ ?_
  refine ordered_folded.alt ordered_folded progressive_folded progressive_folded
    (language_letters (by decide) (by decide)) (language_letters (by decide) (by decide)) ?_
  intro w w' rest rest' hw hw' heq
  -- The first letters differ in any case.
  cases w with
  | nil => cases hw
  | cons c w =>
    cases w' with
    | nil => cases hw'
    | cons d w' =>
      obtain rfl := (List.cons.inj heq).1
      have htrue := (List.cons.inj hw).1
      have hfalse := (List.cons.inj hw').1
      exact absurd (htrue.symm.trans hfalse) (by decide +kernel)

end Fragment

variable {κ : Type} [RecordKind κ] {type : ParameterType κ} {hint : String} {p : Placeholder}
  {config : ExpressionConfig}

namespace ParameterType

/-- Which texts the type of a hint takes first: words and integers the longer ones, other texts the
shorter ones. A truth value leaves no choice, and among floats length does not decide. -/
def preference : Option String → Preference
  | none => .shorter
  | some hint =>
    match hint with
    | "u8" | "u16" | "u32" | "u64" | "u128" | "usize" => .longer
    | "i8" | "i16" | "i32" | "i64" | "i128" | "isize" => .longer
    | "word" => .longer
    | "f32" | "f64" | "bool" => .neither
    | _ => .shorter

/-- The type tries texts in order of length. -/
def Chooses (t : ParameterType κ) (p : Preference) : Prop := Fragment.Chooses t.fragment p

end ParameterType

open ParameterType

namespace ParameterTypes

theorem chooses_of_get?_builtin (h : (builtin : ParameterTypes κ).get? hint = some type)
    (hfloat : ∀ t : FloatType, hint ≠ t.name) : type.Chooses (preference (some hint)) := by
  rcases eq_of_get?_builtin h with
    ⟨t, rfl, rfl⟩ | ⟨t, rfl, rfl⟩ | ⟨rfl, rfl⟩ | ⟨rfl, rfl⟩ | ⟨rfl, rfl⟩
  · cases t
    all_goals first
    | exact Fragment.chooses_unsigned
    | exact Fragment.chooses_signed
  · exact absurd rfl (hfloat t)
  · exact Fragment.chooses_text
  · exact Fragment.chooses_word
  · exact Fragment.chooses_bool

theorem preference_of_get?_builtin (h : (builtin : ParameterTypes κ).get? hint = none) :
    preference (some hint) = .shorter := by
  have hname := notMem_builtinNames h
  unfold preference
  dsimp only
  split
  all_goals first
  | rfl
  | exact absurd (by decide) hname

end ParameterTypes

/-- Arguments that come before others: where they first differ, the former length is tried first. -/
inductive Precedes : List Preference → List String → List String → Prop
  | here {p : Preference} {ps : List Preference} {a b : String} {as bs : List String} :
    p.Before a.length b.length → Precedes (p :: ps) (a :: as) (b :: bs)
  | later {p : Preference} {ps : List Preference} {a : String} {as bs : List String} :
    Precedes ps as bs → Precedes (p :: ps) (a :: as) (a :: bs)

theorem Precedes.asymm {ps : List Preference} {as bs : List String} (h : Precedes ps as bs) :
    ¬Precedes ps bs as := by
  induction h with
  | here hlt =>
    rintro (hgt | hrest)
    · exact hlt.asymm hgt
    · exact hlt.asymm hlt
  | later h ih =>
    rintro (hgt | hrest)
    · exact hgt.asymm hgt
    · exact ih hrest

namespace Piece

variable {pieces : List (Piece κ)} {prefs : List Preference} {groups : Nat} {pre s : List Char}
  {t u v : Thread}

/-- The types of the placeholders have no groups of their own and try texts in these orders. -/
def Choosing (pieces : List (Piece κ)) (prefs : List Preference) : Prop :=
  List.Forall₂ (fun s p => s.2.tree.groups = [] ∧ s.2.Chooses p) (pieces.filterMap slot?) prefs

theorem Choosing.progressive (h : Choosing pieces prefs) :
    ∀ n ∈ nodes groups pieces ++ [.look .textEnd], n.Progressive := by
  induction pieces generalizing groups prefs with
  | nil => simp [nodes, Node.Progressive]
  | cons p pieces ih =>
    cases p with
    | literal text =>
      intro n hn
      rw [nodes, List.append_assoc] at hn
      rcases List.mem_append.1 hn with hn | hn
      · obtain ⟨a, -, rfl⟩ := List.mem_map.1 hn
        trivial
      · exact ih h n hn
    | slot name type =>
      cases h with
      | cons hfirst h =>
        refine List.forall_mem_cons.2 ⟨?_, ih h⟩
        rw [Node.shift_eq_self hfirst.1]
        exact hfirst.2.progressive

/-- What a placeholder takes on the way to a thread is captured by its group in all that follow. -/
theorem captured_of_mem_ways {name : String} {type : ParameterType κ}
    (hr : Readable (slot name type :: pieces))
    (hn : ∀ n ∈ nodes groups (slot name type :: pieces) ++ [.look .textEnd], n.Progressive)
    (ht : t.Stands pre s)
    (hu : u ∈ (Node.group (groups + 1) (type.tree.shift (groups + 1))).ways t) :
    ∃ w rest, s = w ++ rest ∧ u.position = t.position + w.length ∧ u.Stands (pre ++ w) rest ∧
      ∀ x ∈ chainWays (nodes (type.opened + (groups + 1)) pieces ++ [.look .textEnd]) u,
        Captures.textOf ⟨pre ++ s, x.slots⟩ (groups + 1) = String.ofList w := by
  have htype : type.Readable := hr name type List.mem_cons_self
  obtain ⟨hgroup, hrest⟩ := List.forall_mem_cons.1 hn
  obtain ⟨w, rest, notes, rfl, -, rfl, -, hhead⟩ :=
    textOf_group ((Node.mem_ways hgroup).1 hu) ht fun notes => htype.le_of_notes
  refine ⟨w, rest, rfl, rfl, ht.after, fun x hx => ?_⟩
  obtain ⟨-, later, -, rfl, hlater, -⟩ := cut_of_chain hr.tail ht.after ((mem_chainWays hrest).1 hx)
  refine hhead later fun x hx => ?_
  have := hlater x hx
  omega

/-- Pieces try cuts in their order. -/
theorem pairwise_precedes (hr : Readable pieces) (h : Choosing pieces prefs)
    (ht : t.Stands pre s) :
    (chainWays (nodes groups pieces ++ [.look .textEnd]) t).Pairwise fun u v =>
      Precedes prefs ((opening groups pieces).map (Captures.textOf ⟨pre ++ s, u.slots⟩))
        ((opening groups pieces).map (Captures.textOf ⟨pre ++ s, v.slots⟩)) := by
  induction pieces generalizing t pre s groups prefs with
  | nil =>
    by_cases hend : Look.textEnd.holds t.before t.rest = true <;>
      simp [nodes, chainWays, Node.ways, hend]
  | cons p pieces ih =>
    cases p with
    | literal text =>
      rw [nodes, List.append_assoc, chainWays_literals]
      cases hread : t.readText text with
      | none => exact .nil
      | some u =>
        obtain ⟨rest, hrest, rfl⟩ := Thread.readText_eq_some_iff.1 hread
        have hs : s = text ++ rest := ht.rest.symm.trans hrest
        have hrest := @ih _ groups _ _ (t.after text rest []) hr.tail h ht.after
        rw [List.append_assoc, ← hs] at hrest
        simpa [opening] using hrest
    | slot name type =>
      have hprogressive : ∀ n ∈ nodes groups _ ++ [_], n.Progressive := h.progressive
      cases h with
      | @cons _ p _ prefs hfirst h =>
        rw [nodes, List.cons_append, chainWays]
        refine List.pairwise_flatMap.2 ⟨fun u hu => ?_, ?_⟩
        · obtain ⟨w, rest, rfl, -, hstands, hhead⟩ := captured_of_mem_ways hr hprogressive ht hu
          have hrest := @ih _ (type.opened + (groups + 1)) _ _ _ hr.tail h hstands
          rw [List.append_assoc] at hrest
          refine hrest.imp_of_mem fun hx hy hlt => ?_
          rw [opening, List.map_cons, List.map_cons, hhead _ hx, hhead _ hy]
          exact .later hlt
        · have hsorted : (Node.group (groups + 1) (type.tree.shift (groups + 1))).Ordered p := by
            rw [Node.shift_eq_self hfirst.1]
            exact hfirst.2.ordered.group
          refine (hsorted t).imp_of_mem fun hu hv hlt x hx y hy => ?_
          obtain ⟨w, -, -, hw, -, hheadx⟩ := captured_of_mem_ways hr hprogressive ht hu
          obtain ⟨w', -, -, hw', -, hheady⟩ := captured_of_mem_ways hr hprogressive ht hv
          rw [hw, hw', Preference.before_add] at hlt
          rw [opening, List.map_cons, List.map_cons, hheadx _ hx, hheady _ hy]
          exact .here (by rwa [String.length_ofList, String.length_ofList])

theorem progressive_tree (h : Choosing pieces prefs) : (tree pieces).Progressive :=
  Node.progressive_concat.2 (List.forall_mem_cons.2 ⟨trivial, h.progressive⟩)

theorem ways_tree {text : List Char} : (tree pieces).ways (.start [] text) =
    chainWays (nodes 0 pieces ++ [.look .textEnd]) (.start [] text) := by
  have hstart : Look.textStart.holds (Thread.start [] text).before (Thread.start [] text).rest = true :=
    rfl
  rw [tree, Node.ways_concat, List.cons_append, chainWays, Node.ways, if_pos hstart,
    List.flatMap_singleton]

/-- What the groups around the fragments capture comes before the arguments of other cuts. -/
theorem precedes_of_captures? {r : Regex} {text : String} {c : Captures} {args : List String}
    (hr : Readable pieces) (h : Choosing pieces prefs)
    (hcompile : Regex.compile (sourceOf pieces) = .ok r) (hc : r.captures? text = some c)
    (hcut : Cut pieces [] text.toList args) :
    args = (opening 0 pieces).map c.textOf ∨
      Precedes prefs ((opening 0 pieces).map c.textOf) args := by
  cases eq_of_compile_sourceOf hr hcompile
  obtain ⟨⟨start, u⟩, hsearch, rfl⟩ := Option.map_eq_some_iff.1 hc
  have hchain : ∃ v, Chain (nodes 0 pieces ++ [.look .textEnd]) (.start [] text.toList) v ∧ _ :=
    chain_of_cut hr hcut stands_start
  obtain ⟨v, hv, rfl⟩ := hchain
  have hmem := (mem_chainWays h.progressive).2 hv
  have hpairwise : List.Pairwise _
      (chainWays (nodes 0 pieces ++ [.look .textEnd]) (.start [] text.toList)) :=
    pairwise_precedes hr h stands_start
  rw [← ways_tree] at hmem hpairwise
  cases hways : (tree pieces).ways (.start [] text.toList) with
  | nil =>
    rw [hways] at hmem
    cases hmem
  | cons first others =>
    cases hsearch.symm.trans (Node.search_of_ways (progressive_tree h) hways)
    rw [hways] at hmem hpairwise
    rw [map_textOf_cons]
    rcases List.mem_cons.1 hmem with rfl | hmem
    · exact .inl rfl
    · exact .inr ((List.pairwise_cons.1 hpairwise).1 v hmem)

end Piece

end StepPhrase
