import StepPhrase.Proofs.Expression.Alignment

/-! When expressions match whole texts only. -/
namespace StepPhrase

open Regex

namespace Regex

/-- Every match is of the whole text. -/
def Anchored (r : Regex) : Prop := ∀ text c, r.captures? text = some c → c.get? 0 = some text

variable {f t : List Char} {r : Reading} {m : Nat} {u v : Thread}

/-- What is read of two placeholders if the first fragment is left open in a comment, which ends
inside of the second. -/
def Reading.broken (r : Reading) : Reading :=
  let start := ({} : Reading).pushLook .textStart
  { branches :=
      [.concat [{ node := .literal ['y'] }],
        .concat ({ node := .look .textStart } :: { node := .literal ['x'] } ::
          (start.enclose r).items)],
    items := [{ node := .look .textEnd },
      { node := .group (r.groups + 2) (.literal [']']), height := 1 }],
    groups := r.groups + 2,
    names := (start.enclose r).names }

/-- A text that is not sealed takes in the parenthesis after it, up to the end of the line. -/
theorem Whole.run_broken (h : Whole f) (hs : ¬ Sealed f) :
    Reading.run (f.length + 16) {} ('^' :: '(' :: (f ++ ")([\n)x^|y|(])$".toList)) =
      some (.broken (.ofText f)) := by
  obtain ⟨k, hk, d, -, hsealed, hrun⟩ := h.run_within
  cases d with
  | false => exact absurd (hsealed.2 rfl) hs
  | true =>
    obtain ⟨m, hm⟩ : ∃ m, f.length + 14 = k + (m + 10 + 1) := ⟨f.length + 3 - k, by omega⟩
    have hhead : (f ++ ")([\n)x^|y|(])$".toList).head? ≠ some '?' := h.head_append_ne
    have hpast : Reading.pastComment true ")([\n)x^|y|(])$".toList = ')' :: "x^|y|(])$".toList := by
      decide +kernel
    have hcloses : Reading.Closes true ")([\n)x^|y|(])$".toList := ⟨rfl, by rw [hpast]; decide⟩
    have hstart : Reading.AtStart (({} : Reading).pushLook .textStart).openCapture :=
      Reading.atStart_openCapture rfl
    rw [show f.length + 16 = f.length + 14 + 1 + 1 from rfl, Piece.run_start rfl,
      Reading.run_open rfl hhead, hm]
    rcases hrun _ _ hstart hcloses (m + 10 + 1) with hsome | hnone
    · rw [hsome, hpast, Reading.run_close h.outer]
      rfl
    · exact absurd rfl hnone.2

theorem node_broken : (Reading.broken r).body.node =
    .alt (.cat (.look .textStart) (.cat (.group 1 (r.body.node.shift 1))
        (.cat (.literal ['x']) (.look .textStart))))
      (.alt (.literal ['y']) (.cat (.group (r.groups + 2) (.literal [']'])) (.look .textEnd))) := rfl

/-- What is left of the anchors holds no match that is longer than one character. -/
theorem position_of_matches_broken (h : (Reading.broken r).body.node.Matches u v) :
    v.position = u.position + 1 := by
  rw [node_broken] at h
  rcases h with ⟨u₁, -, u₂, -, u₃, hx, hstart, rfl⟩ | hy | ⟨u₁, ⟨u₂, hclose, rfl⟩, -, rfl⟩
  · obtain ⟨rest, -, rfl⟩ := Thread.readText_eq_some_iff.1 hx
    simp [Thread.after, Look.holds] at hstart
  · obtain ⟨rest, -, rfl⟩ := Thread.readText_eq_some_iff.1 hy
    rfl
  · obtain ⟨rest, -, rfl⟩ := Thread.readText_eq_some_iff.1 hclose
    rfl

theorem not_anchored_of_node {r : Regex} {s : Reading}
    (hr : r.program = (Reading.broken s).body.node.program) :
    ¬ r.Anchored := by
  intro hanchored
  have hmatch : ((Reading.broken s).body.node.program.search "xyz".toList).isSome = true := by
    refine Node.search_isSome_iff.2
      ⟨['x'], ['y', 'z'], (Thread.start ['x'] ['y', 'z']).after ['y'] ['z'] [], rfl, ?_⟩
    rw [node_broken]
    exact .inr (.inl rfl)
  obtain ⟨⟨start, v⟩, hsearch⟩ := Option.isSome_iff_exists.1 hmatch
  have hcaptures : r.captures? "xyz" =
      some ⟨"xyz".toList, (0, start) :: (1, v.position) :: v.slots⟩ := by
    rw [captures?, hr, hsearch]
    rfl
  obtain ⟨pre, rest, u, htext, rfl, hu, rfl⟩ := Node.matches_of_search hsearch
  have hposition := position_of_matches_broken hu
  have hwhole : String.ofList (("xyz".toList.drop pre.length).take (u.position - pre.length)) =
      "xyz" := Option.some.inj (hanchored _ _ hcaptures)
  have hlength := congrArg (·.toList.length) hwhole
  simp only [hposition, Thread.start, String.toList_ofList, List.length_take] at hlength
  have hthree : "xyz".toList.length = 3 := rfl
  omega

end Regex

variable {κ : Type} [RecordKind κ] {types : ParameterTypes κ} {t u : ParameterType κ}

theorem toList_sourceOf_pair {n m : String} (hu : u.fragment = "[\n)x^|y|(]") :
    (Piece.sourceOf [.slot n t, .slot m u]).toList =
      '^' :: '(' :: (t.fragment.toList ++ ")([\n)x^|y|(])$".toList) := by
  rw [Piece.toList_sourceOf]
  simp [Piece.source, hu]

theorem not_anchored_of_not_sealed {n m : String} {r : Regex} (ht : Whole t.fragment.toList)
    (hs : ¬ Sealed t.fragment.toList) (hu : u.fragment = "[\n)x^|y|(]")
    (hr : Regex.compile (Piece.sourceOf [.slot n t, .slot m u]) = .ok r) : ¬ r.Anchored := by
  obtain ⟨node, hnode, rfl⟩ := compile_eq_ok hr
  obtain ⟨hwhole, rfl⟩ := Node.ofText?_eq_some_iff.1 hnode
  have hrun := ht.run_broken hs
  rw [← toList_sourceOf_pair (n := n) (m := m) hu] at hrun
  have hlength : (Piece.sourceOf [.slot n t, .slot m u]).toList.length =
      t.fragment.toList.length + 16 := by
    rw [toList_sourceOf_pair hu]
    simp
  rw [← hlength] at hrun
  apply not_anchored_of_node (s := .ofText t.fragment.toList)
  rw [Option.some.inj (hwhole.run.symm.trans hrun)]

namespace Expression

/-- Expressions match whole texts only, unless a fragment ends in a comment; any such fragment lets
a class after it undo the anchors. -/
theorem anchored_iff_sealed (hreach : types.Reachable) :
    (∀ config pattern e, (compile types config pattern).value = .ok e →
      (∀ s ∈ e.slots, Sealed s.type.fragment.toList) → e.regex.Anchored) ∧
    ∀ config pattern e n m t u, (compile types config pattern).value = .ok e →
      (Piece.ofPattern types config pattern).value = .ok [.slot n t, .slot m u] →
      u.fragment = "[\n)x^|y|(]" → (e.regex.Anchored ↔ Sealed t.fragment.toList) := by
  constructor
  · intro config pattern e h hsealed text c hc
    obtain ⟨tokens, pieces, -, -, hmade⟩ := exists_madeOf h
    exact (Piece.cut_of_captures? (hmade.readable hreach hsealed) hmade.regex hc).1
  · intro config pattern e n m t u h hpieces hu
    obtain ⟨tokens, pieces, -, hpieces', hmade⟩ := exists_madeOf h
    cases hpieces.symm.trans hpieces'
    have haccepted := hmade.accepted hreach
    refine ⟨fun hanchored => ?_, fun hs text c hc => ?_⟩
    · by_contra hs
      have ht : t.Accepted := haccepted n t List.mem_cons_self
      exact not_anchored_of_not_sealed ht.whole hs hu hmade.regex hanchored
    · have hr : Piece.Readable [.slot n t, .slot m u] := by
        intro name type hmem
        refine ⟨(haccepted name type hmem).whole, ?_⟩
        simp only [List.mem_cons, List.not_mem_nil, or_false, Piece.slot.injEq] at hmem
        rcases hmem with ⟨-, rfl⟩ | ⟨-, rfl⟩
        · exact hs
        · rw [hu]
          decide +kernel
      exact (Piece.cut_of_captures? hr hmade.regex hc).1

theorem anchored_iff_sealed_comment : ∃ (t u : ParameterType Suite.RecordType)
    (e e' : Expression Suite.RecordType),
    ParameterType.ofFragment "t" "(?x)a#" (fun s => .ok ⟨.text, s⟩) = .ok t ∧
      ParameterType.ofFragment "u" "[\n)x^|y|(]" (fun s => .ok ⟨.text, s⟩) = .ok u ∧
      (compile ((ParameterTypes.define ∅ t).value.1.define u).value.1 {} "{p:t}{q:u}").value =
        .ok e ∧ ¬ e.regex.Anchored ∧
      (compile ((ParameterTypes.define ∅ t).value.1.define u).value.1 {} "all of {q:u} {r}").value =
        .ok e' ∧ e'.regex.Anchored := by
  have ht : ParameterType.ofFragment "t" "(?x)a#" (fun s => .ok ⟨.text, s⟩) =
      .ok (⟨"t", "(?x)a#", 0, fun s => .ok ⟨.text, s⟩⟩ : ParameterType Suite.RecordType) :=
    ParameterType.ofFragment_eq_ok (by decide +kernel)
  have hu : ParameterType.ofFragment "u" "[\n)x^|y|(]" (fun s => .ok ⟨.text, s⟩) =
      .ok (⟨"u", "[\n)x^|y|(]", 0, fun s => .ok ⟨.text, s⟩⟩ : ParameterType Suite.RecordType) :=
    ParameterType.ofFragment_eq_ok (by decide +kernel)
  obtain ⟨e, he, -⟩ : ∃ e, (compile ((ParameterTypes.define ∅ (⟨"t", "(?x)a#", 0,
      fun s => .ok ⟨.text, s⟩⟩ : ParameterType Suite.RecordType)).value.1.define ⟨"u",
        "[\n)x^|y|(]", 0, fun s => .ok ⟨.text, s⟩⟩).value.1 {} "{p:t}{q:u}").value = .ok e ∧ True :=
    exists_ok_of_any (by decide +kernel)
  obtain ⟨e', he', hsealed⟩ : ∃ e, (compile ((ParameterTypes.define ∅ (⟨"t", "(?x)a#", 0,
      fun s => .ok ⟨.text, s⟩⟩ : ParameterType Suite.RecordType)).value.1.define ⟨"u",
        "[\n)x^|y|(]", 0, fun s => .ok ⟨.text, s⟩⟩).value.1 {} "all of {q:u} {r}").value = .ok e ∧
      ∀ s ∈ e.slots, Sealed s.type.fragment.toList :=
    exists_ok_of_any (by decide +kernel)
  have htokens : Token.ofPattern "{p:t}{q:u}" =
      .ok [.placeholder ⟨"p", some "t", 0⟩, .placeholder ⟨"q", some "u", 5⟩] := by decide +kernel
  obtain ⟨hsafe, hpair⟩ := anchored_iff_sealed (.define (.define .empty ht) hu)
  refine ⟨_, _, e, e', ht, hu, he, ?_, he', hsafe _ _ _ he' hsealed⟩
  have hpieces := hpair {} "{p:t}{q:u}" e "p" "q" _ _ he (by rw [Piece.ofPattern, htokens]; rfl) rfl
  rw [hpieces]
  decide +kernel

end Expression

end StepPhrase
