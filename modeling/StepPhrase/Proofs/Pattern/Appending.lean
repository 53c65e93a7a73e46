import StepPhrase.Proofs.Pattern.Scan

/-! Patterns one after the other. What the scan finds in the first is not changed by the second, and
the second is scanned as it would be alone, with all its bytes moved on, unless the first ends in a
character that may go with the next one. -/
namespace StepPhrase.Token

variable {position n : Nat} {pre s taken rest more : List Char} {c : Char} {token : Token}
  {tokens items others : List Token}

/-- The token of a text that comes after so many bytes. -/
def shifted (n : Nat) : Token → Token
  | literal s => literal s
  | placeholder p => placeholder { p with start := n + p.start }
  | openBrace position => openBrace (n + position)
  | closeBrace position => closeBrace (n + position)

/-- The tokens of two texts one after the other. A literal at the end of the first and one at the
start of the second become one. -/
def followedBy : List Token → List Token → List Token
  | [], others => others
  | [literal s], literal t :: others => literal (s ++ t) :: others
  | token :: tokens, others => token :: followedBy tokens others

/-- The scan comes to a last character that stands for itself only because nothing follows it: a
backslash or a brace. -/
def EndsOpen (s : List Char) : Prop :=
  ∃ pre items c, s = pre ++ [c] ∧ Scanned pre items [c] ∧ (c = '\\' ∨ c = '{' ∨ c = '}')

/-! The same text at another byte -/

theorem Next.shifted (h : Next position taken token rest) :
    Next (n + position) taken (token.shifted n) rest := by
  cases h with
  | escaped => exact .escaped
  | lastBackslash => exact .lastBackslash
  | doubled hc => exact .doubled hc
  | placeholder hcontent => exact .placeholder hcontent
  | openBrace hrest => exact .openBrace hrest
  | closeBrace hrest => exact .closeBrace hrest
  | plain hback hopen hclose => exact .plain hback hopen hclose

theorem map_shifted_prepend :
    (prepend c tokens).map (shifted n) = prepend c (tokens.map (shifted n)) := by
  cases tokens with
  | nil => rfl
  | cons token tokens => cases token <;> rfl

theorem map_shifted_join :
    (join token tokens).map (shifted n) = join (token.shifted n) (tokens.map (shifted n)) := by
  cases token with
  | literal s =>
    induction s with
    | nil => rfl
    | cons c s ih => exact map_shifted_prepend.trans (congrArg (prepend c) ih)
  | placeholder p => rfl
  | openBrace position => rfl
  | closeBrace position => rfl

theorem scan_add : scan (n + position) s =
    ((scan position s).map (List.map (shifted n))).mapError
      fun e => { e with position := n + e.position } := by
  induction position, s using scan_induction with
  | nil position =>
    rw [scan_nil, scan_nil]
    rfl
  | next hnext ih =>
    rw [scan_of_next hnext, scan_of_next hnext.shifted, Nat.add_assoc, ih, map_mapError, map_map,
      map_map]
    congr 2
    exact funext fun tokens => map_shifted_join.symm
  | malformed hbad =>
    rw [scan_of_malformed hbad, scan_of_malformed hbad]
    rfl

/-! More text after a scan -/

theorem Next.append (h : Next position taken token rest)
    (hopen : rest = [] → ∀ c, taken = [c] → ¬(c = '\\' ∨ c = '{' ∨ c = '}')) :
    Next position taken token (rest ++ more) := by
  cases h with
  | escaped => exact .escaped
  | lastBackslash => exact absurd (.inl rfl) (hopen rfl _ rfl)
  | doubled hc => exact .doubled hc
  | placeholder hcontent => exact .placeholder hcontent
  | openBrace hrest =>
    cases rest with
    | nil => exact absurd (.inr (.inl rfl)) (hopen rfl _ rfl)
    | cons d rest => exact .openBrace hrest
  | closeBrace hrest =>
    cases rest with
    | nil => exact absurd (.inr (.inr rfl)) (hopen rfl _ rfl)
    | cons d rest => exact .closeBrace hrest
  | plain hback hbrace hclose => exact .plain hback hbrace hclose

/-- A scan that came through a text comes through it also with more text after it. -/
theorem Scanned.append (h : Scanned pre items rest) (hopen : rest = [] → ¬EndsOpen pre) :
    Scanned pre items (rest ++ more) := by
  induction h with
  | start => exact .start
  | @next pre taken rest tokens token h hnext ih =>
    have hscanned : Scanned pre tokens (taken ++ (rest ++ more)) := by
      rw [← List.append_assoc]
      exact ih fun hnil => absurd (List.append_eq_nil_iff.1 hnil).1 hnext.ne_nil
    -- a step looks past what it takes only at the end of the text, and there the end is not open
    refine hscanned.next (hnext.append fun hnil c htaken hc => hopen hnil ?_)
    subst hnil htaken
    exact ⟨pre, tokens, c, rfl, h, hc⟩

theorem prepend_followedBy :
    prepend c (followedBy tokens others) = followedBy (prepend c tokens) others := by
  cases tokens with
  | nil =>
    cases others with
    | nil => rfl
    | cons token others => cases token <;> rfl
  | cons token tokens =>
    cases token with
    | literal s =>
      cases tokens with
      | nil =>
        cases others with
        | nil => rfl
        | cons token others => cases token <;> rfl
      | cons token tokens => rfl
    | placeholder p => rfl
    | openBrace position => rfl
    | closeBrace position => rfl

theorem join_followedBy :
    join token (followedBy tokens others) = followedBy (join token tokens) others := by
  cases token with
  | literal s =>
    induction s with
    | nil => rfl
    | cons c s ih => exact (congrArg (prepend c) ih).trans prepend_followedBy
  | placeholder p => rfl
  | openBrace position => rfl
  | closeBrace position => rfl

theorem foldr_join_eq_followedBy :
    items.foldr join others = followedBy (items.foldr join []) others := by
  induction items with
  | nil => rfl
  | cons token items ih => rw [List.foldr_cons, ih, join_followedBy, List.foldr_cons]

/-- After a text that the scan comes through to its end, the next one is scanned as it is alone. -/
theorem Scanned.scan_append (h : Scanned pre items []) (hopen : ¬EndsOpen pre) :
    scan 0 (pre ++ more) = ((scan 0 more).map fun others =>
      followedBy (items.foldr join []) (others.map (shifted (byteLength pre)))).mapError
        fun e => { e with position := byteLength pre + e.position } := by
  have hscanned : Scanned pre items more := h.append fun _ => hopen
  rw [scan_of_scanned hscanned, ← Nat.add_zero (byteLength pre), scan_add, map_mapError, map_map,
    Nat.add_zero]
  congr 2
  exact funext fun others => foldr_join_eq_followedBy

/-! How much a scan has found -/

/-- Literals count for each of their characters, and other tokens once. -/
def weight : Token → Nat
  | literal s => s.length
  | placeholder _ => 1
  | openBrace _ => 1
  | closeBrace _ => 1

/-- How much the tokens are together. -/
def total : List Token → Nat
  | [] => 0
  | token :: tokens => token.weight + total tokens

theorem total_cons : total (token :: tokens) = token.weight + total tokens := rfl

theorem total_prepend : total (prepend c tokens) = total tokens + 1 := by
  cases tokens with
  | nil => rfl
  | cons token tokens =>
    cases token with
    | literal s =>
      change s.length + 1 + total tokens = s.length + total tokens + 1
      omega
    | placeholder p => exact Nat.add_comm _ _
    | openBrace position => exact Nat.add_comm _ _
    | closeBrace position => exact Nat.add_comm _ _

theorem total_join : total (join token tokens) = token.weight + total tokens := by
  cases token with
  | literal s =>
    induction s with
    | nil => exact (Nat.zero_add _).symm
    | cons c s ih =>
      change total (prepend c (join (literal s) tokens)) = s.length + 1 + total tokens
      rw [total_prepend, ih]
      change s.length + total tokens + 1 = s.length + 1 + total tokens
      omega
  | placeholder p => rfl
  | openBrace position => rfl
  | closeBrace position => rfl

theorem total_foldr_join : total (items.foldr join others) = total items + total others := by
  induction items with
  | nil => exact (Nat.zero_add _).symm
  | cons token items ih => rw [List.foldr_cons, total_join, ih, total_cons, Nat.add_assoc]

theorem total_followedBy : total (followedBy tokens others) = total tokens + total others := by
  fun_induction followedBy tokens others with
  | case1 others => exact (Nat.zero_add _).symm
  | case2 s t others =>
    change (s ++ t).length + total others = s.length + 0 + (t.length + total others)
    rw [List.length_append]
    omega
  | case3 token tokens others hnot ih => rw [total_cons, total_cons, ih, Nat.add_assoc]

theorem total_map_shifted : total (tokens.map (shifted n)) = total tokens := by
  induction tokens with
  | nil => rfl
  | cons token tokens ih =>
    rw [List.map_cons, total_cons, total_cons, ih]
    cases token <;> rfl

/-- Alone, a backslash or a brace stands for itself. -/
theorem scan_singleton (hc : c = '\\' ∨ c = '{' ∨ c = '}') :
    ∃ token, scan position [c] = .ok [token] ∧ token.weight = 1 := by
  have hall : ∀ token, Next position [c] token [] → scan position [c] = .ok (join token []) := by
    intro token hnext
    have hscan := scan_of_next hnext
    rwa [List.append_nil, scan_nil] at hscan
  rcases hc with rfl | rfl | rfl
  · exact ⟨_, hall _ .lastBackslash, rfl⟩
  · exact ⟨_, hall _ (.openBrace (by simp)), rfl⟩
  · exact ⟨_, hall _ (.closeBrace (by simp)), rfl⟩

/-- Twice, it is a literal character. -/
theorem scan_pair (hc : c = '\\' ∨ c = '{' ∨ c = '}') :
    scan position [c, c] = .ok [literal [c]] := by
  have hnext : Next position [c, c] (literal [c]) [] := by
    rcases hc with rfl | hc
    · exact .escaped
    · exact .doubled hc
  have hscan := scan_of_next hnext
  rwa [List.append_nil, scan_nil] at hscan

/-- An open end and the same character once more are one literal character, and not two. -/
theorem EndsOpen.exists_ne (h : EndsOpen s) : ∃ c tokens others, scan 0 s = .ok tokens ∧
    scan 0 [c] = .ok others ∧
    scan 0 (s ++ [c]) ≠ .ok (followedBy tokens (others.map (shifted (byteLength s)))) := by
  obtain ⟨pre, items, c, rfl, hscanned, hc⟩ := h
  obtain ⟨token, hlast, hweight⟩ := @scan_singleton (byteLength pre) c hc
  obtain ⟨other, hother, hweight'⟩ := @scan_singleton 0 c hc
  have htwice : Scanned pre items ([c] ++ [c]) := hscanned.append (by simp)
  have htokens : scan 0 (pre ++ [c]) = .ok (items.foldr join [token]) := by
    rw [scan_of_scanned hscanned, hlast]
    rfl
  refine ⟨c, _, _, htokens, hother, fun heq => ?_⟩
  have hpair : scan 0 (pre ++ [c] ++ [c]) = .ok (items.foldr join [literal [c]]) := by
    rw [List.append_assoc, scan_of_scanned htwice, List.singleton_append, scan_pair hc]
    rfl
  -- the two characters count once in the whole text, and twice in the texts apart
  have htotal := congrArg total (Except.ok.inj (hpair.symm.trans heq))
  rw [total_followedBy, total_map_shifted, total_foldr_join, total_foldr_join, total_cons,
    total_cons, total_cons, hweight, hweight'] at htotal
  change _ + (1 + 0) = _ + (1 + 0) + (1 + 0) at htotal
  omega

/-- Of two patterns one after the other, the second is scanned as it is alone and all its bytes are
moved on by the length of the first, if the first does not end open; and only then for each second
one. -/
theorem ofPattern_append_iff {q : String} (h : ofPattern q = .ok tokens) :
    ¬EndsOpen q.toList ↔ ∀ p : String,
      (∀ others, ofPattern p = .ok others →
        ofPattern (q ++ p) =
          .ok (followedBy tokens (others.map (shifted (byteLength q.toList))))) ∧
      ∀ e, ofPattern p = .error e →
        ofPattern (q ++ p) = .error { e with position := byteLength q.toList + e.position } := by
  constructor
  · intro hopen p
    obtain ⟨items, hscanned, rfl⟩ := ofPattern_eq_ok_iff.1 h
    have happend : scan 0 (q.toList ++ p.toList) = _ := hscanned.scan_append hopen
    rw [ofPattern, ofPattern, String.toList_append, happend]
    constructor
    · intro others hp
      rw [hp]
      rfl
    · intro e hp
      rw [hp]
      rfl
  · intro hall hopen
    obtain ⟨c, tokens', others, htokens, hothers, hne⟩ := hopen.exists_ne
    cases htokens.symm.trans h
    have happend := (hall (String.ofList [c])).1 others (by rwa [ofPattern, String.toList_ofList])
    rw [ofPattern, String.toList_append, String.toList_ofList] at happend
    exact hne happend

/-- Two literals join where the first pattern ends, and its last letter takes two bytes. -/
theorem ofPattern_append_iff_accented : ofPattern "\x7bn\x7d é" =
      .ok [placeholder ⟨"n", none, 0⟩, literal [' ', 'é']] ∧
    ¬EndsOpen "\x7bn\x7d é".toList ∧
    ofPattern ("\x7bn\x7d é" ++ "e \x7bm\x7d") = .ok [placeholder ⟨"n", none, 0⟩,
      literal [' ', 'é', 'e', ' '], placeholder ⟨"m", none, 8⟩] := by
  have h : ofPattern "\x7bn\x7d é" =
      .ok [placeholder ⟨"n", none, 0⟩, literal [' ', 'é']] := by decide +kernel
  have hopen : ¬EndsOpen "\x7bn\x7d é".toList := by
    rintro ⟨pre, items, c, hs, -, hc⟩
    have hlast := congrArg List.getLast? hs
    rw [List.getLast?_concat] at hlast
    cases hlast
    revert hc
    decide
  have hp : ofPattern "e \x7bm\x7d" =
      .ok [literal ['e', ' '], placeholder ⟨"m", none, 2⟩] := by decide +kernel
  exact ⟨h, hopen, ((ofPattern_append_iff h).1 hopen "e \x7bm\x7d").1 _ hp⟩

end StepPhrase.Token
