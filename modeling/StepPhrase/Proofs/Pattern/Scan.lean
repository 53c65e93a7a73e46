import StepPhrase.Proofs.Except
import StepPhrase.Proofs.Pattern.Placeholder

/-! Patterns are scanned from left to right, token by token, to the end or to the first placeholder
that is malformed. -/
namespace StepPhrase

open Text

namespace Placeholder

variable {body content name : List Char} {hint : Option (List Char)} {fault : BraceFault}

theorem IsName.head_append {rest : List Char} (h : IsName name) :
    ∃ c ∈ (name ++ rest).head?, isNameStart c = true := by
  obtain ⟨⟨c, hc, hstart⟩, -⟩ := h
  exact ⟨c, by simp [List.head?_append, Option.mem_def.1 hc], hstart⟩

theorem Content.head_append {rest : List Char} (h : Content content name hint) :
    ∃ c ∈ (content ++ rest).head?, isNameStart c = true := by
  cases h with
  | hinted hname =>
    rw [List.append_assoc]
    exact hname.head_append
  | plain hname =>
    rw [List.append_assoc]
    exact hname.head_append

theorem Malformed.head (h : Malformed body name fault) :
    ∃ c ∈ body.head?, isNameStart c = true := by
  cases h with
  | parted hname => exact hname.head_append
  | badHint hname => exact hname.head_append
  | openHint hname => exact hname.head_append
  | unclosed hname => exact hname.head_append

end Placeholder

namespace Token

/-- What a pattern goes on with at a byte: the characters that are taken, the token that they stand
for, and what comes after them. Literal characters come one by one. -/
inductive Next (position : Nat) : List Char → Token → List Char → Prop
  | escaped {c : Char} {rest : List Char} : Next position ['\\', c] (literal [c]) rest
  | lastBackslash : Next position ['\\'] (literal ['\\']) []
  | doubled {c : Char} {rest : List Char} : c = '{' ∨ c = '}' →
    Next position [c, c] (literal [c]) rest
  | placeholder {content name rest : List Char} {hint : Option (List Char)} :
    Placeholder.Content content name hint →
      Next position ('{' :: (content ++ ['}']))
        (placeholder ⟨String.ofList name, hint.map String.ofList, position⟩) rest
  | openBrace {rest : List Char} : (∀ c ∈ rest.head?, c ≠ '{' ∧ isNameStart c = false) →
    Next position ['{'] (openBrace position) rest
  | closeBrace {rest : List Char} : (∀ c ∈ rest.head?, c ≠ '}') →
    Next position ['}'] (closeBrace position) rest
  | plain {c : Char} {rest : List Char} : c ≠ '\\' → c ≠ '{' → c ≠ '}' →
    Next position [c] (literal [c]) rest

/-- The scan of a pattern has come through its first part, with these tokens, and the last part is
left. -/
inductive Scanned : List Char → List Token → List Char → Prop
  | start {s : List Char} : Scanned [] [] s
  | next {pre taken rest : List Char} {tokens : List Token} {token : Token} :
    Scanned pre tokens (taken ++ rest) → Next (byteLength pre) taken token rest →
      Scanned (pre ++ taken) (tokens ++ [token]) rest

/-- Puts a token in front, where the characters of literals join. -/
def join : Token → List Token → List Token
  | literal s, tokens => s.foldr prepend tokens
  | token, tokens => token :: tokens

variable {position : Nat} {pre s taken rest body name : List Char} {token : Token}
  {tokens items : List Token} {fault : BraceFault} {error : PlaceholderError}

theorem Next.ne_nil (h : Next position taken token rest) : taken ≠ [] := by
  cases h <;> exact List.cons_ne_nil _ _

theorem scan_nil : scan position [] = .ok [] := by
  rw [scan.eq_def]

theorem scan_placeholder (h : ∃ c ∈ body.head?, isNameStart c = true) :
    scan position ('{' :: body) = (Placeholder.read position body).bind fun f =>
      (scan f.stop f.after).map (placeholder f.placeholder :: ·) := by
  obtain ⟨c, hc, hstart⟩ := h
  obtain ⟨rest, rfl⟩ := List.head?_eq_some_iff.1 hc
  have hne : c ≠ '{' := by
    rintro rfl
    exact absurd hstart (by decide)
  rw [scan.eq_def]
  dsimp only
  rw [if_neg (by decide), if_pos rfl, if_neg hne, if_pos hstart]
  split
  · rename_i e hread
    rw [hread]
    rfl
  · rename_i f hread
    rw [hread]
    rfl

/-- The scan takes each token in its turn. -/
theorem scan_of_next (h : Next position taken token rest) : scan position (taken ++ rest) =
    (scan (position + byteLength taken) rest).map (join token) := by
  cases h with
  | @escaped c =>
    rw [List.cons_append, List.cons_append, List.nil_append, scan.eq_def]
    dsimp only
    rw [if_pos rfl, Nat.add_assoc]
    rfl
  | lastBackslash =>
    rw [List.append_nil, scan_nil, scan.eq_def]
    rfl
  | doubled hc =>
    rw [List.cons_append, List.cons_append, List.nil_append, scan.eq_def]
    dsimp only
    rcases hc with rfl | rfl
    · rw [if_neg (by decide), if_pos rfl, if_pos rfl]
      rfl
    · rw [if_neg (by decide), if_neg (by decide), if_pos rfl, if_pos rfl]
      rfl
  | @placeholder content name _ hint h =>
    have hhead : ∃ c ∈ (content ++ '}' :: rest).head?, isNameStart c = true := h.head_append
    have hsize : position + 1 + byteLength content + 1 =
        position + byteLength ('{' :: (content ++ ['}'])) := by
      rw [byteLength_braced]
      omega
    rw [List.cons_append, List.append_assoc, List.singleton_append, scan_placeholder hhead,
      Placeholder.read_of_content h, ← hsize]
    rfl
  | openBrace h =>
    rw [List.cons_append, List.nil_append, scan.eq_def]
    dsimp only
    rw [if_neg (by decide), if_pos rfl]
    cases rest with
    | nil =>
      rw [scan_nil]
      rfl
    | cons d rest =>
      obtain ⟨hne, hstart⟩ := h d rfl
      dsimp only
      rw [if_neg hne, if_neg (by simp [hstart])]
      rfl
  | closeBrace h =>
    rw [List.cons_append, List.nil_append, scan.eq_def]
    dsimp only
    rw [if_neg (by decide), if_neg (by decide), if_pos rfl]
    cases rest with
    | nil =>
      rw [scan_nil]
      rfl
    | cons d rest =>
      dsimp only
      rw [if_neg (h d rfl)]
      rfl
  | @plain c _ hback hopen hclose =>
    rw [List.cons_append, List.nil_append, scan.eq_def]
    dsimp only
    rw [if_neg hback, if_neg hopen, if_neg hclose]
    rfl

theorem scan_of_malformed (h : Placeholder.Malformed body name fault) :
    scan position ('{' :: body) = .error ⟨fault, position, some (String.ofList name)⟩ := by
  rw [scan_placeholder h.head, Placeholder.read_of_malformed h]
  rfl

/-- A scan that is not at the end goes on, but for a malformed placeholder. -/
theorem next_or_malformed (hs : s ≠ []) :
    (∃ taken token rest, s = taken ++ rest ∧ Next position taken token rest) ∨
      ∃ body name fault, s = '{' :: body ∧ Placeholder.Malformed body name fault := by
  obtain ⟨c, rest, rfl⟩ := List.exists_cons_of_ne_nil hs
  by_cases hback : c = '\\'
  · subst hback
    cases rest with
    | nil => exact .inl ⟨_, _, _, rfl, .lastBackslash⟩
    | cons d rest => exact .inl ⟨['\\', d], _, rest, rfl, .escaped⟩
  · by_cases hopen : c = '{'
    · subst hopen
      by_cases hdouble : rest.head? = some '{'
      · obtain ⟨rest, rfl⟩ := List.head?_eq_some_iff.1 hdouble
        exact .inl ⟨['{', '{'], _, rest, rfl, .doubled (.inl rfl)⟩
      · by_cases hstart : ∃ d ∈ rest.head?, isNameStart d = true
        · rcases Placeholder.content_or_malformed hstart with
            ⟨content, name, hint, after, rfl, hcontent⟩ | ⟨name, fault, hbad⟩
          · exact .inl ⟨'{' :: (content ++ ['}']), _, after, by simp, .placeholder hcontent⟩
          · exact .inr ⟨rest, name, fault, rfl, hbad⟩
        · refine .inl ⟨['{'], _, rest, rfl, .openBrace fun d hd => ⟨?_, ?_⟩⟩
          · rintro rfl
            exact hdouble hd
          · by_contra hne
            exact hstart ⟨d, hd, by simpa using hne⟩
    · by_cases hclose : c = '}'
      · subst hclose
        by_cases hdouble : rest.head? = some '}'
        · obtain ⟨rest, rfl⟩ := List.head?_eq_some_iff.1 hdouble
          exact .inl ⟨['}', '}'], _, rest, rfl, .doubled (.inr rfl)⟩
        · refine .inl ⟨['}'], _, rest, rfl, .closeBrace fun d hd => ?_⟩
          rintro rfl
          exact hdouble hd
      · exact .inl ⟨[c], _, rest, rfl, .plain hback hopen hclose⟩

/-- A text is scanned token by token, up to its end or to a malformed placeholder. -/
theorem scan_induction {P : Nat → List Char → Prop} (nil : ∀ position, P position [])
    (next : ∀ {position : Nat} {taken : List Char} {token : Token} {rest : List Char},
      Next position taken token rest → P (position + byteLength taken) rest →
        P position (taken ++ rest))
    (malformed : ∀ {position : Nat} {body name : List Char} {fault : BraceFault},
      Placeholder.Malformed body name fault → P position ('{' :: body))
    (position : Nat) (s : List Char) : P position s := by
  induction hn : s.length using Nat.strongRecOn generalizing position s with
  | ind n ih =>
    by_cases hs : s = []
    · subst hs
      exact nil position
    · rcases @next_or_malformed position s hs with
        ⟨taken, token, rest, rfl, hnext⟩ | ⟨body, name, fault, rfl, hbad⟩
      · have hlt : rest.length < n := by
          have := List.length_pos_iff.2 hnext.ne_nil
          rw [List.length_append] at hn
          omega
        exact next hnext (ih _ hlt _ _ rfl)
      · exact malformed hbad

theorem scan_of_scanned (h : Scanned pre items rest) :
    scan 0 (pre ++ rest) = (scan (byteLength pre) rest).map (items.foldr join) := by
  induction h with
  | @start s =>
    rw [byteLength, List.nil_append]
    cases scan 0 s with
    | error e => rfl
    | ok tokens => rfl
  | next h hnext ih =>
    rw [List.append_assoc, ih, scan_of_next hnext, byteLength_append, map_map]
    simp [Function.comp_def]

/-- A scan can be brought to the end of the pattern or to a malformed placeholder. -/
theorem Scanned.exists_stop (h : Scanned pre items rest) :
    (∃ more, Scanned (pre ++ rest) (items ++ more) []) ∨
      ∃ before items body name fault, pre ++ rest = before ++ '{' :: body ∧
        Scanned before items ('{' :: body) ∧ Placeholder.Malformed body name fault := by
  generalize hposition : byteLength pre = position
  induction position, rest using scan_induction generalizing pre items with
  | nil position =>
    rw [List.append_nil]
    exact .inl ⟨[], by rwa [List.append_nil]⟩
  | @next position taken token rest hnext ih =>
    subst hposition
    rw [← List.append_assoc]
    refine (ih (h.next hnext) byteLength_append).imp_left fun ⟨more, hmore⟩ => ⟨token :: more, ?_⟩
    simpa using hmore
  | malformed hbad => exact .inr ⟨pre, items, _, _, _, rfl, h, hbad⟩

/-- The scan stood before each token that it found, and went on with it. -/
theorem Scanned.exists_next {before after : List Token}
    (h : Scanned pre (before ++ token :: after) rest) :
    ∃ pre' taken post, pre ++ rest = pre' ++ (taken ++ post) ∧
      Scanned pre' before (taken ++ post) ∧ Next (byteLength pre') taken token post := by
  generalize hall : before ++ token :: after = all at h
  induction h generalizing after with
  | start => cases before <;> cases hall
  | @next pre taken rest tokens last h hnext ih =>
    rcases List.eq_nil_or_concat after with rfl | ⟨after, last', rfl⟩
    · obtain ⟨rfl, hlast⟩ := List.append_inj' hall rfl
      cases hlast
      exact ⟨pre, taken, rest, List.append_assoc .., h, hnext⟩
    · have hsplit : (before ++ token :: after) ++ [last'] = tokens ++ [last] := by
        simpa using hall
      obtain ⟨htokens, -⟩ := List.append_inj' hsplit rfl
      rw [List.append_assoc]
      exact ih htokens

/-- What the scan finds in a pattern that it comes through, with literals joined. -/
theorem ofPattern_of_scanned {pattern : String} (h : Scanned pattern.toList items []) :
    ofPattern pattern = .ok (items.foldr join []) := by
  have hscan := scan_of_scanned h
  rw [List.append_nil, scan_nil] at hscan
  exact hscan

theorem ofPattern_of_malformed {pattern : String} (hs : pattern.toList = pre ++ '{' :: body)
    (h : Scanned pre items ('{' :: body)) (hbad : Placeholder.Malformed body name fault) :
    ofPattern pattern = .error ⟨fault, byteLength pre, some (String.ofList name)⟩ := by
  rw [ofPattern, hs, scan_of_scanned h, scan_of_malformed hbad]
  rfl

/-- The scan of a pattern fails just at a malformed placeholder, and all before it was scanned. -/
theorem ofPattern_eq_error_iff {pattern : String} : ofPattern pattern = .error error ↔
    ∃ pre items body name fault, pattern.toList = pre ++ '{' :: body ∧
      Scanned pre items ('{' :: body) ∧ Placeholder.Malformed body name fault ∧
      error = ⟨fault, byteLength pre, some (String.ofList name)⟩ := by
  constructor
  · intro h
    have hstart : Scanned [] [] pattern.toList := .start
    rcases hstart.exists_stop with
      ⟨items, hall⟩ | ⟨pre, items, body, name, fault, hs, hscanned, hbad⟩
    · cases (ofPattern_of_scanned hall).symm.trans h
    · rw [ofPattern_of_malformed hs hscanned hbad] at h
      cases h
      exact ⟨pre, items, body, name, fault, hs, hscanned, hbad, rfl⟩
  · rintro ⟨pre, items, body, name, fault, hs, hscanned, hbad, rfl⟩
    exact ofPattern_of_malformed hs hscanned hbad

theorem ofPattern_eq_ok_iff {pattern : String} : ofPattern pattern = .ok tokens ↔
    ∃ items, Scanned pattern.toList items [] ∧ items.foldr join [] = tokens := by
  constructor
  · intro h
    have hstart : Scanned [] [] pattern.toList := .start
    rcases hstart.exists_stop with
      ⟨items, hall⟩ | ⟨pre, items, body, name, fault, hs, hscanned, hbad⟩
    · exact ⟨items, hall, Except.ok.inj ((ofPattern_of_scanned hall).symm.trans h)⟩
    · cases (ofPattern_of_malformed hs hscanned hbad).symm.trans h
  · rintro ⟨items, hall, rfl⟩
    exact ofPattern_of_scanned hall

end Token

end StepPhrase
