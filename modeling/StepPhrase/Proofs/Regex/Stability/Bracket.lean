import StepPhrase.Proofs.Regex.Stability.Escape
import StepPhrase.Proofs.Unicode.CharSet
import StepPhrase.Regex.Bracket

/-! What a class in square brackets reads from a text stays when more text follows. -/
namespace StepPhrase.Regex.Bracket

open StepPhrase.Unicode

variable {f : Flags} {v b : Bool} {c : Char} {s t rest : List Char} {m m' : Members}
  {l l' : Level} {outer : List Level} {set : CharSet} {a : Atom} {n k : Nat}

/-- The characters before the closing bracket of `[:name:]`. -/
def nameChars : List Char := ":^abcdefghijklmnopqrstuvwxyz".toList

theorem plain_of_mem_nameChars : ∀ c ∈ nameChars,
    isBlank c = false ∧ c ∉ ['#', '[', ']', '&', '-', '~', '\\'] :=
  forall_mem_of_all (by decide +kernel)

theorem mem_nameChars_of_named {name : String} (h : named name = some set) :
    ∀ c ∈ name.toList, c ∈ nameChars := by
  unfold named at h
  split at h
  case h_15 => cases h
  all_goals exact forall_mem_of_all (by decide +kernel)

theorem drop_takeWhile_eq_iff {name : List Char} (hname : name = s.takeWhile (· != ':')) :
    s.drop name.length = ':' :: rest ↔ ':' ∉ name ∧ s = name ++ ':' :: rest := by
  constructor
  · intro h
    refine ⟨fun hmem => ?_, ?_⟩
    · have hall := List.all_eq_true.1 (List.all_takeWhile (p := (· != ':')) (l := s))
      simpa using hall ':' (hname ▸ hmem)
    · rw [← h, hname, List.prefix_iff_eq_append.1 (List.takeWhile_prefix _)]
  · rintro ⟨-, h⟩
    rw [h, List.drop_left]

theorem takeWhile_name {name : List Char} (h : ':' ∉ name) :
    (name ++ ':' :: rest).takeWhile (· != ':') = name := by
  rw [List.takeWhile_append_of_pos, List.takeWhile_cons_of_neg (by simp), List.append_nil]
  intro c hc
  have : c ≠ ':' := fun he => h (he ▸ hc)
  simpa using this

/-- The name of a class ends at the first colon, and a bracket follows. -/
theorem readNamed?_eq_some_iff : readNamed? s = some ((b, set), rest) ↔
    ∃ name, ':' ∉ name ∧ (b = false → name.head? ≠ some '^') ∧
      named (String.ofList name) = some set ∧
      s = ':' :: ((if b then ['^'] else []) ++ name ++ ':' :: ']' :: rest) := by
  constructor
  · intro h
    unfold readNamed? at h
    split at h
    · rename_i s'
      dsimp only at h
      split at h
      · rename_i r hr
        obtain ⟨set', hset, h⟩ := Option.map_eq_some_iff.1 h
        cases h
        obtain ⟨hname, heq⟩ := (drop_takeWhile_eq_iff rfl).1 hr
        generalize List.takeWhile _ _ = name at hname heq hset
        refine ⟨name, hname, ?_, hset, ?_⟩
        · intro hb hhead
          have hc : s'.head? ≠ some '^' := of_decide_eq_false hb
          rw [if_neg hc] at heq
          obtain ⟨others, rfl⟩ := List.head?_eq_some_iff.1 hhead
          exact hc (by rw [heq]; rfl)
        · by_cases hc : s'.head? = some '^'
          · rw [if_pos hc] at heq
            obtain ⟨others, rfl⟩ := List.head?_eq_some_iff.1 hc
            simpa using heq
          · rw [if_neg hc] at heq
            simpa [hc] using heq
      · cases h
    · cases h
  · rintro ⟨name, hname, hhead, hset, rfl⟩
    cases b with
    | true => simp [readNamed?, takeWhile_name hname, hset]
    | false =>
      have : (name ++ ':' :: ']' :: rest).head? ≠ some '^' := by
        cases name with
        | nil => simp
        | cons c name => exact hhead rfl
      simp only [readNamed?, Bool.false_eq_true, if_false, List.nil_append, this, decide_false,
        takeWhile_name hname, List.drop_left, hset, Option.map_some]

theorem readNamed?_append {x : Bool × CharSet} (h : readNamed? s = some (x, rest)) :
    readNamed? (s ++ t) = some (x, rest ++ t) := by
  obtain ⟨name, hname, hhead, hset, rfl⟩ := readNamed?_eq_some_iff.1 h
  exact readNamed?_eq_some_iff.2 ⟨name, hname, hhead, hset, by simp⟩

/-- A text to which more has to be added for a named class is only the beginning of one. -/
theorem mem_nameChars_of_readNamed?_append (h : readNamed? s = none)
    (ht : readNamed? (s ++ t) ≠ none) : ∀ c ∈ s, c ∈ nameChars := by
  obtain ⟨⟨⟨b, set⟩, rest⟩, ht⟩ := Option.ne_none_iff_exists'.1 ht
  obtain ⟨name, hname, hhead, hset, heq⟩ := readNamed?_eq_some_iff.1 ht
  let front := ':' :: ((if b then ['^'] else []) ++ name ++ [':'])
  have hfront : ∀ c ∈ front, c ∈ nameChars := by
    have hchars := mem_nameChars_of_named hset
    rw [String.toList_ofList] at hchars
    intro c hc
    rcases List.mem_cons.1 hc with rfl | hc
    · decide
    · rcases List.mem_append.1 hc with hc | hc
      · rcases List.mem_append.1 hc with hc | hc
        · cases b
          · cases hc
          · rw [List.mem_singleton.1 hc]
            decide
        · exact hchars c hc
      · rw [List.mem_singleton.1 hc]
        decide
  have heq' : s ++ t = front ++ ']' :: rest := by
    rw [heq]
    simp [front]
  rcases List.append_eq_append_iff.1 heq' with ⟨others, hfs, -⟩ | ⟨others, hs, ho⟩
  · intro c hc
    exact hfront c (hfs ▸ List.mem_append_left _ hc)
  · cases others with
    | nil =>
      rw [List.append_nil] at hs
      exact hs ▸ hfront
    | cons d others =>
      cases ho
      have hread : readNamed? s = some ((b, set), others) :=
        readNamed?_eq_some_iff.2 ⟨name, hname, hhead, hset, by rw [hs]; simp [front]⟩
      rw [hread] at h
      cases h

theorem leadingHyphens_append (h : leadingHyphens v b m s = (m', rest)) (hrest : rest ≠ []) :
    leadingHyphens v b m (s ++ t) = (m', rest ++ t) := by
  induction s generalizing b m with
  | nil =>
    cases h
    exact absurd rfl hrest
  | cons c s ih =>
    simp only [leadingHyphens, List.cons_append] at h ⊢
    split at h
    · rename_i hb
      rw [if_pos hb]
      exact ih h
    · rename_i hb
      rw [if_neg hb]
      split at h
      · rename_i hc
        rw [if_pos hc]
        exact ih h
      · rename_i hc
        rw [if_neg hc]
        split at h
        · rename_i hm
          rw [if_pos hm]
          exact ih h
        · rename_i hm
          rw [if_neg hm]
          split at h
          · rename_i he
            rw [if_pos he]
            exact ih h
          · rename_i he
            cases h
            rw [if_neg he]
            rfl

/-- An opened level whose negation has been read. -/
def firstMembers (f : Flags) (negated : Bool) (s : List Char) : Level × List Char :=
  let (members, s) := leadingHyphens f.verbose false {} s
  match members.count, s with
  | 0, ']' :: rest => ({ negated, members := members.add (.char ']') 0 }, rest)
  | _, s => ({ negated, members }, s)

theorem openLevel_eq : openLevel f s =
    match skip f.verbose s with
    | '^' :: rest => firstMembers f true rest
    | s => firstMembers f false s := by
  unfold openLevel
  cases skip f.verbose s with
  | nil => rfl
  | cons c rest =>
    by_cases hc : c = '^'
    · subst hc
      rfl
    · simp only [List.cons.injEq, hc, false_and, imp_false, not_false_eq_true, implies_true]
      rfl

theorem firstMembers_append (h : firstMembers f b s = (l, rest)) (hrest : rest ≠ []) :
    firstMembers f b (s ++ t) = (l, rest ++ t) := by
  unfold firstMembers at h ⊢
  cases hhyphens : leadingHyphens f.verbose false {} s with
  | mk members s' =>
    simp only [hhyphens] at h
    cases s' with
    | nil =>
      split at h
      · rename_i heq
        cases heq
      · cases h
        exact absurd rfl hrest
    | cons d s' =>
      simp only [leadingHyphens_append hhyphens (List.cons_ne_nil _ _), List.cons_append]
      split at h
      · rename_i hcount heq
        cases heq
        cases h
        simp only [hcount]
      · rename_i hfirst
        cases h
        split
        · rename_i hcount heq
          cases heq
          exact absurd rfl (hfirst _ hcount)
        · rfl

theorem openLevel_append (h : openLevel f s = (l, rest)) (hrest : rest ≠ []) :
    openLevel f (s ++ t) = (l, rest ++ t) := by
  rw [openLevel_eq] at h ⊢
  cases hs : skip f.verbose s with
  | nil =>
    rw [hs] at h
    cases h
    exact absurd rfl hrest
  | cons c s' =>
    rw [hs] at h
    rw [skip_append_cons hs]
    split at h
    · rename_i heq
      cases heq
      exact firstMembers_append h hrest
    · rename_i hc
      split
      · rename_i heq
        cases heq
        exact absurd rfl (hc _)
      · exact firstMembers_append h hrest

theorem readAtom_append (h : readAtom f s = some (a, rest)) (hrest : rest ≠ []) :
    readAtom f (s ++ t) = some (a, rest ++ t) := by
  unfold readAtom at h
  split at h
  · cases h
  · exact Escape.read_append h (absurd · hrest)
  · rename_i c s' hc
    cases h
    unfold readAtom
    split
    · rename_i heq
      cases heq
    · rename_i heq
      cases heq
      exact absurd rfl hc
    · rename_i heq
      cases heq
      rfl

theorem peek_go_append (h : peek.go b s = some c) : peek.go b (s ++ t) = some c := by
  induction s generalizing b with
  | nil => cases h
  | cons d s ih =>
    simp only [peek.go, List.cons_append] at h ⊢
    split at h
    · rename_i hd
      rw [if_pos hd]
      exact ih h
    · rename_i hd
      rw [if_neg hd]
      split at h
      · rename_i hm
        rw [if_pos hm]
        exact ih h
      · rename_i hm
        rw [if_neg hm]
        exact h

/-- Where nothing can be peeked at, nothing is left. -/
theorem skipVerbose_of_peek_go {d : Bool} (h : peek.go b s = none) (hd : d = true → b = true) :
    skipVerbose d s = [] := by
  induction s generalizing b d with
  | nil => rfl
  | cons c s ih =>
    simp only [peek.go] at h
    simp only [skipVerbose]
    split at h
    · rename_i hc
      split
      · rename_i hcomment
        exact ih h fun _ => hd hcomment
      · exact ih h (by simp)
    · rename_i hc
      split at h
      · rename_i hmark
        simp only [Bool.and_eq_true, Bool.not_eq_true', decide_eq_true_eq] at hmark
        have : ¬d = true := fun hcomment => by simp [hd hcomment] at hmark
        rw [if_neg this, if_neg hc, if_pos hmark.2]
        exact ih h (by simp)
      · cases h

theorem peek_append (h : skip v s ≠ []) : peek v (s ++ t) = peek v s := by
  cases v with
  | false =>
    cases s with
    | nil => exact absurd rfl h
    | cons c s => rfl
  | true =>
    cases hgo : peek.go false s with
    | none => exact absurd (skipVerbose_of_peek_go hgo (by simp)) h
    | some c =>
      simp only [peek, if_pos, hgo, peek_go_append hgo]
      rfl

theorem peek_append_of_eq (h : peek v s = some c) (hblank : isBlank c = false) (hmark : c ≠ '#') :
    peek v (s ++ t) = some c := by
  by_cases hs : skip v s = []
  · cases v with
    | false =>
      cases hs
      cases h
    | true =>
      cases hgo : peek.go false s with
      | some d =>
        simp only [peek, if_pos, hgo] at h
        cases h
        simp only [peek, if_pos, peek_go_append hgo]
        rfl
      | none =>
        simp only [peek, if_pos, hgo] at h
        obtain ⟨s', rfl⟩ := List.head?_eq_some_iff.1 h
        simp [skip, skipVerbose, hblank, hmark] at hs
  · rw [peek_append hs, h]

/-- Whether a hyphen between two characters makes an interval depends on what follows it. -/
def isItemEnd (v : Bool) (c : Char) (s : List Char) : Bool :=
  c != '-' || peek v s == some ']' || peek v s == some '-'

theorem isItemEnd_append (h : isItemEnd v c s = true) : isItemEnd v c (s ++ t) = true := by
  simp only [isItemEnd, Bool.or_eq_true, bne_iff_ne, beq_iff_eq] at h ⊢
  rcases h with (h | h) | h
  · exact .inl (.inl h)
  · exact .inl (.inr (peek_append_of_eq h (by decide +kernel) (by decide)))
  · exact .inr (peek_append_of_eq h (by decide +kernel) (by decide))

theorem readItem_singleton : readItem f [c] = none := by
  rw [readItem]
  cases hatom : readAtom f [c] with
  | none => rfl
  | some p =>
    unfold readAtom at hatom
    split at hatom
    · cases hatom
    · rename_i heq
      cases heq
      cases hatom
    · rename_i heq
      cases heq
      cases hatom
      simp

theorem readItem_append (h : readItem f s = some (set, rest)) (hrest : rest ≠ []) :
    readItem f (s ++ t) = some (set, rest ++ t) := by
  obtain ⟨⟨first, s₁⟩, hfirst, h⟩ := Option.bind_eq_some_iff.1 h
  dsimp only at h
  split at h
  · cases h
  · rename_i c s₂ hs
    have hfirst' := readAtom_append (t := t) hfirst (by rintro rfl; simp at hs)
    unfold readItem
    simp only [hfirst', Option.bind_eq_bind, Option.bind_some, skip_append_cons hs]
    split at h
    · rename_i hend
      have hend' : isItemEnd f.verbose c (s₂ ++ t) = true := isItemEnd_append hend
      rw [isItemEnd] at hend'
      rw [if_pos hend']
      split at h
      · cases h
        rfl
      · obtain ⟨n, hn, h⟩ := Option.bind_eq_some_iff.1 h
        cases h
        rw [hn]
        rfl
    · rename_i hend
      obtain ⟨⟨last, s₃⟩, hlast, h⟩ := Option.bind_eq_some_iff.1 h
      obtain ⟨lo, hlo, h⟩ := Option.bind_eq_some_iff.1 h
      obtain ⟨hi, hhi, h⟩ := Option.bind_eq_some_iff.1 h
      have hnext : skip f.verbose s₂ ≠ [] := by
        intro hnil
        rw [hnil] at hlast
        cases hlast
      rw [peek_append hnext, if_neg hend, skip_append hnext]
      split at h
      · rename_i hle
        cases h
        rw [readAtom_append hlast hrest]
        simp only [Option.bind_some, hlo, hhi, if_pos hle]
        rfl
      · cases h

section readLevels

variable {x : CharSet × Nat}

theorem readLevels_nil : readLevels f n outer l [] = none := by
  cases n with
  | zero => rfl
  | succ n => simp only [readLevels, skip_nil]

theorem readLevels_open (hs : skip f.verbose s = '[' :: rest) :
    readLevels f (n + 1) outer l s =
      match readNamed? rest with
      | some ((negated, set), rest) =>
        (f.close? negated set).bind fun set => readLevels f n outer (l.add set 0) rest
      | none => readLevels f n (l :: outer) (openLevel f rest).1 (openLevel f rest).2 := by
  rw [readLevels, hs]
  cases hnamed : readNamed? rest with
  | none => simp only [hnamed]
  | some p =>
    obtain ⟨⟨negated, set⟩, rest⟩ := p
    cases hset : f.close? negated set with
    | none => simp only [hnamed, hset, Option.bind_none]
    | some set => simp only [hnamed, hset, Option.bind_some]

theorem readLevels_close (hs : skip f.verbose s = ']' :: rest) :
    readLevels f (n + 1) outer l s =
      (f.close? l.negated (l.joined f).1).bind fun set =>
        match outer with
        | [] => some ((set, (l.joined f).2 + 1), rest)
        | parent :: outer => readLevels f n outer (parent.add set ((l.joined f).2 + 1)) rest := by
  rw [readLevels, hs]
  dsimp only
  cases f.close? l.negated (l.joined f).1 with
  | none => rfl
  | some set => cases outer <;> rfl

theorem readLevels_item (hs : skip f.verbose s = c :: rest) (hopen : c ≠ '[') (hclose : c ≠ ']')
    (hpair : rest.head? = some c → c ∉ ['&', '-', '~']) :
    readLevels f (n + 1) outer l s =
      (readItem f (c :: rest)).bind fun p => readLevels f n outer (l.add p.1 0) p.2 := by
  rw [readLevels, hs]
  split
  case h_7 =>
    split
    · rename_i h
      rw [h]
      rfl
    · rename_i h
      rw [h]
      rfl
  all_goals
    rename_i h
    cases h
  · exact absurd rfl hopen
  · exact absurd rfl hclose
  all_goals exact absurd (by decide) (hpair rfl)

theorem readLevels_operator (hc : c ∈ ['&', '-', '~']) : ∃ op, ∀ {n outer l s rest},
    skip f.verbose s = c :: c :: rest →
      readLevels f (n + 1) outer l s = readLevels f n outer (l.operator f op) rest := by
  simp only [List.mem_cons, List.not_mem_nil, or_false] at hc
  rcases hc with rfl | rfl | rfl
  · refine ⟨.inter, fun hs => ?_⟩
    rw [readLevels, hs]
    rfl
  · refine ⟨.diff, fun hs => ?_⟩
    rw [readLevels, hs]
    rfl
  · refine ⟨.symmDiff, fun hs => ?_⟩
    rw [readLevels, hs]
    rfl

theorem skip_nameChars (hs : ∀ c ∈ s, c ∈ nameChars) : skip v s = s := by
  cases v with
  | false => rfl
  | true =>
    cases s with
    | nil => rfl
    | cons c s =>
      obtain ⟨hblank, hmark⟩ := plain_of_mem_nameChars c (hs c List.mem_cons_self)
      have : c ≠ '#' := by
        rintro rfl
        exact hmark List.mem_cons_self
      simp [skip, skipVerbose, hblank, this]

theorem readItem_nameChars (hs : ∀ d ∈ c :: s, d ∈ nameChars)
    (h : readItem f (c :: s) = some (set, rest)) : rest = s := by
  obtain ⟨-, hplain⟩ := plain_of_mem_nameChars c (hs c List.mem_cons_self)
  have hs' : ∀ d ∈ s, d ∈ nameChars := fun d hd => hs d (List.mem_cons_of_mem _ hd)
  have hatom : readAtom f (c :: s) = some (.char c false, s) := by
    unfold readAtom
    split
    · rename_i heq
      cases heq
    · rename_i heq
      cases heq
      exact absurd (by decide) hplain
    · rename_i heq
      cases heq
      rfl
  rw [readItem, hatom, Option.bind_eq_bind, Option.bind_some] at h
  dsimp only at h
  rw [skip_nameChars hs'] at h
  cases s with
  | nil => cases h
  | cons d s =>
    obtain ⟨-, hplain⟩ := plain_of_mem_nameChars d (hs' d List.mem_cons_self)
    simp only [List.mem_cons, not_or] at hplain
    simp only [bne_iff_ne.2 hplain.2.2.2.2.1, Bool.true_or, if_true] at h
    obtain ⟨n, hn, h⟩ := Option.bind_eq_some_iff.1 h
    cases h
    rfl

theorem leadingHyphens_nameChars (hs : ∀ c ∈ s, c ∈ nameChars) :
    leadingHyphens v false m s = (m, s) := by
  cases s with
  | nil => rfl
  | cons c s =>
    obtain ⟨hblank, hplain⟩ := plain_of_mem_nameChars c (hs c List.mem_cons_self)
    simp only [List.mem_cons, not_or] at hplain
    simp [leadingHyphens, hblank, hplain]

theorem firstMembers_nameChars (hs : ∀ c ∈ s, c ∈ nameChars) :
    firstMembers f b s = ({ negated := b }, s) := by
  rw [firstMembers, leadingHyphens_nameChars hs]
  dsimp only
  split
  · exact absurd (hs _ List.mem_cons_self) (by decide)
  · rfl

/-- A bracket that only characters of names follow is not closed. -/
theorem readLevels_nameChars (hs : ∀ c ∈ s, c ∈ nameChars) : readLevels f n outer l s = none := by
  induction n generalizing l s with
  | zero => rfl
  | succ n ih =>
    cases s with
    | nil => exact readLevels_nil
    | cons c s =>
      obtain ⟨-, hplain⟩ := plain_of_mem_nameChars c (hs c List.mem_cons_self)
      simp only [List.mem_cons, not_or] at hplain
      rw [readLevels_item (skip_nameChars hs) hplain.2.1 hplain.2.2.1 (by simp [hplain])]
      cases hitem : readItem f (c :: s) with
      | none => rfl
      | some p =>
        rw [Option.bind_some, readItem_nameChars hs hitem]
        exact ih fun d hd => hs d (List.mem_cons_of_mem _ hd)

theorem readLevels_openLevel_nameChars (hs : ∀ c ∈ s, c ∈ nameChars) :
    readLevels f n outer (openLevel f s).1 (openLevel f s).2 = none := by
  rw [openLevel_eq, skip_nameChars hs]
  split
  · rename_i s'
    have hs' : ∀ c ∈ s', c ∈ nameChars := fun c hc => hs c (List.mem_cons_of_mem _ hc)
    rw [firstMembers_nameChars hs']
    exact readLevels_nameChars hs'
  · rw [firstMembers_nameChars hs]
    exact readLevels_nameChars hs

theorem readLevels_append (h : readLevels f n outer l s = some (x, rest)) :
    readLevels f (n + k) outer l (s ++ t) = some (x, rest ++ t) := by
  induction n generalizing outer l s with
  | zero => cases h
  | succ n ih =>
    rw [Nat.add_right_comm]
    cases hs : skip f.verbose s with
    | nil => simp [readLevels, hs] at h
    | cons c s' =>
      by_cases hopen : c = '['
      · subst hopen
        rw [readLevels_open hs] at h
        rw [readLevels_open (skip_append_cons hs)]
        cases hnamed : readNamed? s' with
        | some p =>
          obtain ⟨⟨negated, set⟩, s''⟩ := p
          rw [hnamed] at h
          rw [readNamed?_append hnamed]
          obtain ⟨set', hset, h⟩ := Option.bind_eq_some_iff.1 h
          simp only [hset, Option.bind_some]
          exact ih h
        | none =>
          rw [hnamed] at h
          dsimp only at h
          have hmore : readNamed? (s' ++ t) = none := by
            by_cases hmore : readNamed? (s' ++ t) = none
            · exact hmore
            · rw [readLevels_openLevel_nameChars (mem_nameChars_of_readNamed?_append hnamed hmore)] at h
              cases h
          rw [hmore]
          dsimp only
          have hrest : (openLevel f s').2 ≠ [] := by
            intro hnil
            rw [hnil, readLevels_nil] at h
            cases h
          rw [openLevel_append rfl hrest]
          exact ih h
      · by_cases hclose : c = ']'
        · subst hclose
          rw [readLevels_close hs] at h
          rw [readLevels_close (skip_append_cons hs)]
          obtain ⟨set, hset, h⟩ := Option.bind_eq_some_iff.1 h
          rw [hset, Option.bind_some]
          cases outer with
          | nil =>
            cases h
            rfl
          | cons parent outer => exact ih h
        · by_cases hpair : s'.head? = some c ∧ c ∈ ['&', '-', '~']
          · obtain ⟨s'', rfl⟩ := List.head?_eq_some_iff.1 hpair.1
            obtain ⟨op, hop⟩ := readLevels_operator (f := f) hpair.2
            rw [hop hs] at h
            rw [hop (skip_append_cons hs)]
            exact ih h
          · rw [readLevels_item hs hopen hclose fun hhead hc => hpair ⟨hhead, hc⟩] at h
            obtain ⟨⟨set, r⟩, hitem, h⟩ := Option.bind_eq_some_iff.1 h
            have hr : r ≠ [] := by
              rintro rfl
              rw [readLevels_nil] at h
              cases h
            have hs' : s' ≠ [] := by
              rintro rfl
              rw [readItem_singleton] at hitem
              cases hitem
            have hhead : (s' ++ t).head? = s'.head? := by
              obtain ⟨d, s'', rfl⟩ := List.exists_cons_of_ne_nil hs'
              rfl
            rw [readLevels_item (skip_append_cons hs) hopen hclose
              fun hmore hc => hpair ⟨hhead ▸ hmore, hc⟩, ← List.cons_append,
              readItem_append hitem hr, Option.bind_some]
            exact ih h

end readLevels

theorem read_append {x : CharSet × Nat} (h : Bracket.read f s = some (x, rest)) :
    Bracket.read f (s ++ t) = some (x, rest ++ t) := by
  have h : readLevels f ((openLevel f s).2.length + 1) [] (openLevel f s).1 (openLevel f s).2 =
      some (x, rest) := h
  have hrest : (openLevel f s).2 ≠ [] := by
    intro hnil
    rw [hnil, readLevels_nil] at h
    cases h
  rw [Bracket.read, openLevel_append rfl hrest]
  have := readLevels_append (k := t.length) (t := t) h
  rwa [Nat.add_right_comm, ← List.length_append] at this

end StepPhrase.Regex.Bracket
