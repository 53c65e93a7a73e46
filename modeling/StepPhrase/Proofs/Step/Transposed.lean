import StepPhrase.Proofs.Step.Run
import StepPhrase.Proofs.Table.Transpose
import StepPhrase.Suite.Transform

/-! Steps that transpose tables: they answer as the steps that do not would answer for the
transposed rows, and for a doc-string as for a table of one cell. -/
namespace StepPhrase

variable {κ : Type} [RecordKind κ] {t t' : DataTable} {text : String}
  {convert : Bool → ArgumentConversion κ} {request request' : Request κ}

/-- Ways of converting that can transpose tables first. -/
inductive Orientable : (Bool → ArgumentConversion κ) → Prop
  | structural (type : ValueType κ) : Orientable (.structural type)
  | named (name : String) : Orientable (.named name)

namespace Request

/-- The second request is the first with the rows and columns of its table exchanged. Uneven rows,
which make no table, stay as they are. -/
inductive Exchanged : Request κ → Request κ → Prop
  | change {c : Change κ} : Exchanged (.change c) (.change c)
  | text {text : String} : Exchanged (.text text) (.text text)
  | docString {text : String} : Exchanged (.docString text) (.docString text)
  | table {t t' : DataTable} : t.IsTranspose t' → Exchanged (.table t.cells) (.table t'.cells)
  | uneven {rows : List (List String)} : (¬∀ row ∈ rows, row.length = widthOf rows) →
    Exchanged (.table rows) (.table rows)

theorem Exchanged.change?_eq (h : Exchanged request request') :
    request.change? = request'.change? := by
  cases h with
  | change => rfl
  | text => rfl
  | docString => rfl
  | table ht => rfl
  | uneven hrows => rfl

end Request

namespace DataTable

theorem ofRows_singleCell : ofRows [[text]] = .ok (singleCell text) :=
  ofRows_of_rectangular (singleCell text).length_eq

theorem isTranspose_singleCell : (singleCell text).IsTranspose (singleCell text) :=
  isTranspose_iff.2 rfl

end DataTable

variable [DecidableEq κ] {r : Registry κ} {s built built' : Session κ} {turning plain : Step κ}
  {pattern pattern' : String}

namespace Orientable

open ArgumentConversion

theorem table_of_isTranspose (h : Orientable convert) (ht : t.IsTranspose t') :
    (convert true).table r t.cells = (convert false).table r t'.cells := by
  obtain rfl := DataTable.isTranspose_iff.1 ht
  unfold table
  rw [DataTable.ofRows_cells, DataTable.ofRows_cells]
  cases h with
  | structural type => rfl
  | named name => rfl

/-- A table of one cell stays as it is when it is transposed. -/
theorem docString_eq_table (h : Orientable convert) (transposed : Bool) :
    (convert transposed).docString r text = (convert transposed).table r [[text]] := by
  unfold table
  rw [DataTable.ofRows_singleCell]
  cases h with
  | structural type => rfl
  | named name =>
    cases transposed with
    | false => rfl
    | true => rfl

theorem docString_congr (h : Orientable convert) :
    (convert true).docString r text = (convert false).docString r text := by
  rw [h.docString_eq_table, h.docString_eq_table]
  exact h.table_of_isTranspose DataTable.isTranspose_singleCell

/-- Whether tables are transposed has no part in the building of a step. -/
theorem map_expression_create (h : Orientable convert) :
    (built.create pattern (convert true)).map (·.expression) =
      (built.create pattern (convert false)).map (·.expression) := by
  cases h with
  | structural type =>
    rw [Session.map_expression_create (by simp), Session.map_expression_create (by simp)]
  | named name =>
    by_cases hname : name = ""
    · subst hname
      rfl
    · rw [Session.map_expression_create (by simp [hname]),
        Session.map_expression_create (by simp [hname])]

/-- One request is answered alike, and with it the whole run. -/
theorem answer_exchanged (h : Orientable convert)
    (hturning : built.create pattern (convert true) = .ok turning)
    (hplain : built'.create pattern' (convert false) = .ok plain)
    (hexpression : turning.expression = plain.expression)
    (hrequest : request.Exchanged request') :
    s.answer turning request = s.answer plain request' := by
  obtain ⟨-, -, hdoc, htable⟩ := Session.create_eq_ok_iff.1 hturning
  obtain ⟨-, -, hdoc', htable'⟩ := Session.create_eq_ok_iff.1 hplain
  cases hrequest with
  | change => rfl
  | text =>
    simp only [Session.answer, Step.match?, hexpression]
  | docString =>
    simp only [Session.answer, hdoc, hdoc', h.docString_congr]
  | table ht =>
    simp only [Session.answer, htable, htable', h.table_of_isTranspose ht]
  | uneven hrows =>
    obtain ⟨e, he⟩ := Option.ne_none_iff_exists'.1 (mt unevenRow?_eq_none_iff.1 hrows)
    have hfault := DataTable.ofRows_eq_error_iff.2 he
    simp only [Session.answer, htable, htable', table_of_error hfault]

theorem answers_exchanged (h : Orientable convert)
    (hturning : built.create pattern (convert true) = .ok turning)
    (hplain : built'.create pattern' (convert false) = .ok plain)
    (hexpression : turning.expression = plain.expression) {requests requests' : List (Request κ)}
    (hrequests : List.Forall₂ Request.Exchanged requests requests') :
    s.answers turning requests = s.answers plain requests' := by
  induction hrequests generalizing s with
  | nil => rfl
  | cons hrequest _ ih =>
    rw [Session.answers, Session.answers, hrequest.change?_eq, ih,
      h.answer_exchanged hturning hplain hexpression hrequest]

end Orientable

/-- A step that transposes answers for a table what the step that does not answers for the table with
the cells exchanged: with the same registry, value or fault, and records in the log. For a
doc-string both answer as for a table of one cell. Building them succeeds or fails alike, and where
they match texts alike, whole runs with changes of all kinds are answered alike. -/
theorem transposing_eq_plain (h : Orientable convert) :
    (∀ (built : Session κ) pattern, (built.create pattern (convert true)).map (·.expression) =
      (built.create pattern (convert false)).map (·.expression)) ∧
    ∀ (built built' : Session κ) pattern pattern' turning plain,
      built.create pattern (convert true) = .ok turning →
      built'.create pattern' (convert false) = .ok plain →
      (∀ r (t : DataTable), (∃ t', t.IsTranspose t') ∧
        ∀ t', t.IsTranspose t' → turning.table r t.cells = plain.table r t'.cells) ∧
      (∀ r text, turning.docString r text = turning.table r [[text]] ∧
        plain.docString r text = plain.table r [[text]]) ∧
      (turning.expression = plain.expression → ∀ (s : Session κ) requests requests',
        List.Forall₂ Request.Exchanged requests requests' →
          s.answers turning requests = s.answers plain requests') := by
  refine ⟨fun built pattern => h.map_expression_create, ?_⟩
  intro built built' pattern pattern' turning plain hturning hplain
  obtain ⟨-, -, hdoc, htable⟩ := Session.create_eq_ok_iff.1 hturning
  obtain ⟨-, -, hdoc', htable'⟩ := Session.create_eq_ok_iff.1 hplain
  refine ⟨fun r t => ⟨⟨_, DataTable.isTranspose_transpose⟩, fun t' ht => ?_⟩,
    fun r text => ⟨?_, ?_⟩, fun hexpression s requests requests' hrequests => ?_⟩
  · rw [htable, htable', h.table_of_isTranspose ht]
  · rw [hdoc, htable, h.docString_eq_table]
  · rw [hdoc', htable', h.docString_eq_table]
  · exact h.answers_exchanged hturning hplain hexpression hrequests

/-- A registry whose converter to texts asks for the rows of the table that it is given. -/
def Suite.joining : Registry Suite.RecordType :=
  ((Session.start none {}).registry.defineConverter (joinedRows false)).value

open Suite in
/-- The cells of each column are joined. The converter asks the registry for the rows, which are
those of the transposed table. -/
theorem transposing_eq_plain_joined : ∃ turning plain : Step RecordType,
    Orientable (κ := RecordType) (.structural (.list .text)) ∧
      (Session.start none {}).create "a step" (.structural (.list .text) true) = .ok turning ∧
      (Session.start none {}).create "a step" (.structural (.list .text) false) = .ok plain ∧
      turning.table joining [["a", "b"], ["c", "d"], ["e", "f"]] =
        plain.table joining [["a", "c", "e"], ["b", "d", "f"]] ∧
      (turning.table joining [["a", "b"], ["c", "d"], ["e", "f"]]).value =
        .ok ⟨.list .text, ["a+c+e", "b+d+f"]⟩ ∧
      (turning.docString joining "a").value = .ok ⟨.list .text, ["a"]⟩ ∧
      turning.table joining [[], []] = plain.table joining [] := by
  obtain ⟨turning, hturning⟩ := exists_create (c := .structural (.list .text) true) (by simp)
  obtain ⟨plain, hplain⟩ := exists_create (c := .structural (.list .text) false) (by simp)
  have horientable : Orientable (κ := RecordType) (.structural (.list .text)) := .structural _
  obtain ⟨-, hsteps⟩ := transposing_eq_plain horientable
  obtain ⟨htable, hdoc, -⟩ := hsteps _ _ _ _ _ _ hturning hplain
  obtain ⟨-, -, -, hconversion⟩ := Session.create_eq_ok_iff.1 hplain
  have hrows : turning.table joining [["a", "b"], ["c", "d"], ["e", "f"]] =
      plain.table joining [["a", "c", "e"], ["b", "d", "f"]] :=
    (htable joining ⟨[["a", "b"], ["c", "d"], ["e", "f"]], by decide, none⟩).2
      ⟨[["a", "c", "e"], ["b", "d", "f"]], by decide, none⟩ (DataTable.isTranspose_iff.2 rfl)
  have hcell : turning.docString joining "a" = plain.table joining [["a"]] :=
    (hdoc joining "a").1.trans
      ((htable joining (.singleCell "a")).2 _ DataTable.isTranspose_singleCell)
  refine ⟨turning, plain, horientable, hturning, hplain, hrows, ?_, ?_, ?_⟩
  · rw [hrows, hconversion]
    rfl
  · rw [hcell, hconversion]
    rfl
  · exact (htable joining ⟨[[], []], by decide, none⟩).2 .empty (DataTable.isTranspose_iff.2 rfl)

end StepPhrase
