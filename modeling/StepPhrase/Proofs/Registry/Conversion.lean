import Mathlib.Logic.Function.Iterate
import StepPhrase.Proofs.Registry.History
import StepPhrase.Proofs.Table.Transpose
import StepPhrase.Suite.Transform

/-! Conversions that call for each other to some depth, tables that are converted to tables and then
on to other types, and the cells that come out of a table one by one or row by row. -/
namespace StepPhrase

variable {κ : Type} [RecordKind κ] {t : DataTable} {a b transposed : Bool}

section Rows

variable {α : Type} {rows : List (List α)} {n i j : Nat}

theorem length_flatten_of_forall (h : ∀ row ∈ rows, row.length = n) :
    rows.flatten.length = rows.length * n := by
  rw [List.length_flatten, List.map_eq_replicate_iff.2 h, List.sum_replicate_nat]

/-- Where rows are of one length, the cells of each stand together, row after row. -/
theorem getElem?_flatten_of_forall (h : ∀ row ∈ rows, row.length = n) (hj : j < n) :
    rows.flatten[i * n + j]? = rows[i]?.bind (·[j]?) := by
  induction rows generalizing i with
  | nil => simp
  | cons row rows ih =>
    obtain ⟨rfl, hrows⟩ := List.forall_mem_cons.1 h
    rw [List.flatten_cons]
    cases i with
    | zero =>
      rw [Nat.zero_mul, Nat.zero_add, List.getElem?_append_left hj]
      rfl
    | succ i =>
      have hskip : (i + 1) * row.length + j = row.length + (i * row.length + j) := by
        rw [Nat.succ_mul]
        omega
      rw [hskip, List.getElem?_append_right (Nat.le_add_right ..), Nat.add_sub_cancel_left,
        ih hrows]
      rfl

end Rows

namespace DataTable

theorem binding_oriented : (t.oriented transposed).binding = t.binding := by
  cases transposed <;> rfl

/-- Two orientations are one, for tables that come back when they are transposed twice. -/
theorem oriented_oriented (h : t.cells = [] ∨ 0 < t.width) :
    (t.oriented a).oriented b = t.oriented (a ^^ b) := by
  cases a with
  | false => cases b <;> rfl
  | true =>
    cases b with
    | false => rfl
    | true => exact transpose_transpose_eq_iff.2 h

theorem convert_of_binding {conversions : Conversions κ} {type : ValueType κ} {b : Binding}
    (h : t.binding = some b) :
    t.convert conversions type transposed = conversions (t.oriented transposed) type := by
  rw [convert, h]

theorem convert_oriented {conversions : Conversions κ} {type : ValueType κ}
    (h : t.cells = [] ∨ 0 < t.width) :
    (t.oriented a).convert conversions type b = t.convert conversions type (a ^^ b) := by
  rw [convert, convert, binding_oriented, oriented_oriented h]

end DataTable

variable [DecidableEq κ] {r : Registry κ} {k : Converter κ} {type : ValueType κ}

theorem Value.get_mk {x : type.Element} : (⟨type, x⟩ : Value κ).get type = .ok x := by
  simp [get, get?]

namespace Registry

variable {result : Except ConversionError (Value κ)} {depth more : Nat}

/-- The result at this depth of nesting, whatever answers the calls that go deeper. -/
def Settles (r : Registry κ) (depth : Nat) (t : DataTable) (type : ValueType κ)
    (result : Except ConversionError (Value κ)) : Prop :=
  ∀ beyond : Conversions κ, (r.convertThrough^[depth]) beyond t type = result

theorem convertWithin_add :
    r.convertWithin (depth + more) = (r.convertThrough^[depth]) (r.convertWithin more) := by
  induction depth with
  | zero => rw [Nat.zero_add, Function.iterate_zero_apply]
  | succ depth ih => rw [Nat.succ_add, convertWithin, ih, Function.iterate_succ_apply']

/-- The limit on nesting is of no account where it is not met. -/
theorem Settles.convert (h : r.Settles depth t type result) (hdepth : depth ≤ r.nesting + 1) :
    r.convert t type = result := by
  obtain ⟨more, hmore⟩ := Nat.exists_eq_add_of_le hdepth
  change r.convertWithin (r.nesting + 1) t type = result
  rw [hmore, convertWithin_add]
  exact h _

/-- A converter that calls for one that calls for none. -/
example :
    let r : Registry Suite.RecordType := (defineConverter {} (Suite.joinedRows true)).value
    r.Settles 2 (.bind ⟨[["a", "b"], ["c", "d"]], by decide, none⟩) (.list .text)
      (.ok ⟨.list .text, ["a+c", "b+d"]⟩) :=
  fun _ => rfl

/-- The registry has this converter to the type that it makes. -/
def Keeps (r : Registry κ) (k : Converter κ) : Prop := r.converter? k.target = some k

/-- The converter to a type makes the value. -/
theorem convert_of_converter? (h : r.converter? type = some k) :
    r.convert t type = (k.run (r.convertWithin r.nesting) t).map fun x => ⟨k.target, x⟩ := by
  rw [convert, convertThrough, h]

theorem Keeps.convertTo {b : Binding} (hkeeps : r.Keeps k) (hbound : t.binding = some b) :
    t.convertTo r.convert k.target transposed =
      k.run (r.convertWithin r.nesting) (t.oriented transposed) := by
  rw [DataTable.convertTo, DataTable.convert_of_binding hbound, convert_of_converter? hkeeps]
  cases k.run (r.convertWithin r.nesting) (t.oriented transposed) with
  | error e => rfl
  | ok x => exact Value.get_mk

end Registry

/-- A table that is converted to a table stays bound, so that what it is converted to then is what it
would be converted to at once, transposed where one of the two conversions transposes. All its cells
come out row after row, and the rows make the table again. -/
theorem conversions_compose (hkeeps : r.Keeps .table) (hbound : t.binding = some .registry)
    (hshape : t.cells = [] ∨ 0 < t.width) :
    (∀ a, ∃ t' : DataTable, t.convertTo r.convert .table a = .ok t' ∧
      t'.binding = some .registry ∧ ∀ type b,
        t'.convert r.convert type b = t.convert r.convert type (a ^^ b) ∧
        t'.convertTo r.convert type b = t.convertTo r.convert type (a ^^ b)) ∧
    (r.Keeps .cells → ∃ flat : List String,
      t.convertTo r.convert (.list .text) false = .ok flat ∧
      flat.length = t.height * t.width ∧
      ∀ i j, j < t.width → flat[i * t.width + j]? = t.cell? i j) ∧
    (r.Keeps .rows → ∃ rows : List (List String),
      t.convertTo r.convert (.list (.list .text)) false = .ok rows ∧
      (DataTable.ofRows rows).map (·.bind) = .ok t) := by
  refine ⟨fun a => ?_, fun hcells => ?_, fun hrows => ?_⟩
  · refine ⟨t.oriented a, hkeeps.convertTo hbound, DataTable.binding_oriented.trans hbound,
      fun type b => ?_⟩
    have hconvert : (t.oriented a).convert r.convert type b = t.convert r.convert type (a ^^ b) :=
      DataTable.convert_oriented hshape
    exact ⟨hconvert, by rw [DataTable.convertTo, hconvert]; rfl⟩
  · refine ⟨t.cells.flatten, hcells.convertTo hbound, ?_, fun i j hj => ?_⟩
    · exact length_flatten_of_forall t.length_eq
    · exact getElem?_flatten_of_forall t.length_eq hj
  · refine ⟨t.cells, hrows.convertTo hbound, ?_⟩
    rw [DataTable.ofRows_cells]
    cases t
    cases hbound
    rfl

/-- A registry with a converter of its own, which counts the rows of tables with three columns. -/
def Suite.counting : Registry Suite.RecordType :=
  (({} : Registry Suite.RecordType).defineConverter TableConverter.widthThree.converter).value

/-- Two columns, but three once it is transposed. -/
def Suite.twoColumns : DataTable :=
  ⟨[["a", "b"], ["c", "d"], ["e", "f"]], by decide, some .registry⟩

open Suite in
/-- The table is transposed on its way to a table, so that its columns are counted, unless it is
transposed again. -/
theorem conversions_compose_counting : ∃ (t' : DataTable) (flat : List String),
    counting.Keeps .table ∧ counting.Keeps .cells ∧ counting.Keeps .rows ∧
      twoColumns.binding = some .registry ∧ (twoColumns.cells = [] ∨ 0 < twoColumns.width) ∧
      twoColumns.convertTo counting.convert .table true = .ok t' ∧
      t'.convertTo counting.convert (.int .usize) false = .ok (sizeOf 2) ∧
      t'.convertTo counting.convert (.int .usize) true =
        .error (.transform "usize" (.reason "need three columns")) ∧
      twoColumns.convertTo counting.convert (.list .text) false = .ok flat ∧
      flat.length = 6 ∧ flat[2 * 2 + 1]? = some "f" ∧
      (DataTable.ofRows twoColumns.cells).map (·.bind) = .ok twoColumns := by
  have hshape : twoColumns.cells = [] ∨ 0 < twoColumns.width := .inr (by decide)
  obtain ⟨htable, hcells, hrows⟩ :=
    conversions_compose (r := counting) (t := twoColumns) rfl rfl hshape
  obtain ⟨t', ht', -, hcompose⟩ := htable true
  obtain ⟨flat, hflat, hlength, hcell⟩ := hcells rfl
  obtain ⟨rows, hrun, hagain⟩ := hrows rfl
  cases hrun
  refine ⟨t', flat, rfl, rfl, rfl, rfl, hshape, ht', ?_, ?_, hflat, hlength, ?_, hagain⟩
  · exact (hcompose (.int .usize) false).2
  · exact (hcompose (.int .usize) true).2
  · exact hcell 2 1 (by decide)

end StepPhrase
