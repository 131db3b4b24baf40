import QueryGateway.Proofs.Catalog.Changes
import QueryGateway.Proofs.Outcome

/-!
# Texts that cannot be read

A text in the storage need not be the time or the list of columns it stands for, and the storage
says so in words of its own. A masked catalog has one and the same text in the place of all that
cannot be read, and a masked failure is without the words of the storage. What an operation answers
and the catalog behind it depend, up to masks, only on the masked catalog.
-/

namespace QueryGateway

/-! ## Masks -/

/-- A failure of the catalog without the words of the storage. What a client could take for a
failed look-up is one. -/
def CatalogError.masked : CatalogError → CatalogError
  | .notFound id => .notFound id
  | .writeFailed _ => .writeFailed (.stated "")
  | .readFailed _ | .migration _ | .io _ => .readFailed (.stated "")

/-- The text of a time, if it is one. -/
def maskedMoment (text : String) : String := if (Moment.ofStored? text).isSome then text else ""

/-- The text of a list of columns, if it is one. -/
def maskedColumns (text : String) : String := if (Wire.parseColumns text).toOption.isSome then text else ""

/-- A row without times that cannot be read. -/
def ConnectionRow.masked (r : ConnectionRow) : ConnectionRow :=
  { r with createdAt := maskedMoment r.createdAt, lastSynced := r.lastSynced.map maskedMoment }

/-- A row without columns that cannot be read. -/
def TableRow.masked (r : TableRow) : TableRow := { r with columns := maskedColumns r.columns }

/-- A catalog without texts that cannot be read. -/
def Catalog.masked (c : Catalog) : Catalog :=
  { c with connections := c.connections.map ConnectionRow.masked, tables := c.tables.map TableRow.masked }

/-- An outcome without texts that cannot be read and without the words of the storage. -/
def Catalog.maskedOutcome {α : Type} (o : Catalog.Outcome α) : Catalog.Outcome α :=
  (o.1.mapError CatalogError.masked, o.2.masked)

/-- Two outcomes are one result, or failures that differ in the words of the storage. -/
inductive Catalog.Agree {α : Type} : Except CatalogError α → Except CatalogError α → Prop
  | ok (x : α) : Agree (.ok x) (.ok x)
  | error {e e' : CatalogError} (h : e.masked = e'.masked) : Agree (.error e) (.error e')

theorem Catalog.agree_of_masked {α : Type} {r r' : Except CatalogError α}
    (h : r.mapError CatalogError.masked = r'.mapError CatalogError.masked) : Agree r r' := by
  cases r with
  | ok x =>
    cases r' with
    | ok y =>
      cases h
      exact .ok x
    | error e => cases h
  | error e =>
    cases r' with
    | ok y => cases h
    | error e' => exact .error (Except.error.inj h)

/-! ## Rows -/

theorem ofStored?_maskedMoment (text : String) : Moment.ofStored? (maskedMoment text) = Moment.ofStored? text := by
  unfold maskedMoment
  cases h : Moment.ofStored? text with
  | some t => exact h
  | none => rfl

theorem maskedMoment_maskedMoment (text : String) : maskedMoment (maskedMoment text) = maskedMoment text := by
  rw [maskedMoment, ofStored?_maskedMoment]
  unfold maskedMoment
  split <;> rfl

theorem parseColumns_maskedColumns (text : String) :
    (Wire.parseColumns (maskedColumns text)).toOption = (Wire.parseColumns text).toOption := by
  unfold maskedColumns
  cases h : Wire.parseColumns text with
  | ok cs => exact congrArg Except.toOption h
  | error m =>
    have blank : (Wire.parseColumns "").toOption = none := by decide +kernel
    exact blank

theorem maskedColumns_maskedColumns (text : String) : maskedColumns (maskedColumns text) = maskedColumns text := by
  rw [maskedColumns, parseColumns_maskedColumns]
  unfold maskedColumns
  split <;> rfl

theorem readMoment_maskedMoment (column text : String) :
    (readMoment column (maskedMoment text)).toOption = (readMoment column text).toOption := by
  unfold readMoment
  rw [ofStored?_maskedMoment]
  cases Moment.ofStored? text <;> rfl

namespace ConnectionRow

/-- A row without a time of its last sync that cannot be read. -/
def maskedSync (r : ConnectionRow) : ConnectionRow := { r with lastSynced := r.lastSynced.map maskedMoment }

@[simp] theorem masked_masked (r : ConnectionRow) : r.masked.masked = r.masked := by
  simp [masked, maskedMoment_maskedMoment, Function.comp_def]

/-- The masks take out no time that can be read. -/
theorem toOption_read_masked (r : ConnectionRow) : r.masked.read.toOption = r.read.toOption := by
  refine toOption_bind_congr (readMoment_maskedMoment "created_at" r.createdAt) fun createdAt => ?_
  refine toOption_bind_congr ?_ fun lastSynced => rfl
  show ((r.lastSynced.map maskedMoment).mapM (readMoment "last_synced")).toOption = _
  cases r.lastSynced with
  | none => rfl
  | some text => exact toOption_map_congr (readMoment_maskedMoment "last_synced" text) some

theorem toOption_read_maskedSync (r : ConnectionRow) : r.maskedSync.read.toOption = r.read.toOption := by
  rw [← toOption_read_masked, ← toOption_read_masked r]
  have same : r.maskedSync.masked = r.masked := by
    simp [maskedSync, masked, maskedMoment_maskedMoment, Function.comp_def]
  rw [same]

theorem masked_eq_maskedSync {r : ConnectionRow} (h : (Moment.ofStored? r.createdAt).isSome) :
    r.masked = r.maskedSync := by
  unfold masked maskedSync maskedMoment
  rw [if_pos h]

theorem toOption_read_eq_none {r : ConnectionRow} (h : (Moment.ofStored? r.createdAt).isSome = false) :
    r.read.toOption = none := by
  unfold read readMoment
  rw [Option.isSome_eq_false_iff.1 h |> Option.isNone_iff_eq_none.1]
  rfl

end ConnectionRow

namespace TableRow

@[simp] theorem masked_masked (r : TableRow) : r.masked.masked = r.masked := by
  simp [masked, maskedColumns_maskedColumns]

theorem toOption_read_masked (r : TableRow) : r.masked.read.toOption = r.read.toOption := by
  have columns := parseColumns_maskedColumns r.columns
  unfold read masked
  dsimp only
  cases h : Wire.parseColumns r.columns <;> cases h' : Wire.parseColumns (maskedColumns r.columns) <;>
    rw [h, h'] at columns <;> cases columns <;> rfl

end TableRow

namespace Catalog

variable {c c' : Catalog} {id : Int}

@[simp] theorem masked_masked (c : Catalog) : c.masked.masked = c.masked := by
  simp [masked, Function.comp_def]

@[simp] theorem isOpen_masked (c : Catalog) : c.masked.isOpen = c.isOpen := rfl

@[simp] theorem lastId_masked (c : Catalog) : c.masked.lastId = c.lastId := rfl

/-- A look-up that the masks do not change agrees on catalogs that are one up to masks. -/
theorem agree_of_look {α : Type} {look : Catalog → Except CatalogError α}
    (hlook : ∀ c, (look c.masked).mapError CatalogError.masked = (look c).mapError CatalogError.masked)
    (h : c.masked = c'.masked) : Agree (look c) (look c') := by
  refine agree_of_masked ?_
  rw [← hlook c, h, hlook c']

/-- So does an operation that the masks do not change, and it leaves such catalogs. -/
theorem maskedOutcome_congr {α : Type} {op : Catalog → Outcome α}
    (hop : ∀ c, maskedOutcome (op c.masked) = maskedOutcome (op c)) (h : c.masked = c'.masked) :
    maskedOutcome (op c) = maskedOutcome (op c') := by
  rw [← hop c, h, hop c']

/-! ## Look-ups -/

theorem find?_masked (c : Catalog) (id : Int) : c.masked.find? id = (c.find? id).map ConnectionRow.masked :=
  List.find?_map ..

theorem findUrl?_masked (c : Catalog) (url : String) :
    c.masked.findUrl? url = (c.findUrl? url).map ConnectionRow.masked := List.find?_map ..

theorem tablesOf_masked (c : Catalog) (id : Int) : c.masked.tablesOf id = (c.tablesOf id).map TableRow.masked :=
  List.filter_map ..

theorem seen_masked (r : ConnectionRow) :
    (seen r.masked).mapError CatalogError.masked = (seen r).mapError CatalogError.masked := by
  have read : ∀ q : ConnectionRow,
      (seen q).mapError CatalogError.masked = q.read.mapError fun _ => .readFailed (.stated "") := by
    intro q
    unfold seen
    cases q.read <;> rfl
  rw [read, read, mapError_const_congr r.toOption_read_masked]

theorem written_masked (r : ConnectionRow) :
    (written r.masked).mapError CatalogError.masked = (written r).mapError CatalogError.masked := by
  have read : ∀ q : ConnectionRow,
      (written q).mapError CatalogError.masked = q.read.mapError fun _ => .writeFailed (.stated "") := by
    intro q
    unfold written
    cases q.read <;> rfl
  rw [read, read, mapError_const_congr r.toOption_read_masked]

/-- The rows of a list are in another order if times that cannot be read are masked. But then
there is no list. -/
theorem toOption_mapM_sorted_masked (rows : List ConnectionRow) :
    ((sorted ConnectionRow.newer (rows.map ConnectionRow.masked)).mapM ConnectionRow.read).toOption =
      ((sorted ConnectionRow.newer rows).mapM ConnectionRow.read).toOption := by
  rw [toOption_mapM, toOption_mapM]
  by_cases h : ∀ r ∈ rows, (Moment.ofStored? r.createdAt).isSome
  · -- The order of two rows does not depend on when they were synced.
    have order : sorted ConnectionRow.newer (rows.map ConnectionRow.maskedSync) =
        (sorted ConnectionRow.newer rows).map ConnectionRow.maskedSync := sorted_map ..
    rw [List.map_congr_left fun r hr => ConnectionRow.masked_eq_maskedSync (h r hr), order, List.mapM_map]
    exact congrArg (fun read => List.mapM read _) (funext ConnectionRow.toOption_read_maskedSync)
  · obtain ⟨r, hr, unreadable⟩ : ∃ r ∈ rows, ¬ (Moment.ofStored? r.createdAt).isSome = true := by simpa using h
    have none := r.toOption_read_eq_none (by simpa using unreadable)
    rw [mapM_eq_none ((sorted_perm _ rows).mem_iff.2 hr) none]
    refine mapM_eq_none ((sorted_perm _ _).mem_iff.2 (List.mem_map_of_mem hr)) ?_
    rw [r.toOption_read_masked, none]

theorem list_masked (c : Catalog) :
    c.masked.list.mapError CatalogError.masked = c.list.mapError CatalogError.masked := by
  have read : ∀ rows : List ConnectionRow, (rows.mapM seen).mapError CatalogError.masked =
      (rows.mapM ConnectionRow.read).mapError fun _ => .readFailed (.stated "") := by
    intro rows
    show ((rows.mapM fun r : ConnectionRow => r.read.mapError .readFailed).mapError CatalogError.masked) = _
    rw [mapM_mapError]
    cases rows.mapM ConnectionRow.read <;> rfl
  unfold list
  rw [isOpen_masked]
  by_cases closed : (!c.isOpen) = true
  · rw [if_pos closed, if_pos closed]
  · rw [if_neg closed, if_neg closed, read, read]
    exact mapError_const_congr (toOption_mapM_sorted_masked c.connections) _

theorem get_masked (c : Catalog) (id : Int) :
    (c.masked.get id).mapError CatalogError.masked = (c.get id).mapError CatalogError.masked := by
  unfold get
  rw [isOpen_masked]
  by_cases closed : (!c.isOpen) = true
  · rw [if_pos closed, if_pos closed]
  · rw [if_neg closed, if_neg closed, find?_masked]
    cases c.find? id with
    | none => rfl
    | some r => exact seen_masked r

theorem metadata_masked (c : Catalog) (id : Int) :
    (c.masked.metadata id).mapError CatalogError.masked = (c.metadata id).mapError CatalogError.masked := by
  have read : ∀ rows : List TableRow,
      ((rows.mapM TableRow.read).mapError CatalogError.readFailed).mapError CatalogError.masked =
        (rows.mapM TableRow.read).mapError fun _ => .readFailed (.stated "") := by
    intro rows
    cases rows.mapM TableRow.read <;> rfl
  -- The order of two tables does not depend on their columns.
  have order : sorted TableRow.before (c.masked.tablesOf id) =
      (sorted TableRow.before (c.tablesOf id)).map TableRow.masked := by
    rw [tablesOf_masked]
    exact sorted_map ..
  refine mapError_bind_congr (get_masked c id) fun connection => mapError_bind_congr ?_ fun tables => rfl
  rw [order, read, read]
  refine mapError_const_congr ?_ _
  rw [toOption_mapM, toOption_mapM, List.mapM_map]
  exact congrArg (fun read => List.mapM read _) (funext TableRow.toOption_read_masked)

/-! ## Changes -/

theorem masked_register (c : Catalog) (url : String) (name : Option String) (now : Moment) :
    (c.masked.register url name now).masked = (c.register url name now).masked := by
  simp [register, issue, newRow, masked, Function.comp_def]

theorem upsert_masked (c : Catalog) (url : String) (name : Option String) (now : Moment) :
    maskedOutcome (c.masked.upsert url name now) = maskedOutcome (c.upsert url name now) := by
  have look : c.masked.issue.findUrl? url = (c.issue.findUrl? url).map ConnectionRow.masked :=
    c.issue.findUrl?_masked url
  unfold issue at look
  unfold upsert
  rw [isOpen_masked, lastId_masked] at *
  by_cases closed : (!c.isOpen) = true
  · rw [if_pos closed, if_pos closed]
    exact Prod.ext rfl c.masked_masked
  · by_cases full : c.lastId ≥ Text.maxInt64
    · rw [if_neg closed, if_neg closed, if_pos full, if_pos full]
      exact Prod.ext rfl c.masked_masked
    · rw [if_neg closed, if_neg closed, if_neg full, if_neg full]
      dsimp only
      rw [look]
      cases ({ c with lastId := c.lastId + 1 } : Catalog).findUrl? url with
      | some r => exact Prod.ext (written_masked r) c.issue.masked_masked
      | none => exact Prod.ext rfl (c.masked_register url name now)

theorem masked_fill (c : Catalog) (id : Int) (tables : List TableInfo) :
    (c.masked.fill id tables).masked = (c.fill id tables).masked := by
  simp [fill, clearTables, masked, TableRow.masked, List.filter_map, Function.comp_def, maskedColumns_maskedColumns,
    ConnectionRow.masked, maskedMoment_maskedMoment]

theorem replaceTables_masked (c : Catalog) (id : Int) (tables : List TableInfo) :
    maskedOutcome (c.masked.replaceTables id tables) = maskedOutcome (c.replaceTables id tables) := by
  have look : (c.masked.clearTables id).find? id = ((c.clearTables id).find? id).map ConnectionRow.masked :=
    c.find?_masked id
  unfold replaceTables transact
  dsimp only
  rw [isOpen_masked, look, insertTables_clearTables, insertTables_clearTables]
  by_cases closed : (!c.isOpen) = true
  · rw [if_pos closed, if_pos closed]
    exact Prod.ext rfl c.masked_masked
  · rw [if_neg closed, if_neg closed]
    cases (c.clearTables id).find? id with
    | none => exact Prod.ext rfl c.masked_masked
    | some r =>
      by_cases distinct : (tables.map TableInfo.key).Nodup
      · rw [if_pos distinct, if_pos distinct]
        exact Prod.ext rfl (c.masked_fill id tables)
      · rw [if_neg distinct, if_neg distinct]
        exact Prod.ext rfl c.masked_masked

theorem masked_modify (c : Catalog) (id : Int) {change : ConnectionRow → ConnectionRow}
    (hchange : ∀ r, (change r.masked).masked = (change r).masked) :
    (c.masked.modify id change).masked = (c.modify id change).masked := by
  have row : ∀ r : ConnectionRow, ConnectionRow.masked (if r.masked.id == id then change r.masked else r.masked) =
      ConnectionRow.masked (if r.id == id then change r else r) := by
    intro r
    show ConnectionRow.masked (if r.id == id then _ else _) = _
    split
    · exact hchange r
    · exact r.masked_masked
  unfold modify masked
  simp only [List.map_map, Function.comp_def, row, TableRow.masked_masked]

theorem masked_remove (c : Catalog) (id : Int) : (c.masked.remove id).masked = (c.remove id).masked := by
  unfold remove clearTables masked
  simp only [List.filter_map, List.map_map, Function.comp_def, ConnectionRow.masked_masked, TableRow.masked_masked]
  rfl

/-- A row is changed and answered without regard to what is masked. -/
theorem update_masked (c : Catalog) (id : Int) {change : ConnectionRow → ConnectionRow}
    (hchange : ∀ r, (change r.masked).masked = (change r).masked) :
    maskedOutcome (c.masked.update id change) = maskedOutcome (c.update id change) := by
  have hwritten : ∀ r, (written (change r.masked)).mapError CatalogError.masked =
      (written (change r)).mapError CatalogError.masked := by
    intro r
    rw [← written_masked, hchange, written_masked]
  unfold update
  rw [isOpen_masked, find?_masked]
  by_cases closed : (!c.isOpen) = true
  · rw [if_pos closed, if_pos closed]
    exact Prod.ext rfl c.masked_masked
  · rw [if_neg closed, if_neg closed]
    cases c.find? id with
    | none => exact Prod.ext rfl c.masked_masked
    | some r => exact Prod.ext (hwritten r) (c.masked_modify id hchange)

theorem touch_masked (c : Catalog) (id : Int) (now : Moment) :
    maskedOutcome (c.masked.touch id now) = maskedOutcome (c.touch id now) :=
  c.update_masked id fun r => by simp [ConnectionRow.masked, maskedMoment_maskedMoment]

theorem rename_masked (c : Catalog) (id : Int) (name : Option String) :
    maskedOutcome (c.masked.rename id name) = maskedOutcome (c.rename id name) :=
  c.update_masked id fun r => by simp [ConnectionRow.masked, maskedMoment_maskedMoment, Function.comp_def]

theorem delete_masked (c : Catalog) (id : Int) : maskedOutcome (c.masked.delete id) = maskedOutcome (c.delete id) := by
  unfold delete
  rw [isOpen_masked, find?_masked, Option.isNone_map]
  by_cases closed : (!c.isOpen) = true
  · rw [if_pos closed, if_pos closed]
    exact Prod.ext rfl c.masked_masked
  · rw [if_neg closed, if_neg closed]
    by_cases absent : (c.find? id).isNone = true
    · rw [if_pos absent, if_pos absent]
      exact Prod.ext rfl c.masked_masked
    · rw [if_neg absent, if_neg absent]
      exact Prod.ext rfl (c.masked_remove id)

end Catalog

end QueryGateway
