import FormulaSql.Conversion
import FormulaSql.Proofs.Sql.Layout

/-!
# What SQL depends on

The tables of names and the current sheet come into SQL through cells only. So two conversions of a tree agree where the
two sides agree on its cells (`convert_congr`), and on a cell they agree if they give its column the same name, both
qualify it or both do not, and give its sheet the same name where they do (`SameCell`, `cell_same`). Nothing else of one
workbook shows in the SQL of a formula of another one.

A converter keeps its current sheet from one request to the next, but each conversion sets it anew. Requests do not
touch the tables (`serveAll_names`), so **what a converter has served before does not matter** (`convert_same`).
-/

namespace FormulaSql

/-! ## The cells of a tree -/

mutual

/-- The cells of a tree with their sheets, also those in arguments that are not written. -/
def Expr.cells : Expr → List (Datum × Datum)
  | .cell name sheet => [(name, sheet)]
  | .binary _ left right => left.cells ++ right.cells
  | .unary _ operand => operand.cells
  | .call _ args => Expr.cellsAll args
  | .number _ | .text _ | .range _ _ | .table _ _ _ | .blank => []

/-- The cells of the arguments of a call. -/
def Expr.cellsAll : List Expr → List (Datum × Datum)
  | [] => []
  | e :: es => e.cells ++ Expr.cellsAll es

end

namespace Sql

/-! ## Agreement on cells -/

/-- The name of the column of a cell. -/
def columnOf (names : Names) (name : String) : Except Fault Datum :=
  lookup names.columns (columnLetters name) (.ok (Text.lower (columnLetters name)))

/-- Whether a cell is qualified: it has a sheet, and that is not the current one. -/
def isForeign (current sheet : Datum) : Bool :=
  sheet.isPresent && !sheet.agrees current

/-- The name of a sheet. -/
def sheetOf (names : Names) (sheet : Datum) : Except Fault Datum :=
  lookup names.sheets sheet (lowerCase sheet)

section Agreement

variable {names names' : Names} {current current' : Datum}

/-- Two settings agree on a cell. The name of its sheet is compared only where the cell is qualified. -/
structure SameCell (names names' : Names) (current current' : Datum) (name : String) (sheet : Datum) : Prop where
  column : columnOf names name = columnOf names' name
  foreign : isForeign current sheet = isForeign current' sheet
  sheet : isForeign current sheet → sheetOf names sheet = sheetOf names' sheet

/-- A cell is written by the name of its column and, where it is qualified, by that of its sheet. -/
theorem cell_eq (names : Names) (current : Datum) (name : String) (sheet : Datum) :
    cell names current (.text name) sheet = columnOf names name >>= fun column =>
      if isForeign current sheet then
        sheetOf names sheet >>= fun table => .ok (.text (table.spell ++ "." ++ column.spell))
      else .ok column :=
  rfl

/-- Where two settings agree on a cell they write it in the same way. -/
theorem cell_same {name : String} {sheet : Datum} (h : SameCell names names' current current' name sheet) :
    cell names current (.text name) sheet = cell names' current' (.text name) sheet := by
  rw [cell_eq, cell_eq, ← h.column, ← h.foreign]
  by_cases hforeign : isForeign current sheet
  · simp only [hforeign, if_true, h.sheet hforeign]
  · simp only [hforeign]
    rfl

mutual

/-- **SQL depends on the setting through cells only.** This holds of every tree, also where it cannot be written: then
both conversions fail in the same way. -/
theorem convert_congr : ∀ {e : Expr},
    (∀ name sheet, (name, sheet) ∈ e.cells → cell names current name sheet = cell names' current' name sheet) →
      convert names current e = convert names' current' e
  | .number _, _ => by rw [convert, convert]
  | .text (.text _), _ => by rw [convert, convert]
  | .text .null, _ | .text (.bool _), _ | .text (.whole _), _ | .text (.real _), _ | .text (.list _), _
  | .text (.dict _), _ => by simp only [convert]
  | .cell name sheet, h => by
    rw [convert, convert]
    exact h name sheet (by simp [Expr.cells])
  | .range _ _, _ => by rw [convert, convert]
  | .table _ _ _, _ => by rw [convert, convert]
  | .binary s left right, h => by
    have hleft : convert names current left = convert names' current' left :=
      convert_congr fun name sheet hmem => h name sheet (by simp [Expr.cells, hmem])
    have hright : convert names current right = convert names' current' right :=
      convert_congr fun name sheet hmem => h name sheet (by simp [Expr.cells, hmem])
    rw [convert, convert, hleft, hright]
  | .unary s operand, h => by
    have hoperand : convert names current operand = convert names' current' operand :=
      convert_congr fun name sheet hmem => h name sheet (by simpa [Expr.cells] using hmem)
    rw [convert, convert, hoperand]
  | .call name args, h => by
    have hargs : convertAll names current args = convertAll names' current' args :=
      convertAll_congr fun name sheet hmem => h name sheet (by simpa [Expr.cells] using hmem)
    rw [convert, convert, hargs]
  | .blank, _ => by rw [convert, convert]

/-- So it is for the arguments of a call. -/
theorem convertAll_congr : ∀ {es : List Expr},
    (∀ name sheet, (name, sheet) ∈ Expr.cellsAll es → cell names current name sheet = cell names' current' name sheet) →
      convertAll names current es = convertAll names' current' es
  | [], _ => by rw [convertAll, convertAll]
  | e :: es, h => by
    have hfirst : convert names current e = convert names' current' e :=
      convert_congr fun name sheet hmem => h name sheet (by simp [Expr.cellsAll, hmem])
    have hrest : convertAll names current es = convertAll names' current' es :=
      convertAll_congr fun name sheet hmem => h name sheet (by simp [Expr.cellsAll, hmem])
    rw [convertAll, convertAll, hfirst, hrest]

end

end Agreement

end Sql

/-! ## Requests to a converter -/

namespace Converter

/-- What can be asked of a converter. -/
inductive Request where
  | convert (e : Expr) (sheet : Datum)
  /-- A tree on whatever sheet is the current one. -/
  | node (e : Expr)

/-- The converter after a request. -/
def serve (c : Converter) : Request → Converter
  | .convert e sheet => (c.convert e sheet).1
  | .node _ => c

/-- The converter after requests that come one after the other. -/
def serveAll (c : Converter) : List Request → Converter
  | [] => c
  | r :: rs => (c.serve r).serveAll rs

theorem serve_names (c : Converter) (r : Request) : (c.serve r).names = c.names := by
  cases r <;> rfl

/-- No row of requests touches the tables of names. -/
theorem serveAll_names : ∀ (rs : List Request) (c : Converter), (c.serveAll rs).names = c.names
  | [], _ => rfl
  | r :: rs, c => by rw [serveAll, serveAll_names rs, serve_names]

/-- The SQL of a tree on a sheet, whatever was asked before. -/
theorem convert_serveAll (c : Converter) (rs : List Request) (e : Expr) (sheet : Datum) :
    ((c.serveAll rs).convert e sheet).2 = Sql.convert c.names sheet e := by
  rw [← serveAll_names rs c]
  rfl

/-- **SQL depends on the tables and on the current sheet only where the tree refers to them.** Two converters give the
same SQL for a tree of texts if they agree on each of its cells, whatever requests the two have served before. It is
enough that the tables of one of them map to texts. -/
theorem convert_same (c c' : Converter) (rs rs' : List Request) {e : Expr} (he : e.Typed) {sheet sheet' : Datum}
    (hc : Sql.mapsToTexts c.names.columns) (hs : Sql.mapsToTexts c.names.sheets)
    (hcells : ∀ name own, (.text name, own) ∈ e.cells → Sql.SameCell c.names c'.names sheet sheet' name own) :
    ∃ sql : String, ((c.serveAll rs).convert e sheet).2 = .ok (.text sql) ∧
      ((c'.serveAll rs').convert e sheet').2 = .ok (.text sql) := by
  have hsame : Sql.convert c.names sheet e = Sql.convert c'.names sheet' e := by
    refine Sql.convert_congr fun name own hmem => ?_
    cases name with
    | text name => exact Sql.cell_same (hcells name own hmem)
    | _ => rfl
  have hsql := @Sql.convert_typed c.names sheet hc hs e he
  refine ⟨Sql.sqlOf (Sql.pieces c.names sheet e), ?_, ?_⟩
  · rw [convert_serveAll, hsql]
  · rw [convert_serveAll, ← hsame, hsql]

/-- A tree of three cells, two of which stand in an argument that is not written. -/
def sharedTree : Expr :=
  .call "NOT" [.cell "$A$1" "Data", .binary "+" (.cell "B2" "") (.cell "A7" .null)]

/-- The names of one workbook. -/
def ownNames : Sql.Names :=
  ⟨.dict [("A", "x"), ("C", "secret")], .dict [("Data", "d")]⟩

/-- The names of another one. They map `B` to what it is by default, and a sheet that the first does not know. -/
def otherNames : Sql.Names :=
  ⟨.dict [("B", "b"), ("A", "x")], .dict [("Sheet1", "hidden"), ("Data", "d")]⟩

/-- Two workbooks that have in common only what a tree refers to. -/
theorem convert_same_workbooks :
    sharedTree.Typed ∧ Sql.mapsToTexts ownNames.columns ∧ Sql.mapsToTexts ownNames.sheets ∧
    (∀ name own, (.text name, own) ∈ sharedTree.cells → Sql.SameCell ownNames otherNames "Sheet1" "Sheet2" name own) ∧
    ∃ sql : String,
      (((ofNames ownNames).serveAll [.convert (.cell "C1" .null) "Data", .node (.cell "C1" "Data")]).convert
        sharedTree "Sheet1").2 = .ok (.text sql) ∧
      (((ofNames otherNames).serveAll []).convert sharedTree "Sheet2").2 = .ok (.text sql) := by
  have htyped : sharedTree.Typed :=
    .call "NOT" (List.forall_mem_cons.2 ⟨.sheetCell "$A$1" "Data",
      List.forall_mem_singleton.2 (.binary "+" (.sheetCell "B2" "") (.cell "A7"))⟩)
  have hcolumns : Sql.mapsToTexts ownNames.columns := by decide
  have hsheets : Sql.mapsToTexts ownNames.sheets := by decide
  have hcells : ∀ name own, (.text name, own) ∈ sharedTree.cells →
      Sql.SameCell ownNames otherNames "Sheet1" "Sheet2" name own := by
    intro name own hmem
    simp only [sharedTree, Expr.cells, Expr.cellsAll, List.append_nil, List.mem_append, List.mem_singleton,
      Prod.mk.injEq, Datum.text.injEq] at hmem
    rcases hmem with ⟨rfl, rfl⟩ | ⟨rfl, rfl⟩ | ⟨rfl, rfl⟩
    · exact ⟨rfl, rfl, fun _ => rfl⟩
    · exact ⟨rfl, rfl, fun h => absurd h (by decide)⟩
    · exact ⟨rfl, rfl, fun h => absurd h (by decide)⟩
  exact ⟨htyped, hcolumns, hsheets, hcells,
    convert_same (ofNames ownNames) (ofNames otherNames) _ _ htyped hcolumns hsheets hcells⟩

end Converter

end FormulaSql
