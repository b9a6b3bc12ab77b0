import FormulaSql.Conversion

/-!
# Demonstration

Ten formulas and their SQL, with the columns `A` to `Z` and a second sheet.
-/

namespace FormulaSql.Demo

/-- The formulas that are shown. -/
def formulas : List String := [
  "=A2*B2",
  "=SUM(C2:C10)",
  "=IF(D2>100, 'High', 'Low')",
  "=ROUND(E2/F2, 2)",
  "=(G2-H2)/H2",
  "=I2*(1+J2)",
  "=IFERROR(K2/L2, 0)",
  "=Table[[#This Row],[Amount]]*Table[[#This Row],[Price]]",
  "=Sheet2!A2+Sheet2!B2",
  "=IF(AND(M2>0, N2<100), M2*0.1, 0)"]

/-- The columns `A` to `Z` are named `col_a` to `col_z`. -/
def columns : Datum :=
  .dict ((List.range 26).map fun i =>
    ((Char.ofNat (65 + i)).toString, Datum.text ("col_" ++ (Char.ofNat (97 + i)).toString)))

/-- The tables of names of the demonstration. -/
def names : Sql.Names :=
  ⟨columns, .dict [("Sheet2", "other_table")]⟩

/-- The line above and below the title. -/
def rule : String :=
  String.ofList (List.replicate 80 '=')

/-- A formula and its SQL. -/
def entry (formula : String) : String :=
  "\nExcel: " ++ formula ++ "\nSQL:   " ++ (convertFormula formula names "Sheet1").spell ++ "\n"

/-- The whole demonstration. -/
def output : String :=
  rule ++ "\nExcel Formula to SQL Converter - Test Suite\n" ++ rule ++ "\n" ++ String.join (formulas.map entry)

end FormulaSql.Demo
