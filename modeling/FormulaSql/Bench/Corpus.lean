import FormulaSql.Demo

/-!
# The corpus of workloads

Forty-one formulas that together reach every way of reading and writing a formula, and the names they are converted with.
-/

namespace FormulaSql.Bench

/-- The formulas. -/
def corpus : List String := [
  "=A2*B2",
  "=SUM(C2:C10)",
  "=IF(D2>100,\"Hi\"\"gh\",\"Low\")",
  "=ROUND(E2/F2,2)",
  "=(G2-H2)/H2",
  "=I2*(1+J2)",
  "=IFERROR(K2/L2,0)",
  "=Sales[[#This Row],[Amount]]*Sales[Cost]",
  "=Sheet2!A2+'My Sheet'!B2",
  "=IF(AND(M2>0,N2<100),M2*0.1,0)",
  "=OR(A1<=5,B1>=10,C1<>D1)",
  "=NOT(A1=1)",
  "=-A1+B1-3.5",
  "=2^3^2",
  "=\"foo\"&\"bar\"&A1",
  "=LEN(TRIM(UPPER(LOWER(\"  x'y  \"))))",
  "=CONCAT(\"a\",\"b\",\"c\")",
  "=CONCATENATE(A1,B1)",
  "=VLOOKUP(A1,B1:C10,2,0)",
  "=INDEX(A1:A10,MATCH(B1,C1:C10,0))",
  "=XLOOKUP(A1,B1:B10,C1:C10)",
  "=HLOOKUP(A1,A1:Z10,2)",
  "=COUNTIFS(A1:A10,\">0\",B1:B10,\"<5\")",
  "=SUMIF(A1:A10,\">0\")",
  "=SUMIFS(A1:A10,B1:B10,\">0\")",
  "=COUNTIF(A1:A10,5)",
  "=AVERAGEIFS(A1:A10,B1:B10,\"x\")",
  "=AVG($A$1:$B$20)+MIN(A1)-MAX(B1)*COUNT(C1)/ABS(-5)+SQRT(9)",
  "=50%+25%+12.5",
  "=Tbl[[#Totals Row],[Weird Col]]",
  "=Tbl[]",
  "=UNKNOWNFUNC(A1,2,\"x\")",
  "=IF(A1>0,1)",
  "=IFERROR(A1)",
  "=NOT()",
  "=LEN()",
  "=TRIM()",
  "=A1:B2",
  "='bad sheet",
  "=\"unterminated",
  "="]

/-- The first `n` formulas of the corpus repeated without end. -/
def corpusFront (n : Nat) : List String :=
  (List.range n).map fun i => corpus[i % corpus.length]?.getD ""

/-- The names that the corpus is converted with. -/
def corpusNames : Sql.Names :=
  ⟨Demo.columns, .dict [("Sheet2", "other_table"), ("My Sheet", "my_sheet")]⟩

/-- The sheet that the corpus is converted on. -/
def corpusSheet : Datum :=
  "Sheet1"

end FormulaSql.Bench
