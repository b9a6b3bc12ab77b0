import FormulaSql.Demo

/-!
# Command line

Prints the demonstration.
-/

/-- Prints the demonstration. -/
def main : IO Unit :=
  IO.print FormulaSql.Demo.output
