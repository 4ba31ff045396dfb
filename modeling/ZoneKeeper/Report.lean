import ZoneKeeper.Files

/-!
# Reports

What a run of a program leaves behind.
-/

namespace ZoneKeeper

structure Report where
  exitCode : Nat := 0
  output : String := ""
  /-- What is said about a failure. -/
  complaint : String := ""
  files : Files

namespace Report

def failed (reason : String) (files : Files) (output : String := "") : Report :=
  { exitCode := 1, output, complaint := "Error: " ++ reason ++ "\n", files }

end Report

end ZoneKeeper
