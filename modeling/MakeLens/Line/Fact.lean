/-! # Facts of a line

  What a logical line of a build file says: the targets, variables, references,
  include directives, function definitions and function calls found on it.
-/

namespace MakeLens

/-- One fact found on a line. A column is the character offset of the name. -/
inductive Fact where
  /-- A rule for a target. -/
  | target (name : String) (column : UInt32)
  /-- A rule for one of the special built-in targets, which name no symbol. -/
  | specialTarget (name : String)
  /-- A variable and the text assigned to it. -/
  | assignment (name : String) (column : UInt32) (value : String)
  /-- A use of a variable after a leading word. -/
  | reference (name : String) (column : UInt32)
  /-- An include directive with its paths as written. -/
  | inclusion (paths : List String)
  /-- The opening line of a function definition. -/
  | function (name : String) (column : UInt32)
  /-- A call of a function. -/
  | call (name : String) (column : UInt32)
  deriving DecidableEq, Repr

/-- The built-in targets that instruct the build tool and name no symbol. -/
def specialTargets : List String :=
  [".PHONY", ".SUFFIXES", ".DEFAULT", ".PRECIOUS", ".INTERMEDIATE", ".NOTINTERMEDIATE",
   ".SECONDARY", ".SECONDEXPANSION", ".DELETE_ON_ERROR", ".IGNORE", ".LOW_RESOLUTION_TIME",
   ".SILENT", ".EXPORT_ALL_VARIABLES", ".NOTPARALLEL", ".ONESHELL", ".POSIX"]

end MakeLens
