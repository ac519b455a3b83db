import TableClasses.Path

/-!
# Where and how files are written

The file of a class lies below the output directory, at the path that the class name gives.
-/

namespace TableClasses.Output

structure Options where
  directory : String := "./app/model"
  /-- The namespace that paths leave out. -/
  ignoredNamespace : String := ""
  /-- Whether files are only looked at. -/
  dryRun : Bool := false
  /-- Whether existing files are replaced. -/
  force : Bool := false
  /-- Whether files are printed. -/
  print : Bool := false
  deriving DecidableEq, Repr

/-- The path of the file of a class. -/
def Options.pathOf (o : Options) (className : String) : String :=
  Path.join o.directory (Path.ofClass className o.ignoredNamespace)

end TableClasses.Output
