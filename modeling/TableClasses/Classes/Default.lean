import TableClasses.Classes.Build
import TableClasses.Schema.Flag
import TableClasses.Decimal.Numeral

/-!
# Defaults of constructor parameters

The default of a column becomes a literal of its category if its text is one; otherwise it is
dropped with a warning. A parameter keeps its default only if all parameters after it have one, so
defaults are looked at from the last column backwards up to the first without.
-/

namespace TableClasses.Classes

open TableClasses.Code TableClasses.Decimal

/-- The literal that a text is in a category. -/
def literalOf? (text : String) : Scalar → Option Literal
  | .int => (int64Of? text).map .int
  | .float => ((binaryOf? text).filter Binary64.isFinite).map .float
  | .bool => some (.bool (Schema.isTrueText text))
  | .string => some (.string text)
  | .json => none
  | .datetime => none

/-- The default of a column as a literal. -/
def defaultLiteral (c : Column) : Warned (Option Literal) :=
  if !c.hasDefault then pure none
  else
    match c.default with
    | none => pure (if c.nullable then some .null else none)
    | some text =>
      if c.isValueObject then pure none
      else
        match literalOf? text c.scalar with
        | some literal => pure (some literal)
        | none => do
          warn (.defaultNotLiteral text c.name c.scalar)
          return none

/-- The literals of the longest run of columns that have one, for columns given last first. -/
def trailingDefaults : List Column → Warned (List Literal)
  | [] => pure []
  | c :: rest => do
    match ← defaultLiteral c with
    | some literal => return literal :: (← trailingDefaults rest)
    | none => return []

/-- The default of each parameter. -/
def parameterDefaults (columns : List Column) : Warned (List (Option Literal)) := do
  let literals ← trailingDefaults columns.reverse
  return List.replicate (columns.length - literals.length) none ++ (literals.map some).reverse

end TableClasses.Classes
