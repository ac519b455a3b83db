import TableClasses.Report.Warning

/-!
# Mapper

A mapper resolves type names to mappings and remembers the answers, so that a type that cannot be
mapped is reported once. Giving a type a family forgets all answers.
-/

namespace TableClasses.ValueObject

/-- Conversions with the answers given so far, by normalized name. -/
structure Mapper where
  conversions : Conversions
  answers : Entries (Option Mapping) := []

namespace Mapper

def ofCatalog (catalog : Catalog) : Mapper := { conversions := .ofCatalog catalog }

def register (m : Mapper) (type : String) (family : Family) : Mapper :=
  { conversions := m.conversions.register type family }

def isKnown (m : Mapper) (type : String) : Bool := m.conversions.isKnown type

/-- The mapping of a type, if it has one and may be mapped. -/
def answer (c : Conversions) (name : String) : Warned (Option Mapping) :=
  match c.resolve name with
  | .ok mapping => pure mapping
  | .error fault => do
    warn (.mappingRejected name fault)
    return none

/-- Resolves a type name, from the remembered answers if possible. -/
def resolve (m : Mapper) (type : String) : Warned (Option Mapping × Mapper) :=
  let name := normalizeName type
  if name = "" then pure (none, m)
  else
    match m.answers.get? name with
    | some mapping => pure (mapping, m)
    | none => do
      let mapping ← answer m.conversions name
      return (mapping, { m with answers := m.answers.put name mapping })

end Mapper

end TableClasses.ValueObject
