import TableClasses.Schema.Record
import TableClasses.Table
import TableClasses.Files.Fault

/-!
# Warnings

What may go wrong without ending a run, with the sentence that reports it. `Warned` is a value with
the warnings that came up on the way to it, first to last.
-/

namespace TableClasses

open ValueObject Schema Text

/-- A key of column options that is not known. -/
structure UnknownOption where
  name : String
  deriving DecidableEq, Repr

def UnknownOption.message (u : UnknownOption) : String := "Invalid meta name \"" ++ u.name ++ "\""

/-- Why a generated file was not written. -/
inductive WriteFault where
  | present (path : String)
  | failed (path : String) (fault : Files.Fault)
  deriving DecidableEq, Repr

namespace WriteFault

def path : WriteFault → String
  | present p => p
  | failed p _ => p

def message : WriteFault → String
  | present p =>
    "File " ++ p ++ " exists. Use force (--force|-f) if you need recreate the model."
  | failed p f => "File " ++ p ++ " cannot be written: " ++ f.message

end WriteFault

inductive Warning where
  -- about types
  | unsupportedDataType (type : String)
  | mappingRejected (type : String) (fault : MappingFault)
  -- about column options
  | unknownOption (option : UnknownOption)
  | typeClassNotText (value : Json)
  | commentNotOptions (comment : String)
  | commentMalformed (comment : String)
  | commentUnused (comment : String)
  | columnMetaNotMapping (table column : String) (value : Json)
  | tableMetaNotMapping (table : String) (value : Json)
  | typeClassUnknown (type table column : String)
  -- about tables and columns
  | notARecord (table column : String) (fault : RecordFault)
  | noDataType (table column : String)
  | defaultNotScalar (value : Json)
  | compositeKey (table first other : String)
  | keyNotAColumn (key table : String)
  | unknownGroup (group table : String)
  | groupNotMapping (group table : String) (value : Json)
  | tableSkipped (table : String) (fault : TableFault)
  -- about generation
  | defaultNotLiteral (text column : String) (scalar : Scalar)
  | generatorUnknown (name : String)
  | metaFileMissing (path : String)
  | needsForce (path : String)
  | notWritten (fault : WriteFault)
  | finishedWithErrors

namespace Warning

def message : Warning → String
  | unsupportedDataType t => "Unsupported data type: " ++ t ++ "; treating column as string"
  | mappingRejected t f => "Value object mapping for " ++ t ++ " rejected: " ++ f.message
  | unknownOption u => u.message ++ ". Ignoring."
  | typeClassNotText v => "Invalid type class " ++ v.text ++ ". Ignoring."
  | commentNotOptions c => "Column comment " ++ quoted c ++ " is not an options object. Ignoring."
  | commentMalformed c => "Malformed options in column comment " ++ quoted c ++ ": <json error>"
  | commentUnused c =>
    "Column comment " ++ quoted c ++ " is neither an options object nor a type name. Ignoring."
  | columnMetaNotMapping t c v =>
    "Meta for column " ++ t ++ "." ++ c ++ " is not a mapping (" ++ v.text ++ "). Ignoring."
  | tableMetaNotMapping t v =>
    "Meta for table " ++ t ++ " is not a mapping (" ++ v.text ++ "). Ignoring."
  | typeClassUnknown y t c =>
    "Invalid type class \"" ++ y ++ "\" for column " ++ t ++ "." ++ c
  | notARecord t c f =>
    "Column " ++ t ++ "." ++ c ++ " is not a column record (" ++ f.message ++ "). Skipping."
  | noDataType t c => "Column " ++ t ++ "." ++ c ++ " has no data type. Skipping."
  | defaultNotScalar v => "Unsupported default value " ++ v.text ++ ". Ignoring."
  | compositeKey t a b =>
    "Table " ++ t ++ " has a composite primary key; using " ++ a ++ " and ignoring " ++ b ++ "."
  | keyNotAColumn k t =>
    "Primary key " ++ k ++ " is not a column of table " ++ t ++ ". Ignoring."
  | unknownGroup g t => "Unknown column group " ++ g ++ " in table " ++ t ++ ". Ignoring."
  | groupNotMapping g t v =>
    "Column group " ++ g ++ " of table " ++ t ++ " is not a mapping (" ++ v.text ++ "). Ignoring."
  | tableSkipped t f => "Invalid schema: " ++ f.message ++ ". Skipping table " ++ t ++ "."
  | defaultNotLiteral d c s =>
    "Default " ++ quoted d ++ " of column " ++ c ++ " is not a valid " ++ s.name
      ++ " literal. Dropping it."
  | generatorUnknown n => "Generator " ++ n ++ " is not allowed. Skipping."
  | metaFileMissing p => "Meta file " ++ p ++ " not found. Continuing without it."
  | needsForce p => "File " ++ p ++ " exists. You must use force (--force|-f) to recreate."
  | notWritten f => f.message
  | finishedWithErrors => "Finished with errors."

end Warning

/-! ## Values with warnings -/

/-- A value and the warnings on the way to it. -/
structure Warned (α : Type) where
  value : α
  warnings : List Warning := []

namespace Warned

variable {α β : Type}

instance : Monad Warned where
  pure a := ⟨a, []⟩
  bind x f := ⟨(f x.value).value, x.warnings ++ (f x.value).warnings⟩

@[simp] theorem value_pure (a : α) : (pure a : Warned α).value = a := rfl

@[simp] theorem warnings_pure (a : α) : (pure a : Warned α).warnings = [] := rfl

@[simp] theorem value_bind (x : Warned α) (f : α → Warned β) :
    (x >>= f).value = (f x.value).value := rfl

@[simp] theorem warnings_bind (x : Warned α) (f : α → Warned β) :
    (x >>= f).warnings = x.warnings ++ (f x.value).warnings := rfl

@[simp] theorem map_eq (f : α → β) (x : Warned α) : f <$> x = ⟨f x.value, x.warnings⟩ := by
  show (⟨f x.value, x.warnings ++ []⟩ : Warned β) = _
  simp

instance : LawfulMonad Warned :=
  .mk' Warned (fun x => by simp) (fun a f => by simp [bind, pure])
    (fun x f g => by simp [bind, List.append_assoc])

end Warned

/-- Reports a warning. -/
def warn (w : Warning) : Warned Unit := ⟨(), [w]⟩

@[simp] theorem warnings_warn (w : Warning) : (warn w).warnings = [w] := rfl

end TableClasses
