import TableClasses.Files.Fault
import TableClasses.Table

/-!
# Errors

What ends a run, by kind, with the sentence that reports it.
-/

namespace TableClasses

/-- Why a document cannot be loaded. -/
inductive LoadFault where
  | unknownFormat (path : String)
  | unreadable (path : String) (fault : Files.Fault)
  | malformed
  deriving DecidableEq, Repr

/-- Why a document is no schema or overlay. -/
inductive SchemaFault where
  | notAMapping
  | tablesNotMapping
  | unnamedTable
  | groupsNotMapping
  | overlayNotMapping
  | table (fault : TableFault)
  deriving DecidableEq, Repr

/-- Why settings cannot be used. -/
inductive SettingsFault where
  | noSchemaFile
  | schemaFileMissing (path : String)
  | emptyNamespace
  | noGenerators
  deriving DecidableEq, Repr

inductive Error where
  | load (fault : LoadFault)
  | schema (fault : SchemaFault)
  | configuration
  | settings (fault : SettingsFault)
  | file (fault : Files.Fault)
  | tableNotFound (table schemaFile : String)
  | noTables
  | unsupportedDataType (type : String)
  deriving DecidableEq, Repr

namespace LoadFault

def message : LoadFault → String
  | unknownFormat p => "Unsupported document format for " ++ p ++ " (expected .json or .toml)"
  | unreadable p f => "Cannot read " ++ p ++ ": " ++ f.message
  | malformed => "the document is malformed"

end LoadFault

namespace SchemaFault

def message : SchemaFault → String
  | notAMapping => "schema document must be a mapping"
  | tablesNotMapping => "\"tables\" must map table names to table records"
  | unnamedTable => "\"databaseTable\" must name the table"
  | groupsNotMapping => "\"databaseCols\" must contain \"ro\" and \"rw\" groups"
  | overlayNotMapping => "meta document must map table names to columns"
  | table f => f.message

end SchemaFault

namespace SettingsFault

def message : SettingsFault → String
  | noSchemaFile => "schema_file is required"
  | schemaFileMissing p => "Schema file not found: " ++ p
  | emptyNamespace => "base_namespace must not be empty"
  | noGenerators => "at least one artifact kind is required (collection, data, llstorage)"

end SettingsFault

namespace Error

def message : Error → String
  | load f => "Failed to parse schema: " ++ f.message
  | schema f => "Invalid schema: " ++ f.message
  | configuration => "Configuration error: the settings are malformed"
  | settings f => "Validation error: " ++ f.message
  | file f => "IO error: " ++ f.message
  | tableNotFound t s =>
    "Table with name " ++ t ++ " does not exist in provided schema " ++ s
  | noTables => "No tables could be generated from the provided schema"
  | unsupportedDataType t => "Unsupported data type: " ++ t

/-- Whether the message is one that users may rely on. The wording for malformed texts is not. -/
def isFixed : Error → Bool
  | load .malformed => false
  | configuration => false
  | _ => true

end Error

end TableClasses
