/-
# Configuration files

A configuration is read from a TOML document.  A key that is missing keeps its
default, and a key that is not known is ignored.  A document that is malformed
or has a value of the wrong type is refused before the settings themselves are
looked at.
-/

import EntityQuery.Config
import EntityQuery.Toml.Reader

namespace EntityQuery
namespace Config

/-- The setting of a key, its default if the key is missing, or none if `read` refuses it. -/
def setting? {α : Type} (entries : Toml.Entries) (key : String) (default : α)
    (read : Toml → Option α) : Option α :=
  match Keyed.find? key entries with
  | none => some default
  | some value => read value

/-- A text. -/
def readText : Toml → Option String
  | .string s => some s
  | _ => none

/-- A text of one character. -/
def readChar : Toml → Option Char
  | .string s =>
    match s.toList with
    | [c] => some c
    | _ => none
  | _ => none

/-- A number of eight bytes without a sign. -/
def readCount : Toml → Option Nat
  | .integer n => if 0 ≤ n ∧ n < UInt64.size then some n.toNat else none
  | _ => none

/-- The settings of a document, if every one has the right type. -/
def ofEntries? (entries : Toml.Entries) : Option Config := do
  let d : Config := {}
  let quoteChar ← setting? entries "quote_char" d.quoteChar readChar
  let softDeleteColumn ← setting? entries "soft_delete_column" d.softDeleteColumn readText
  let defaultPerPage ← setting? entries "default_per_page" d.defaultPerPage readCount
  let maxSqlLogLength ←
    setting? entries "max_sql_log_length" d.maxSqlLogLength fun v => (readCount v).map some
  let modelNamespace ← setting? entries "model_namespace" d.modelNamespace readText
  return ⟨quoteChar, softDeleteColumn, defaultPerPage, maxSqlLogLength, modelNamespace⟩

/-- Reads a configuration and validates it. -/
def ofToml (text : String) : Except Error Config :=
  match (Toml.parse? text).bind ofEntries? with
  | none => .error (.config .malformed)
  | some config => config.validate.map fun _ => config

end Config
end EntityQuery
