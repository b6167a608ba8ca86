/-
# Configuration

The settings that statements, relations and resolvers share.  `validate` says
which configurations are accepted; of several faults the first in its order is
reported.
-/

import EntityQuery.Error
import EntityQuery.Sql.Identifier
import EntityQuery.Text.Alphanumeric

namespace EntityQuery

/-- The settings of a context. -/
structure Config where
  quoteChar : Char := '\x60'
  softDeleteColumn : String := "deleted_at"
  defaultPerPage : Nat := 15
  maxSqlLogLength : Option Nat := some 200
  modelNamespace : String := "app::models"
  deriving DecidableEq, Repr

namespace Config

/-- The quoting of identifiers. -/
def quoting (c : Config) : Quoting :=
  ⟨c.quoteChar⟩

/-- The fault of a configuration that is refused. -/
def fault? (c : Config) : Option ConfigFault :=
  if Text.isBlankText c.softDeleteColumn then some .emptySoftDeleteColumn
  else if c.defaultPerPage = 0 then some .zeroPageSize
  else if Text.isAlphanumeric c.quoteChar || c.quoteChar == '?' then
    some (.quoteCharacter c.quoteChar)
  else none

/-- Accepts a configuration or says what is wrong with it. -/
def validate (c : Config) : Except Error Unit :=
  match c.fault? with
  | some fault => .error (.config fault)
  | none => .ok ()

end Config
end EntityQuery
