/-
# Errors

An error is a cause: each constructor below says what went wrong and carries
what the message needs.  The wording stands in one place per cause, and
`Error.message` is the whole text a caller sees.

A connection or a class loader may report an error of any sort in words of its
own; `reported` carries them.
-/

import EntityQuery.Sql.Kind
import EntityQuery.Sql.Operator
import EntityQuery.Value.Basic

namespace EntityQuery

/-- A call that the builder refuses. -/
inductive Misuse where
  | emptyColumn
  | emptyListColumn
  | emptyList (column : String)
  | emptyOperatorList (op : Operator) (column : String)
  | rangeBounds (column : String)
  | listOperand (op : Operator) (column : String)
  | unknownOperator (text : String)
  | subqueryOperator (op : Operator)
  | subqueryKind
  | havingOperator (op : Operator)
  | jsonPathOperator (op : Operator)
  | unknownDirection (text : String)
  | emptyRanking
  | jsonInGroup
  | noColumns (kind : Kind)
  | blankColumn (kind : Kind)
  | noUniqueColumns
  | eagerWithoutModel
  | noTable
  | noModel (table : String)
  | emptySearch
  | unknownRelation (relation cls : String)
  | reported (text : String)

/-- What is wrong with the call. -/
def Misuse.message : Misuse → String
  | .emptyColumn => "WHERE column cannot be empty"
  | .emptyListColumn => "WHERE IN column cannot be empty"
  | .emptyList column => "WHERE IN on '" ++ column ++ "' requires at least one value"
  | .emptyOperatorList op column => op.sql ++ " on '" ++ column ++ "' requires at least one value"
  | .rangeBounds column => "BETWEEN on '" ++ column ++ "' requires exactly two values"
  | .listOperand op column =>
    "Operator '" ++ op.sql ++ "' on '" ++ column ++ "' cannot take a list value"
  | .unknownOperator text => "Unsupported operator '" ++ text ++ "'"
  | .subqueryOperator op => "Operator '" ++ op.sql ++ "' cannot compare against a sub-query"
  | .subqueryKind => "WHERE sub-query must be a SELECT"
  | .havingOperator op => "Operator '" ++ op.sql ++ "' is not supported in HAVING"
  | .jsonPathOperator op => "Operator '" ++ op.sql ++ "' is not supported on JSON paths"
  | .unknownDirection text => "Invalid sort direction '" ++ text ++ "', expected ASC or DESC"
  | .emptyRanking => "ORDER BY CASE requires at least one WHEN"
  | .jsonInGroup => "JSON predicates cannot be used inside a nested WHERE group"
  | .noColumns kind => kind.name ++ " requires at least one column"
  | .blankColumn kind => kind.name ++ " column name cannot be empty"
  | .noUniqueColumns => "UPSERT requires at least one unique column"
  | .eagerWithoutModel => "with() requires a model class; call model() first"
  | .noTable => "Statement has no table; call from() first"
  | .noModel table =>
    "Statement on '" ++ table ++ "' has no model class; use fetch_rows() or model()"
  | .emptySearch => "search requires at least one column"
  | .unknownRelation relation cls => "Relation '" ++ relation ++ "' is not defined on " ++ cls
  | .reported text => text

/-- A statement whose parts do not fit together. -/
inductive Conflict where
  | kindChange (defined requested : Kind)
  | placeholderCount (placeholders bindings : Nat) (sql : String)
  | unfilteredDelete (table : String)
  | uncountable (kind : Kind)
  | loaderTooDeep (name : String)
  | reported (text : String)

/-- What does not fit. -/
def Conflict.message : Conflict → String
  | .kindChange defined requested =>
    "Statement already defined as " ++ defined.name ++ ", cannot redefine it as " ++ requested.name
  | .placeholderCount placeholders bindings sql =>
    "Placeholder count (" ++ String.ofList (Text.decimal placeholders) ++
      ") does not match binding count (" ++ String.ofList (Text.decimal bindings) ++
      ") for: " ++ sql
  | .unfilteredDelete table => "DELETE FROM " ++ table ++ " without a WHERE clause is not allowed"
  | .uncountable kind => "Cannot count a " ++ kind.name ++ " statement"
  | .loaderTooDeep name => "Loading '" ++ name ++ "' nests deeper than its loader declares"
  | .reported text => text

/-- The step of class resolution that failed. -/
inductive Phase where
  | lookup
  | load
  | validate
  deriving DecidableEq, Repr

/-- The name of a step. -/
def Phase.name : Phase → String
  | .lookup => "lookup"
  | .load => "load"
  | .validate => "validate"

/-- How class resolution failed. -/
inductive ResolutionFault where
  | notFound
  | reentrant
  | typeMismatch
  deriving DecidableEq, Repr

/-- Where class resolution failed: what was asked for, the class name it led to, and what was
expected of the class. -/
structure Diagnostic where
  input : String
  phase : Phase
  resolved : Option String := none
  expected : Option String := none
  deriving DecidableEq, Repr

/-- The sentence for a failed resolution. -/
def ResolutionFault.message (fault : ResolutionFault) (d : Diagnostic) : String :=
  match fault with
  | .notFound => "Model class not found for '" ++ d.input ++ "'"
  | .reentrant => "Re-entrant class resolution detected for '" ++ d.input ++ "'"
  | .typeMismatch => "Resolved class for '" ++ d.input ++ "' is not a model class"

/-- A row that had to be there. -/
inductive Missing where
  | oneRow
  | rowsOf (table : String)
  | reported (text : String)

/-- What is missing. -/
def Missing.message : Missing → String
  | .oneRow => "Expected 1 row, got 0"
  | .rowsOf table => "No rows in '" ++ table ++ "'"
  | .reported text => text

/-- What a column is decoded as. -/
inductive Target where
  | integer
  | float
  | boolean
  | text
  | uuid
  | timestamp
  | json
  deriving DecidableEq, Repr

/-- The name of a target in messages. -/
def Target.name : Target → String
  | .integer => "integer"
  | .float => "float"
  | .boolean => "boolean"
  | .text => "text"
  | .uuid => "uuid"
  | .timestamp => "timestamp"
  | .json => "json"

/-- A column that does not decode.  `malformed` is a text that is not of the target's format and
`encoding` a cell that is not of its column's binary format. -/
inductive DecodeFault where
  | mismatch (expected : Target) (got : ValueType)
  | tooSmall
  | tooLarge
  | absent
  | noColumns
  | notCount (got : ValueType)
  | malformed (expected : Target)
  | encoding
  | reported (text : String)

/-- Why the column does not decode. -/
def DecodeFault.message : DecodeFault → String
  | .mismatch expected got => "expected " ++ expected.name ++ ", got " ++ got.name
  | .tooSmall => "number too small to fit in target type"
  | .tooLarge => "number too large to fit in target type"
  | .absent => "column not present in row"
  | .noColumns => "row has no columns"
  | .notCount got => "expected a count, got " ++ got.name
  | .malformed expected => "malformed " ++ expected.name ++ " text"
  | .encoding => "cell does not have the binary format of its column"
  | .reported text => text

/-- A configuration that is refused.  `malformed` is a text that does not describe one. -/
inductive ConfigFault where
  | emptySoftDeleteColumn
  | zeroPageSize
  | quoteCharacter (c : Char)
  | malformed
  | reported (text : String)

/-- Why the configuration is refused. -/
def ConfigFault.message : ConfigFault → String
  | .emptySoftDeleteColumn => "soft_delete_column cannot be empty"
  | .zeroPageSize => "default_per_page must be >= 1"
  | .quoteCharacter c =>
    "quote_char '" ++ String.singleton c ++ "' cannot be used to quote identifiers"
  | .malformed => "malformed configuration text"
  | .reported text => text

/-- Any failure of this library. -/
inductive Error where
  | argument (misuse : Misuse)
  | state (conflict : Conflict)
  | resolution (fault : ResolutionFault) (diagnostic : Diagnostic)
  | connection (text : String)
  | query (text : String)
  | notFound (missing : Missing)
  | decode (column : String) (fault : DecodeFault)
  | config (fault : ConfigFault)
  | serialization (text : String)

/-- The name of the kind of an error, by which callers tell errors apart. -/
def Error.kindName : Error → String
  | .argument _ => "Argument"
  | .state _ => "State"
  | .resolution .notFound _ => "Resolution.NotFound"
  | .resolution .reentrant _ => "Resolution.Reentrant"
  | .resolution .typeMismatch _ => "Resolution.TypeMismatch"
  | .connection _ => "Connection"
  | .query _ => "Query"
  | .notFound _ => "NotFound"
  | .decode _ _ => "Decode"
  | .config _ => "Config"
  | .serialization _ => "Serialization"

/-- The text of an error. -/
def Error.message : Error → String
  | .argument misuse => "Invalid argument: " ++ misuse.message
  | .state conflict => "Invalid statement state: " ++ conflict.message
  | .resolution fault diagnostic => fault.message diagnostic
  | .connection text => "Connection error: " ++ text
  | .query text => "Query error: " ++ text
  | .notFound missing => "Not found: " ++ missing.message
  | .decode column fault => "Decode error on column '" ++ column ++ "': " ++ fault.message
  | .config fault => "Config error: " ++ fault.message
  | .serialization text => "Serialization error: " ++ text

/-- An error of a kind in words of its own; `column` is where a value does not decode.  Failed
resolutions are not among them: they always carry a diagnostic. -/
def Error.reported? (kind column text : String) : Option Error :=
  match kind with
  | "Argument" => some (.argument (.reported text))
  | "State" => some (.state (.reported text))
  | "Connection" => some (.connection text)
  | "Query" => some (.query text)
  | "NotFound" => some (.notFound (.reported text))
  | "Decode" => some (.decode column (.reported text))
  | "Config" => some (.config (.reported text))
  | "Serialization" => some (.serialization text)
  | _ => none

end EntityQuery
