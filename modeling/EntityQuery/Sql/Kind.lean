/-
# Statement kinds, directions and dialects

What a statement does, how an ordering runs, and which names its JSON functions
have.
-/

import EntityQuery.Text.Blank
import EntityQuery.Text.Lists

namespace EntityQuery

/-- What a statement does. -/
inductive Kind where
  | select
  | insert
  | insertIgnore
  | update
  | delete
  | upsert
  deriving DecidableEq, Repr

/-- Every kind. -/
def Kind.all : List Kind :=
  [.select, .insert, .insertIgnore, .update, .delete, .upsert]

/-- The name of a kind in messages and logs. -/
def Kind.name : Kind → String
  | .select => "Select"
  | .insert => "Insert"
  | .insertIgnore => "InsertIgnore"
  | .update => "Update"
  | .delete => "Delete"
  | .upsert => "Upsert"

/-- The direction of an ordering. -/
inductive Direction where
  | asc
  | desc
  deriving DecidableEq, Repr

namespace Direction

/-- The SQL text of a direction. -/
def sql : Direction → String
  | asc => "ASC"
  | desc => "DESC"

/-- The direction a text names, in any letter case and with blanks around it. -/
def parse? (text : String) : Option Direction :=
  let name := Text.asciiUpper (Text.trim text).toList
  [asc, desc].find? fun d => d.sql.toList = name

end Direction

/-- The family of JSON functions a statement uses. -/
inductive Dialect where
  | mysql
  | sqlite
  deriving DecidableEq, Repr

/-- The name of a dialect. -/
def Dialect.name : Dialect → String
  | .mysql => "MySql"
  | .sqlite => "Sqlite"

/-- The dialect of a driver; all but SQLite take the default one. -/
def Dialect.ofDriver (driver : String) : Dialect :=
  if Text.asciiUpper (Text.trim driver).toList = "SQLITE".toList then .sqlite else .mysql

end EntityQuery
