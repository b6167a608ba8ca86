/-
# Resolvers

A resolver turns a table name, an alias or a class name into a class name, which
the registry then loads.  A map of names is looked up without regard to letter
case and hands what it does not know to the resolver behind it; a convention
derives the class name from the table name.  A chain of maps ends in a
convention or in `unknown`, which knows no name.
-/

import EntityQuery.Config
import EntityQuery.Model.Naming
import EntityQuery.Model.Registry
import EntityQuery.Text.CaseMapping

namespace EntityQuery

/-- A strategy for finding class names. -/
inductive Resolver where
  | unknown
  | convention (modelNamespace : String)
  | map (entries : List (String × String)) (fallback : Resolver)
  deriving DecidableEq, Repr

namespace Resolver

/-- The form in which the keys of a map are compared. -/
def mapKey (key : String) : String :=
  Text.lowerText (Text.trim key)

/-- The map of a list of entries, applied in order; blank keys are ignored. -/
def entriesOf (entries : List (String × String)) : List (String × String) :=
  entries.foldl
    (fun acc e => if (Text.trim e.1).isEmpty then acc else Keyed.put (mapKey e.1) e.2 acc) []

/-- The class name that a map has for a key. -/
def lookup? (entries : List (String × String)) (key : String) : Option String :=
  Keyed.find? (mapKey key) entries

/-- The error of a name that no strategy knows. -/
def unresolved (input : String) : Error :=
  .resolution .notFound ⟨input, .lookup, none, none⟩

/-- The class name an input leads to. -/
def target? : Resolver → String → Option String
  | .unknown, _ => none
  | .convention modelNamespace, input =>
    if Text.isBlankText input then none else some (Naming.qualify modelNamespace input)
  | .map entries fallback, input =>
    let name := Text.trim input
    if Naming.isQualified name then some name
    else
      match lookup? entries name with
      | some cls => some cls
      | none => target? fallback input

/-- The model class an input leads to, loaded through the registry. -/
def resolve (s : Resolver) (input : String) (r : Registry) : Except Error ModelClass × Registry :=
  match s.target? input with
  | some name => r.loadModel input name
  | none => (.error (unresolved input), r)

end Resolver

/-- What statements and relations are built with: settings and a way to find classes. -/
structure Context where
  config : Config := {}
  resolver : Resolver := .convention "app::models"

end EntityQuery
