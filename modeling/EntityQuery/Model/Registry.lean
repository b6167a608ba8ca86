/-
# The class registry

A registry knows the state of every class name.  A name that is not loaded is
given to the loader, once for each request, and a request for a name that is
being loaded is refused instead of starting over.  A load ends in exactly one of
four ways: the class under that name, a class that is no model, the loader's own
error, or no class at all; the last two leave the name failed, and a failed name
is tried again when it is next asked for.

Loads nest when the loader asks for further classes.  `loadWithin` counts how
deep they may still nest, and `loadModel` starts from the number of names that the
load may ask for: the names being loaded at one time differ from each other.
-/

import EntityQuery.Model.Loader

namespace EntityQuery

/-- The known classes, the source of others, and what happened so far, oldest first. -/
structure Registry where
  loader : Option Loader := none
  states : List (String × LoadState) := []
  events : List LoadEvent := []

namespace Registry

/-- The state of a class name. -/
def state (r : Registry) (name : String) : LoadState :=
  (Keyed.find? name r.states).getD .notStarted

/-- Sets the state of a class name. -/
def setState (r : Registry) (name : String) (s : LoadState) : Registry :=
  { r with states := Keyed.put name s r.states }

/-- Adds an event to the record. -/
def record (r : Registry) (event : LoadEvent) : Registry :=
  { r with events := r.events ++ [event] }

/-- Makes a class known under its own name. -/
def define (r : Registry) (info : ClassInfo) : Registry :=
  r.setState info.name (.loaded info)

/-- A registry without a loader that knows some classes. -/
def ofClasses (infos : List ClassInfo) : Registry :=
  infos.foldl define {}

/-- Whether an event is the start of a load of a name. -/
def isStart (name : String) : LoadEvent → Bool
  | .started n => n == name
  | _ => false

/-- How often the loader has run for a name. -/
def attempts (r : Registry) (name : String) : Nat :=
  r.events.countP (isStart name)

/-- The error of a name that leads to no class. -/
def notFound (input name : String) : Error :=
  .resolution .notFound ⟨input, .load, some name, none⟩

/-- The error of a request for a name that is being loaded. -/
def reentrant (input name : String) : Error :=
  .resolution .reentrant ⟨input, .load, some name, none⟩

/-- Requires a class to be a model class. -/
def requireModel (input : String) : ClassInfo → Except Error ModelClass
  | .model c => .ok c
  | .other name base =>
    let expected := match base with
      | some b => "Model (found subclass of " ++ b ++ ")"
      | none => "Model"
    .error (.resolution .typeMismatch ⟨input, .validate, some name, some expected⟩)

/-- Runs a program of the loader; `load` answers its requests for further classes. -/
def runProgram (load : Registry → String → String → Except Error ModelClass × Registry) :
    LoadProgram → Registry → Except Error Unit × Registry
  | .succeed, r => (.ok (), r)
  | .fail e, r => (.error e, r)
  | .define info next, r => runProgram load next (r.define info)
  | .load input name next, r =>
    let answer := load r input name
    runProgram load (next answer.1) answer.2
  | .inspect name next, r => runProgram load (next (r.state name)) r
  | .note event next, r => runProgram load next (r.record event)

/-- Settles a name after its program has ended. -/
def settle (r : Registry) (input name : String) (result : Except Error Unit) :
    Except Error ClassInfo × Registry :=
  match result with
  | .error e => (.error e, r.setState name .failed)
  | .ok () =>
    match r.state name with
    | .loaded info => (.ok info, r)
    | _ => (.error (notFound input name), r.setState name .failed)

/-- The class of a name, loaded if need be; loads may nest `depth` deep. -/
def loadWithin (depth : Nat) (r : Registry) (input name : String) :
    Except Error ClassInfo × Registry :=
  match r.state name with
  | .loaded info => (.ok info, r)
  | .inProgress => (.error (reentrant input name), r)
  | _ =>
    match r.loader with
    | none => (.error (notFound input name), r)
    | some loader =>
      match depth with
      | 0 => (.error (.state (.loaderTooDeep name)), r)
      | depth + 1 =>
        let nested := fun (r : Registry) (input name : String) =>
          let found := loadWithin depth r input name
          (found.1.bind (requireModel input), found.2)
        let ended := runProgram nested (loader.program name (r.attempts name))
          ((r.setState name .inProgress).record (.started name))
        ended.2.settle input name ended.1

/-- How deep the loads of a request may nest: one for the name asked for and one for each name that
loading it may ask for. -/
def maxDepth (r : Registry) (name : String) : Nat :=
  match r.loader with
  | none => 0
  | some loader => (loader.requested name).length + 1

/-- The model class of a name, loaded if need be; `input` is what the caller asked for. -/
def loadModel (r : Registry) (input name : String) : Except Error ModelClass × Registry :=
  let found := r.loadWithin (r.maxDepth name) input name
  (found.1.bind (requireModel input), found.2)

end Registry
end EntityQuery
