/-
# Class loaders

A loader makes a class known when a registry meets a name for the first time.
What it does for a name is a finite program: it defines classes, asks the
registry for further classes, looks at the state of a name, and ends well or
with an error of its own.  A program may go on differently after different
answers, and the loader may have another program for each attempt at a name.

Every loader declares for each name the names that loading it may ask for, however
deep the loads nest, with a proof that its programs ask for no other.  This is what
bounds how deep they nest: a load of a name goes through finitely many names, though
all loads together may go through any number of them.
-/

import EntityQuery.Error
import EntityQuery.Model.Class

namespace EntityQuery

/-- How far a class name has got. -/
inductive LoadState where
  | notStarted
  | inProgress
  | loaded (info : ClassInfo)
  | failed
  deriving DecidableEq, Repr

/-- What happened while classes were loaded. -/
inductive LoadEvent where
  | started (name : String)
  | tried (result : Except Error ModelClass)
  | observed (name : String) (state : LoadState)

/-- What a loader does for one name. -/
inductive LoadProgram where
  | succeed
  | fail (error : Error)
  | define (info : ClassInfo) (next : LoadProgram)
  | load (input name : String) (next : Except Error ModelClass → LoadProgram)
  | inspect (name : String) (next : LoadState → LoadProgram)
  | note (event : LoadEvent) (next : LoadProgram)

/-- The program asks for no class outside of `names`. -/
def LoadProgram.Requests (names : List String) : LoadProgram → Prop
  | .succeed => True
  | .fail _ => True
  | .define _ next => next.Requests names
  | .load _ name next => name ∈ names ∧ ∀ result, (next result).Requests names
  | .inspect _ next => ∀ state, (next state).Requests names
  | .note _ next => next.Requests names

/-- A source of classes: a program for each name and number of earlier attempts at it.  None is run
twice for the same name and number, so a loader may remember what it did before.

`requested` gives a name one finite list of names, which holds what is asked for after every answer
and at every attempt.  No finite history of finite programs is left out by it: along a history each
name and number is run once and gets one answer to each request, so a loader whose programs ask for
what was asked for there, and end well after any other answer, has the history as one of its own,
and its lists hold the names of the history. -/
structure Loader where
  program : String → Nat → LoadProgram
  /-- The names that loading a name may ask for, those that loading one of these may ask for
  included. -/
  requested : String → List String
  requests_program : ∀ name attempt, (program name attempt).Requests (requested name)
  requested_subset : ∀ name, ∀ other ∈ requested name, requested other ⊆ requested name

namespace Loader

/-- Defines the classes of a list in order, then ends well. -/
def defineAll : List ClassInfo → LoadProgram
  | [] => .succeed
  | info :: rest => .define info (defineAll rest)

theorem requests_defineAll (infos : List ClassInfo) : (defineAll infos).Requests [] := by
  induction infos with
  | nil => trivial
  | cons info rest ih => exact ih

/-- The loader of a list of registrations: for a name it defines every class registered under it,
whatever name that class carries itself. -/
def ofRegistrations (registrations : List (String × ClassInfo)) : Loader where
  program name _ := defineAll ((registrations.filter fun r => r.1 == name).map Prod.snd)
  requested _ := []
  requests_program _ _ := requests_defineAll _
  requested_subset _ _ _ := List.Subset.refl _

end Loader

/-- One step of a scripted program.  `load` ends the program with the error it gets and `tryLoad`
notes the answer and goes on. -/
inductive LoadAction where
  | define (info : ClassInfo)
  | load (input name : String)
  | tryLoad (input name : String)
  | observe (name : String)
  | fail (error : Error)

namespace LoadAction

/-- The name an action asks for. -/
def requested? : LoadAction → Option String
  | .load _ name => some name
  | .tryLoad _ name => some name
  | _ => none

/-- The program of a list of actions. -/
def program : List LoadAction → LoadProgram
  | [] => .succeed
  | .define info :: rest => .define info (program rest)
  | .load input name :: rest =>
    .load input name fun result =>
      match result with
      | .ok _ => program rest
      | .error e => .fail e
  | .tryLoad input name :: rest =>
    .load input name fun result => .note (.tried result) (program rest)
  | .observe name :: rest => .inspect name fun state => .note (.observed name state) (program rest)
  | .fail error :: _ => .fail error

theorem requests_program {names : List String} (actions : List LoadAction)
    (h : ∀ action ∈ actions, ∀ name, action.requested? = some name → name ∈ names) :
    (program actions).Requests names := by
  induction actions with
  | nil => trivial
  | cons action rest ih =>
    have hrest := ih fun a ha => h a (List.mem_cons_of_mem action ha)
    have hhead := h action List.mem_cons_self
    cases action with
    | define info => exact hrest
    | load input name =>
      refine ⟨hhead name rfl, fun result => ?_⟩
      cases result with
      | ok c => exact hrest
      | error e => trivial
    | tryLoad input name => exact ⟨hhead name rfl, fun result => hrest⟩
    | observe name => exact fun state => hrest
    | fail error => trivial

/-- The attempts of a script for a name; a name that is not listed has none. -/
def attempts (scripts : List (String × List (List LoadAction))) (name : String) :
    List (List LoadAction) :=
  (Keyed.find? name scripts).getD []

/-- The actions of one attempt; the last one listed is repeated. -/
def attempt (runs : List (List LoadAction)) (number : Nat) : List LoadAction :=
  runs.getD (min number (runs.length - 1)) []

/-- Every name that some action of a script asks for. -/
def requestedBy (scripts : List (String × List (List LoadAction))) : List String :=
  scripts.flatMap fun s => s.2.flatMap fun run => run.filterMap requested?

theorem mem_requestedBy {scripts : List (String × List (List LoadAction))} {key name : String}
    {number : Nat} {action : LoadAction} (ha : action ∈ attempt (attempts scripts key) number)
    (hn : action.requested? = some name) : name ∈ requestedBy scripts := by
  have hrun : ∀ runs : List (List LoadAction), action ∈ attempt runs number →
      ∃ run ∈ runs, action ∈ run := by
    intro runs h
    simp only [attempt, List.getD_eq_getElem?_getD] at h
    cases hget : runs[min number (runs.length - 1)]? with
    | none => simp [hget] at h
    | some run => exact ⟨run, List.mem_of_getElem? hget, by simpa [hget] using h⟩
  obtain ⟨run, hmem, hact⟩ := hrun _ ha
  have hfind : ∀ l : List (String × List (List LoadAction)),
      run ∈ (Keyed.find? key l).getD [] → ∃ entry ∈ l, run ∈ entry.2 := by
    intro l h
    induction l with
    | nil => simp [Keyed.find?] at h
    | cons entry rest ih =>
      obtain ⟨k, v⟩ := entry
      by_cases hk : k = key
      · exact ⟨(k, v), List.mem_cons_self, by simpa [Keyed.find?, hk] using h⟩
      · obtain ⟨e, he, hr⟩ := ih (by simpa [Keyed.find?, hk] using h)
        exact ⟨e, List.mem_cons_of_mem _ he, hr⟩
  obtain ⟨entry, hentry, hrun'⟩ := hfind scripts hmem
  simp only [requestedBy, List.mem_flatMap, List.mem_filterMap]
  exact ⟨entry, hentry, run, hrun', action, hact, hn⟩

end LoadAction

/-- The loader of a script: for each name the actions of its first, second and later attempts. -/
def Loader.ofScripts (scripts : List (String × List (List LoadAction))) : Loader where
  program name number :=
    LoadAction.program (LoadAction.attempt (LoadAction.attempts scripts name) number)
  requested _ := LoadAction.requestedBy scripts
  requests_program _ _ :=
    LoadAction.requests_program _ fun _ ha _ hn => LoadAction.mem_requestedBy ha hn
  requested_subset _ _ _ := List.Subset.refl _

end EntityQuery
