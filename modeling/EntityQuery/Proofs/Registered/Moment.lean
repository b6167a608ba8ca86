/-
# Loads moment by moment

A load runs a program of the loader, and the program may ask for further classes.
So a load goes through moments: either the program of the innermost load goes on
(`LoadMoment.running`), or a request has just been answered
(`LoadMoment.answered`), and the loads around it wait, each with what it will do
with its answer.  `LoadMoment.next?` is the step from one moment to the next, and
`LoadMoment.Reaches` is any number of steps.

Through all of these moments a registry stays coherent with the names that are
being loaded (`Registry.Coherent`).  Every step keeps this up
(`LoadMoment.Coherent.next`, by cases on what the step is, `LoadMoment.StepCase`),
so a run does (`LoadMoment.Coherent.reaches`).
-/

import EntityQuery.Model.Registry
import Mathlib.Data.List.Nodup
import Mathlib.Logic.Relation

namespace EntityQuery

/-! ### States of names -/

namespace Registry

variable {r : Registry} {loader : Option Loader} {stack : List String} {name : String}

theorem state_setState (r : Registry) (name other : String) (s : LoadState) :
    (r.setState name s).state other = if other = name then s else r.state other := by
  by_cases h : other = name
  · rw [if_pos h, h, state, setState, Keyed.find?_put_self, Option.getD_some]
  · rw [if_neg h, state, setState, Keyed.find?_put_of_ne h, state]

@[simp] theorem state_setState_self (r : Registry) (name : String) (s : LoadState) :
    (r.setState name s).state name = s := by
  rw [state_setState, if_pos rfl]

theorem state_setState_of_ne {other : String} (h : other ≠ name) (s : LoadState) :
    (r.setState name s).state other = r.state other := by
  rw [state_setState, if_neg h]

@[simp] theorem state_record (r : Registry) (event : LoadEvent) (name : String) :
    (r.record event).state name = r.state name :=
  rfl

/-- A name that is being loaded or known, so that asking for it starts no load. -/
def IsBusy (r : Registry) (name : String) : Prop :=
  r.state name = .inProgress ∨ ∃ info, r.state name = .loaded info

/-- What holds of a registry while the names of `stack` are being loaded, the innermost first.  A
name on the stack need not be in progress any more: its program may have defined it. -/
structure Coherent (loader : Option Loader) (stack : List String) (r : Registry) : Prop where
  loader_eq : r.loader = loader
  mem_stack : ∀ name, r.state name = .inProgress → name ∈ stack
  isBusy : ∀ name ∈ stack, r.IsBusy name
  nodup : stack.Nodup
  ownName : ∀ name info, r.state name = .loaded info → info.name = name

theorem coherent_fresh (loader : Option Loader) : Coherent loader [] { loader := loader } where
  loader_eq := rfl
  mem_stack := fun _ h => nomatch h
  isBusy := fun _ h => nomatch h
  nodup := List.nodup_nil
  ownName := fun _ _ h => nomatch h

theorem Coherent.record (h : Coherent loader stack r) (event : LoadEvent) :
    Coherent loader stack (r.record event) :=
  ⟨h.loader_eq, h.mem_stack, h.isBusy, h.nodup, h.ownName⟩

theorem Coherent.define (h : Coherent loader stack r) (info : ClassInfo) :
    Coherent loader stack (r.define info) where
  loader_eq := h.loader_eq
  mem_stack := by
    intro name hname
    rw [Registry.define, state_setState] at hname
    split at hname
    · exact nomatch hname
    · exact h.mem_stack name hname
  isBusy := by
    intro name hname
    rw [IsBusy, Registry.define, state_setState]
    split
    · exact .inr ⟨info, rfl⟩
    · exact h.isBusy name hname
  nodup := h.nodup
  ownName := by
    intro name known hname
    rw [Registry.define, state_setState] at hname
    split at hname
    · rename_i heq
      rw [LoadState.loaded.inj hname] at heq
      exact heq.symm
    · exact h.ownName name known hname

/-- A load that starts puts its name on the stack. -/
theorem Coherent.start (h : Coherent loader stack r) (hname : ¬r.IsBusy name) :
    Coherent loader (name :: stack) (r.setState name .inProgress) where
  loader_eq := h.loader_eq
  mem_stack := by
    intro other hother
    rw [state_setState] at hother
    split at hother
    · rename_i heq
      exact heq ▸ List.mem_cons_self
    · exact List.mem_cons_of_mem _ (h.mem_stack other hother)
  isBusy := by
    intro other hother
    rw [IsBusy, state_setState]
    split
    · exact .inl rfl
    · rename_i hne
      exact h.isBusy other ((List.mem_cons.1 hother).resolve_left hne)
  nodup := List.nodup_cons.2 ⟨fun hmem => hname (h.isBusy name hmem), h.nodup⟩
  ownName := by
    intro other info hother
    rw [state_setState] at hother
    split at hother
    · exact nomatch hother
    · exact h.ownName other info hother

/-- A load that ends takes its name off the stack and leaves it known or failed. -/
theorem Coherent.settle (h : Coherent loader (name :: stack) r) (input : String)
    (result : Except Error Unit) : Coherent loader stack (r.settle input name result).2 := by
  obtain ⟨hnotMem, hnodup⟩ := List.nodup_cons.1 h.nodup
  have hfailed : Coherent loader stack (r.setState name .failed) := by
    refine ⟨h.loader_eq, fun other hother => ?_, fun other hother => ?_, hnodup,
      fun other info hother => ?_⟩
    · rw [state_setState] at hother
      split at hother
      · exact nomatch hother
      · rename_i hne
        exact (List.mem_cons.1 (h.mem_stack other hother)).resolve_left hne
    · have hne : other ≠ name := fun heq => hnotMem (heq ▸ hother)
      rw [IsBusy, state_setState_of_ne hne]
      exact h.isBusy other (List.mem_cons_of_mem _ hother)
    · rw [state_setState] at hother
      split at hother
      · exact nomatch hother
      · exact h.ownName other info hother
  cases result with
  | error e => exact hfailed
  | ok _ =>
      rw [Registry.settle]
      split
      · rename_i info hinfo
        refine ⟨h.loader_eq, fun other hother => ?_,
          fun other hother => h.isBusy other (List.mem_cons_of_mem _ hother), hnodup, h.ownName⟩
        refine (List.mem_cons.1 (h.mem_stack other hother)).resolve_left ?_
        rintro rfl
        rw [hinfo] at hother
        exact nomatch hother
      · exact hfailed

end Registry

/-! ### Moments -/

/-- A load that waits for the answer to a request of its program. -/
structure PendingLoad where
  input : String
  name : String
  next : Except Error ModelClass → LoadProgram

/-- A moment of a load: the program of the innermost load goes on, or a request is answered.  The
loads that wait stand from the innermost to the outermost. -/
inductive LoadMoment where
  | running (input name : String) (program : LoadProgram) (waiting : List PendingLoad)
      (r : Registry)
  | answered (answer : Except Error ModelClass) (waiting : List PendingLoad) (r : Registry)

/-- The moment in which a request meets a registry: it is answered, or a load starts. -/
def Registry.request (r : Registry) (input name : String) (waiting : List PendingLoad) :
    LoadMoment :=
  match r.state name with
  | .loaded info => .answered (requireModel input info) waiting r
  | .inProgress => .answered (.error (reentrant input name)) waiting r
  | _ =>
    match r.loader with
    | none => .answered (.error (notFound input name)) waiting r
    | some loader =>
      .running input name (loader.program name (r.attempts name)) waiting
        ((r.setState name .inProgress).record (.started name))

/-- The moment after the program of a load has ended. -/
def Registry.close (r : Registry) (input name : String) (result : Except Error Unit)
    (waiting : List PendingLoad) : LoadMoment :=
  let settled := r.settle input name result
  .answered (settled.1.bind (requireModel input)) waiting settled.2

namespace LoadMoment

/-- The registry at a moment. -/
def registry : LoadMoment → Registry
  | .running _ _ _ _ r => r
  | .answered _ _ r => r

/-- The names being loaded at a moment, the innermost first. -/
def stack : LoadMoment → List String
  | .running _ name _ waiting _ => name :: waiting.map PendingLoad.name
  | .answered _ waiting _ => waiting.map PendingLoad.name

/-- The moment that follows; none follows the answer that no load waits for. -/
def next? : LoadMoment → Option LoadMoment
  | .answered _ [] _ => none
  | .answered answer (p :: waiting) r => some (.running p.input p.name (p.next answer) waiting r)
  | .running input name .succeed waiting r => some (r.close input name (.ok ()) waiting)
  | .running input name (.fail e) waiting r => some (r.close input name (.error e) waiting)
  | .running input name (.define info rest) waiting r =>
    some (.running input name rest waiting (r.define info))
  | .running input name (.load i n next) waiting r =>
    some (r.request i n (⟨input, name, next⟩ :: waiting))
  | .running input name (.inspect n next) waiting r =>
    some (.running input name (next (r.state n)) waiting r)
  | .running input name (.note event rest) waiting r =>
    some (.running input name rest waiting (r.record event))

/-- One step leads from a moment to another. -/
def Step (m m' : LoadMoment) : Prop :=
  m.next? = some m'

/-- Steps lead from a moment to another. -/
abbrev Reaches : LoadMoment → LoadMoment → Prop :=
  Relation.ReflTransGen Step

theorem rightUnique_step : Relator.RightUnique Step :=
  fun _ _ _ h h' => Option.some.inj (h.symm.trans h')

/-! ### What a step can be -/

/-- What is left of a program that has ended. -/
def ending : Except Error Unit → LoadProgram
  | .ok _ => .succeed
  | .error e => .fail e

/-- The steps of a load: an answer reaches the load that waits for it, a program ends, or a program
goes on with its next action. -/
inductive StepCase : LoadMoment → LoadMoment → Prop where
  | resume (answer : Except Error ModelClass) (p : PendingLoad) (waiting : List PendingLoad)
    (r : Registry) :
    StepCase (.answered answer (p :: waiting) r) (.running p.input p.name (p.next answer) waiting r)
  | close (input name : String) (result : Except Error Unit) (waiting : List PendingLoad)
    (r : Registry) :
    StepCase (.running input name (ending result) waiting r) (r.close input name result waiting)
  | request (input name i n : String) (next : Except Error ModelClass → LoadProgram)
    (waiting : List PendingLoad) (r : Registry) :
    StepCase (.running input name (.load i n next) waiting r)
      (r.request i n (⟨input, name, next⟩ :: waiting))
  | define (input name : String) (info : ClassInfo) (rest : LoadProgram)
    (waiting : List PendingLoad) (r : Registry) :
    StepCase (.running input name (.define info rest) waiting r)
      (.running input name rest waiting (r.define info))
  | inspect (input name n : String) (next : LoadState → LoadProgram) (waiting : List PendingLoad)
    (r : Registry) :
    StepCase (.running input name (.inspect n next) waiting r)
      (.running input name (next (r.state n)) waiting r)
  | note (input name : String) (event : LoadEvent) (rest : LoadProgram)
    (waiting : List PendingLoad) (r : Registry) :
    StepCase (.running input name (.note event rest) waiting r)
      (.running input name rest waiting (r.record event))

theorem Step.stepCase {m m' : LoadMoment} (h : m.Step m') : StepCase m m' := by
  have hnext : ∀ m'', m.Step m'' → StepCase m m'' → StepCase m m' := by
    intro m'' hm'' hcase
    rwa [rightUnique_step h hm'']
  cases m with
  | answered answer waiting r =>
      cases waiting with
      | nil => exact nomatch h
      | cons p waiting => exact hnext _ rfl (.resume ..)
  | running input name program waiting r =>
      cases program with
      | succeed => exact hnext _ rfl (.close input name (.ok ()) waiting r)
      | fail e => exact hnext _ rfl (.close input name (.error e) waiting r)
      | define => exact hnext _ rfl (.define ..)
      | load => exact hnext _ rfl (.request ..)
      | inspect => exact hnext _ rfl (.inspect ..)
      | note => exact hnext _ rfl (.note ..)

/-! ### What every step keeps up -/

/-- The registry of a moment is coherent with the names being loaded. -/
def Coherent (loader : Option Loader) (m : LoadMoment) : Prop :=
  m.registry.Coherent loader m.stack

variable {loader : Option Loader} {m m' : LoadMoment}

theorem coherent_request {r : Registry} (input name : String) (waiting : List PendingLoad)
    (h : r.Coherent loader (waiting.map PendingLoad.name)) :
    Coherent loader (r.request input name waiting) := by
  unfold Registry.request
  split
  · exact h
  · exact h
  · rename_i hloaded hprogress
    split
    · exact h
    · have hname : ¬r.IsBusy name := by
        rintro (hbusy | ⟨info, hbusy⟩)
        · exact hprogress hbusy
        · exact hloaded info hbusy
      exact (h.start hname).record _

theorem Coherent.next (h : Coherent loader m) (hstep : Step m m') : Coherent loader m' := by
  cases hstep.stepCase with
  | resume => exact h
  | close input name result => exact Registry.Coherent.settle h input result
  | request input name i n next waiting =>
      exact coherent_request i n (⟨input, name, next⟩ :: waiting) h
  | define input name info => exact Registry.Coherent.define h info
  | inspect => exact h
  | note input name event => exact Registry.Coherent.record h event

/-- **What a load keeps up.**  At every moment the registry is coherent with the names being
loaded. -/
theorem Coherent.reaches (h : Coherent loader m) (hsteps : Reaches m m') : Coherent loader m' := by
  induction hsteps with
  | refl => exact h
  | tail _ hstep ih => exact ih.next hstep

end LoadMoment
end EntityQuery
