/-
# The moments of a load lead to its answer

`Registry.loadModel` computes what becomes of a request in one go, by recursion on
the depth to which loads may nest.  The moments of the load are another reading of
the same request, in which nothing bounds the depth.  Both agree: the steps from
the request lead to the answer that is computed, and to the same registry
(`reaches_loadModel`).

The depth that `loadModel` starts with is never used up, because the names being
loaded differ from each other, and the loader has declared for the first of them all
the others (`length_lt_of_not_isBusy`).  The argument is by induction on the depth
(`reachesWithin`), and within a depth by induction on the program of the load
(`reaches_runProgram`), whose requests are answered one level deeper.
-/

import EntityQuery.Proofs.Registered.Moment
import Mathlib.Data.List.Perm.Subperm

namespace EntityQuery

/-- A program that asks for names of a list asks for names of any greater one. -/
theorem LoadProgram.Requests.mono {names names' : List String} (hsub : names ⊆ names')
    {program : LoadProgram} (h : program.Requests names) : program.Requests names' := by
  induction program with
  | succeed => trivial
  | fail e => trivial
  | define info rest ih => exact ih h
  | load i n next ih => exact ⟨hsub h.1, fun result => ih result (h.2 result)⟩
  | inspect n next ih => exact fun state => ih state (h state)
  | note event rest ih => exact ih h

namespace LoadMoment

variable {source : Loader} {loader : Option Loader} {names : List String} {depth : Nat}
  {r : Registry} {input name : String} {waiting : List PendingLoad}

/-! ### The end of a program -/

theorem step_ending (input name : String) (result : Except Error Unit)
    (waiting : List PendingLoad) (r : Registry) :
    Step (.running input name (ending result) waiting r) (r.close input name result waiting) := by
  cases result <;> rfl

/-- The moment in which `load` has answered a request. -/
def answeredBy (load : Registry → String → String → Except Error ModelClass × Registry)
    (r : Registry) (input name : String) (waiting : List PendingLoad) : LoadMoment :=
  .answered (load r input name).1 waiting (load r input name).2

/-- A program goes on to its end as `runProgram` says, if its requests are answered as `load` says.
Each of them is answered in a registry that is coherent again, so the rest of the program meets
what the induction on it assumes. -/
theorem reaches_runProgram {load : Registry → String → String → Except Error ModelClass × Registry}
    (hload : ∀ r i n next, r.Coherent loader (name :: waiting.map PendingLoad.name) → n ∈ names →
      Reaches (r.request i n (⟨input, name, next⟩ :: waiting))
        (answeredBy load r i n (⟨input, name, next⟩ :: waiting)))
    {program : LoadProgram} (hprogram : program.Requests names)
    (h : r.Coherent loader (name :: waiting.map PendingLoad.name)) :
    Reaches (.running input name program waiting r)
      (.running input name (ending (Registry.runProgram load program r).1) waiting
        (Registry.runProgram load program r).2) := by
  induction program generalizing r with
  | succeed => exact .refl
  | fail e => exact .refl
  | define info rest ih => exact .head rfl (ih hprogram (h.define info))
  | load i n next ih =>
      obtain ⟨hn, hnext⟩ := hprogram
      have hanswer := hload r i n next h hn
      have hcoherent : (load r i n).2.Coherent loader (name :: waiting.map PendingLoad.name) :=
        (coherent_request i n (⟨input, name, next⟩ :: waiting) h).reaches hanswer
      have hresumed : Step (answeredBy load r i n (⟨input, name, next⟩ :: waiting))
          (.running input name (next (load r i n).1) waiting (load r i n).2) := rfl
      exact .head rfl (hanswer.trans (.head hresumed (ih _ (hnext _) hcoherent)))
  | inspect n next ih => exact .head rfl (ih _ (hprogram _) h)
  | note event rest ih => exact .head rfl (ih hprogram (h.record event))

/-! ### Loads at a depth -/

/-- The answer to a request, and the registry after it, if loads may nest `depth` deep. -/
def modelWithin (depth : Nat) (r : Registry) (input name : String) :
    Except Error ModelClass × Registry :=
  ((r.loadWithin depth input name).1.bind (Registry.requireModel input),
    (r.loadWithin depth input name).2)

/-- How the program of a load ends, and the registry at its end; the loads that it asks for may nest
`depth` deep. -/
def attempt (source : Loader) (depth : Nat) (r : Registry) (name : String) :
    Except Error Unit × Registry :=
  Registry.runProgram (modelWithin depth) (source.program name (r.attempts name))
    ((r.setState name .inProgress).record (.started name))

/-- A request for a busy name is answered at once, whatever the depth. -/
theorem request_of_isBusy (hbusy : r.IsBusy name) (depth : Nat) (input : String)
    (waiting : List PendingLoad) :
    r.request input name waiting = answeredBy (modelWithin depth) r input name waiting := by
  unfold Registry.request answeredBy modelWithin Registry.loadWithin
  rcases hbusy with hstate | ⟨info, hstate⟩
  · simp only [hstate]
    rfl
  · simp only [hstate]
    rfl

theorem request_of_no_loader (hloader : r.loader = none) (depth : Nat) (input name : String)
    (waiting : List PendingLoad) :
    r.request input name waiting = answeredBy (modelWithin depth) r input name waiting := by
  by_cases hbusy : r.IsBusy name
  · exact request_of_isBusy hbusy depth input waiting
  · unfold Registry.request answeredBy modelWithin Registry.loadWithin
    cases hstate : r.state name with
    | loaded info => exact absurd (.inr ⟨info, hstate⟩) hbusy
    | inProgress => exact absurd (.inl hstate) hbusy
    | notStarted => simp only [hloader]; rfl
    | failed => simp only [hloader]; rfl

/-- A request for a name that is not busy starts the program of the loader. -/
theorem request_of_not_isBusy (hloader : r.loader = some source) (hbusy : ¬r.IsBusy name)
    (input : String) (waiting : List PendingLoad) :
    r.request input name waiting =
      .running input name (source.program name (r.attempts name)) waiting
        ((r.setState name .inProgress).record (.started name)) := by
  unfold Registry.request
  split
  · rename_i info hinfo
    exact absurd (.inr ⟨info, hinfo⟩) hbusy
  · rename_i hprogress
    exact absurd (.inl hprogress) hbusy
  · rw [hloader]

theorem answeredBy_of_not_isBusy (hloader : r.loader = some source) (hbusy : ¬r.IsBusy name)
    (depth : Nat) (input : String) (waiting : List PendingLoad) :
    answeredBy (modelWithin (depth + 1)) r input name waiting =
      (attempt source depth r name).2.close input name (attempt source depth r name).1 waiting := by
  have hload : r.loadWithin (depth + 1) input name =
      (attempt source depth r name).2.settle input name (attempt source depth r name).1 := by
    unfold Registry.loadWithin
    split
    · rename_i info hinfo
      exact absurd (.inr ⟨info, hinfo⟩) hbusy
    · rename_i hprogress
      exact absurd (.inl hprogress) hbusy
    · rw [hloader]
      rfl
  rw [answeredBy, modelWithin, hload]
  rfl

/-! ### The depth is enough -/

/-- The names being loaded are fewer than those that may be asked for, as long as one of these is
not busy. -/
theorem length_lt_of_not_isBusy {stack : List String} (h : r.Coherent loader stack)
    (hstack : stack ⊆ names) (hname : name ∈ names) (hbusy : ¬r.IsBusy name) :
    stack.length < names.length := by
  have hnodup : (name :: stack).Nodup :=
    List.nodup_cons.2 ⟨fun hmem => hbusy (h.isBusy name hmem), h.nodup⟩
  exact (hnodup.subperm (List.cons_subset.2 ⟨hname, hstack⟩)).length_le

/-- The steps from a request lead to the answer that is computed at a depth, whenever the depth
makes up for the names that may be asked for and are not being loaded. -/
def ReachesWithin (source : Loader) (names : List String) (depth : Nat) : Prop :=
  ∀ (r : Registry) (input name : String) (waiting : List PendingLoad),
    r.Coherent (some source) (waiting.map PendingLoad.name) →
    waiting.map PendingLoad.name ⊆ names → name ∈ names →
    names.length ≤ depth + (waiting.map PendingLoad.name).length →
    Reaches (r.request input name waiting) (answeredBy (modelWithin depth) r input name waiting)

/-- A load that starts goes on to the end of its program. -/
theorem ReachesWithin.attempt (hwithin : ReachesWithin source names depth)
    (hsource : ∀ n ∈ names, source.requested n ⊆ names)
    (h : r.Coherent (some source) (waiting.map PendingLoad.name)) (hbusy : ¬r.IsBusy name)
    (hwaiting : waiting.map PendingLoad.name ⊆ names) (hname : name ∈ names)
    (hdepth : names.length ≤ depth + 1 + (waiting.map PendingLoad.name).length) :
    Reaches (r.request input name waiting)
      (.running input name (ending (attempt source depth r name).1) waiting
        (attempt source depth r name).2) := by
  rw [request_of_not_isBusy h.loader_eq hbusy]
  have hprogram := (source.requests_program name (r.attempts name)).mono (hsource name hname)
  refine reaches_runProgram (fun r' i n next hr' hn => ?_) hprogram ((h.start hbusy).record _)
  refine hwithin r' i n (⟨input, name, next⟩ :: waiting) hr' ?_ hn ?_
  · exact List.cons_subset.2 ⟨hname, hwaiting⟩
  · rw [List.map_cons, List.length_cons]
    omega

/-- The depth is enough for names that only names of theirs are asked for. -/
theorem reachesWithin (hsource : ∀ n ∈ names, source.requested n ⊆ names) (depth : Nat) :
    ReachesWithin source names depth := by
  induction depth with
  | zero =>
      intro r input name waiting h hwaiting hname hdepth
      by_cases hbusy : r.IsBusy name
      · rw [request_of_isBusy hbusy 0]
      · have hlength := length_lt_of_not_isBusy h hwaiting hname hbusy
        omega
  | succ depth ih =>
      intro r input name waiting h hwaiting hname hdepth
      by_cases hbusy : r.IsBusy name
      · rw [request_of_isBusy hbusy (depth + 1)]
      · rw [answeredBy_of_not_isBusy h.loader_eq hbusy]
        exact (ih.attempt hsource h hbusy hwaiting hname hdepth).tail (step_ending ..)

/-! ### Requests that no load waits for -/

/-- How the program of a load that no other waits for ends, and the registry at its end. -/
def attemptAlone (source : Loader) (r : Registry) (name : String) : Except Error Unit × Registry :=
  attempt source (source.requested name).length r name

/-- A load that no other waits for goes on to the end of its program. -/
theorem reaches_attemptAlone (h : r.Coherent (some source) []) (hbusy : ¬r.IsBusy name)
    (input : String) :
    Reaches (r.request input name [])
      (.running input name (ending (attemptAlone source r name).1) []
        (attemptAlone source r name).2) := by
  have hnames : ∀ n ∈ name :: source.requested name,
      source.requested n ⊆ name :: source.requested name := by
    intro n hn
    rcases List.mem_cons.1 hn with rfl | hn
    · exact List.subset_cons_self ..
    · exact List.subset_cons_of_subset _ (source.requested_subset name n hn)
  exact (reachesWithin hnames _).attempt hnames h hbusy (List.nil_subset _) List.mem_cons_self
    (Nat.le_refl _)

/-- **The steps of a request lead to its answer.** -/
theorem reaches_loadModel (h : r.Coherent loader []) (input name : String) :
    Reaches (r.request input name []) (answeredBy Registry.loadModel r input name []) := by
  have hmodel : answeredBy Registry.loadModel r input name [] =
      answeredBy (modelWithin (r.maxDepth name)) r input name [] := rfl
  rw [hmodel]
  by_cases hbusy : r.IsBusy name
  · rw [request_of_isBusy hbusy (r.maxDepth name)]
  · cases loader with
    | none =>
        rw [request_of_no_loader h.loader_eq (r.maxDepth name)]
    | some source =>
        have hdepth : r.maxDepth name = (source.requested name).length + 1 := by
          rw [Registry.maxDepth, h.loader_eq]
        rw [hdepth, answeredBy_of_not_isBusy h.loader_eq hbusy]
        exact (reaches_attemptAlone h hbusy input).tail (step_ending ..)

end LoadMoment
end EntityQuery
