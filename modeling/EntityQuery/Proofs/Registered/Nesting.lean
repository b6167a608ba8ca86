/-
# How deep loads nest

Loads nest when the program of one asks for further classes.  If all programs of a
loader ask for names of a finite list only, the list bounds how deep: the names being
loaded at one time differ from each other, and all of them but the outermost, which
is asked for from outside, are of the list (`LoadMoment.StaysIn`).  Nothing else is
required of the loader.  It may ask for the class that it is loading, or for classes
that ask for each other, and go on whatever the answers are: a request for a name
being loaded is refused at once, so that every load comes to its end
(`loading_terminates`).
-/

import EntityQuery.Proofs.Registered.Timeline
import Mathlib.Data.Finset.Card
import Mathlib.Data.Finset.Dedup

namespace EntityQuery

/-- The loader of programs that all ask for names of a list only. -/
def Loader.ofPrograms (names : List String) (program : String → Nat → LoadProgram)
    (h : ∀ name attempt, (program name attempt).Requests names) : Loader where
  program := program
  requested _ := names
  requests_program := h
  requested_subset _ _ _ := List.Subset.refl _

namespace LoadMoment

/-! ### Names that programs ask for -/

/-- Whatever its answer, a load that waits goes on to ask for names of a list only. -/
def WaitingIn (names : List String) (waiting : List PendingLoad) : Prop :=
  ∀ p ∈ waiting, ∀ result, (p.next result).Requests names

/-- All programs of a moment ask for names of a list only, and all loads but the outermost are of
such names. -/
structure StaysIn (names : List String) (m : LoadMoment) : Prop where
  programs : match m with
    | .running _ _ program waiting _ => program.Requests names ∧ WaitingIn names waiting
    | .answered _ waiting _ => WaitingIn names waiting
  nested : m.stack.dropLast ⊆ names

variable {names : List String} {source : Loader} {m m' : LoadMoment} {r : Registry}

/-- A request for a name of the list, or from outside, starts a load of which the same holds. -/
theorem staysIn_request (hsource : ∀ name attempt, (source.program name attempt).Requests names)
    (hloader : r.loader = some source) (input : String) {name : String}
    (waiting : List PendingLoad) (hwaiting : WaitingIn names waiting)
    (hnested : (waiting.map PendingLoad.name).dropLast ⊆ names)
    (hname : ∀ p ∈ waiting, name ∈ names) : StaysIn names (r.request input name waiting) := by
  by_cases hbusy : r.IsBusy name
  · rw [request_of_isBusy hbusy 0]
    exact ⟨hwaiting, hnested⟩
  · rw [request_of_not_isBusy hloader hbusy]
    refine ⟨⟨hsource name _, hwaiting⟩, ?_⟩
    cases waiting with
    | nil => exact List.nil_subset _
    | cons p waiting => exact List.cons_subset.2 ⟨hname p List.mem_cons_self, hnested⟩

theorem StaysIn.next (hsource : ∀ name attempt, (source.program name attempt).Requests names)
    (hloader : m.registry.loader = some source) (h : m.StaysIn names) (hstep : m.Step m') :
    m'.StaysIn names := by
  obtain ⟨hprograms, hnested⟩ := h
  cases hstep.stepCase with
  | resume answer p waiting r =>
      obtain ⟨hp, hwaiting⟩ := List.forall_mem_cons.1 hprograms
      exact ⟨⟨hp answer, hwaiting⟩, hnested⟩
  | close input name result waiting r =>
      refine ⟨hprograms.2, ?_⟩
      cases waiting with
      | nil => exact List.nil_subset _
      | cons p waiting => exact List.subset_of_cons_subset hnested
  | request input name i n next waiting r =>
      obtain ⟨⟨hn, hnext⟩, hwaiting⟩ := hprograms
      exact staysIn_request hsource hloader i (⟨input, name, next⟩ :: waiting)
        (List.forall_mem_cons.2 ⟨hnext, hwaiting⟩) hnested fun _ _ => hn
  | define => exact ⟨hprograms, hnested⟩
  | inspect => exact ⟨⟨hprograms.1 _, hprograms.2⟩, hnested⟩
  | note => exact ⟨hprograms, hnested⟩

end LoadMoment

namespace HistoryMoment

variable {names runs : List String} {source : Loader} {m m' : HistoryMoment}

/-- What `LoadMoment.StaysIn` says of a load, if there is one. -/
def StaysIn (names : List String) : HistoryMoment → Prop
  | .idle _ => True
  | .loading m => m.StaysIn names

theorem StaysIn.step (hsource : ∀ name attempt, (source.program name attempt).Requests names)
    (hsound : m.IsSound (some source)) (h : m.StaysIn names) (hstep : Step m runs m') :
    m'.StaysIn names := by
  have hloader := hsound.coherent.loader_eq
  cases hstep with
  | define r info => trivial
  | call r input name =>
      exact LoadMoment.staysIn_request hsource hloader input [] (fun _ hp => nomatch hp)
        (List.nil_subset _) (fun _ hp => nomatch hp)
  | inside hinside => exact LoadMoment.StaysIn.next hsource hloader h hinside
  | finish answer r => trivial

theorem StaysIn.leads (hsource : ∀ name attempt, (source.program name attempt).Requests names)
    (hsound : m.IsSound (some source)) (h : m.StaysIn names) (hleads : Leads m runs m') :
    m'.StaysIn names := by
  induction hleads with
  | refl => exact h
  | step hstep _ ih => exact ih (hsound.step hstep) (h.step hsource hsound hstep)

theorem StaysIn.dropLast_subset (h : m.StaysIn names) : m.stack.dropLast ⊆ names := by
  cases m with
  | idle r => exact List.nil_subset _
  | loading m => exact LoadMoment.StaysIn.nested h

/-- Different names, all but the outermost of a list, are one more than the list at most. -/
theorem StaysIn.length_stack_le (h : m.StaysIn names) (hnodup : m.stack.Nodup) :
    m.stack.length ≤ names.toFinset.card + 1 := by
  have hinner : m.stack.dropLast.Nodup := hnodup.sublist (List.dropLast_sublist _)
  have hlength : m.stack.dropLast.length ≤ names.toFinset.card := by
    rw [← List.toFinset_card_of_nodup hinner]
    exact Finset.card_le_card fun n hn =>
      List.mem_toFinset.2 (h.dropLast_subset (List.mem_toFinset.1 hn))
  rw [List.length_dropLast] at hlength
  omega

/-- **Loads come to their ends.**  Let all programs of a loader ask for names of a finite list only.
At any moment of a history, from outside or from the program of a load, every request is answered,
and from outside its answer is the one that is computed; no load goes on for ever; the names being
loaded differ from each other, and they are one more than the list has at most. -/
theorem loading_terminates (source : Loader) (names : List String)
    (hsource : ∀ name attempt, (source.program name attempt).Requests names)
    (calls : List RegistryCall) (before : List String) (m : HistoryMoment)
    (hm : Leads (.idle (({ loader := some source } : Registry).callAll calls)) before m) :
    (∀ r input name waiting, m.Asks r input name waiting →
      ∃ runs answer r', r.Answered input name waiting runs answer r' ∧
        (waiting = [] → (answer, r') = r.loadModel input name)) ∧
    m.Ends ∧ m.stack.Nodup ∧ m.stack.length ≤ names.toFinset.card + 1 := by
  have hsound : m.IsSound (some source) := isSound_of_leads hm
  have hstays : m.StaysIn names :=
    StaysIn.leads hsource (isSound_idle (Registry.coherent_callAll (some source) calls)) trivial hm
  refine ⟨fun r input name waiting hasks => ?_, hsound.ends, hsound.coherent.nodup,
    hstays.length_stack_le hsound.coherent.nodup⟩
  obtain ⟨runs, answer, r', hanswered⟩ := hsound.exists_answered hasks
  refine ⟨runs, answer, r', hanswered, ?_⟩
  rintro rfl
  exact hanswered.eq_loadModel (hasks.coherent hsound)

/-- A loader that asks for the same two classes whatever it is loading, these two included, and goes
on whatever the answers are. -/
def circularLoader : Loader :=
  .ofPrograms ["app::A", "app::B"]
    (fun _ _ => LoadAction.program [.tryLoad "a" "app::A", .tryLoad "b" "app::B"])
    fun _ _ => LoadAction.requests_program _ (by decide)

/-- The two classes and a third are being loaded at one time, which is as deep as the loads may nest,
and the request of the innermost for the other, which waits for it, is answered. -/
theorem loading_terminates_circular :
    ∃ before m r waiting,
      Leads (.idle (({ loader := some circularLoader } : Registry).callAll [])) before m ∧
      m.stack = ["app::B", "app::A", "app::Root"] ∧
      m.stack.length = ["app::A", "app::B"].toFinset.card + 1 ∧ m.Ends ∧ m.stack.Nodup ∧
      m.Asks r "a" "app::A" waiting ∧
      ∃ runs answer r', r.Answered "a" "app::A" waiting runs answer r' := by
  have hm : Leads (.idle (({ loader := some circularLoader } : Registry).callAll [])) _ _ :=
    .step (.call _ "root" "app::Root") <| .step (.inside rfl) <| .step (.inside rfl) <|
      .step (.inside rfl) <| .step (.inside rfl) <| .step (.inside rfl) <| .refl _
  obtain ⟨hanswered, hends, hnodup, -⟩ :=
    loading_terminates circularLoader _ circularLoader.requests_program [] _ _ hm
  obtain ⟨runs, answer, r', hanswer, -⟩ := hanswered _ _ _ _ (.nested "b" "app::B" "a" ..)
  exact ⟨_, _, _, _, hm, rfl, rfl, hends, hnodup, .nested .., runs, answer, r', hanswer⟩

end HistoryMoment
end EntityQuery
