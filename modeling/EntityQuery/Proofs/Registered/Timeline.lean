/-
# Registries from call to call

A registry is called from outside: classes are defined, and requests are answered,
each after a load if need be.  A `HistoryMoment` is a moment between such calls or in
the load for one of them, and `HistoryMoment.Leads` is any number of steps from one
moment to a later one, with the names that the loader is run for on the way, in order.

What is known of a load holds of a history: the registry is coherent with the names
being loaded, and no load goes on for ever, since its steps lead to an answer and none
follows it (`isSound_of_leads`).  The histories are those of the calls: after any calls,
`Registry.callAll` is a moment of one (`exists_leads_callAll`).

A request may also be followed to its own answer, while other loads wait for it
(`Registry.Answered`).  From outside that is the answer that `Registry.loadModel`
computes (`Answered.eq_loadModel`).
-/

import EntityQuery.Proofs.Registered.Ending

namespace EntityQuery

namespace LoadMoment

/-! ### Runs of the loader -/

/-- The names that the loader is run for when a request leads to a moment. -/
def begun : LoadMoment → List String
  | .running _ name _ _ _ => [name]
  | .answered _ _ _ => []

/-- The names that the loader is run for in the step from a moment: those of a request. -/
def runs : LoadMoment → List String
  | .running input name (.load i n next) waiting r =>
    (r.request i n (⟨input, name, next⟩ :: waiting)).begun
  | _ => []

variable {r : Registry} {source : Loader} {name n : String}

theorem begun_of_isBusy (h : r.IsBusy name) (input : String) (waiting : List PendingLoad) :
    (r.request input name waiting).begun = [] := by
  rw [request_of_isBusy h 0]
  rfl

theorem begun_of_not_isBusy (hloader : r.loader = some source) (h : ¬r.IsBusy name)
    (input : String) (waiting : List PendingLoad) :
    (r.request input name waiting).begun = [name] := by
  rw [request_of_not_isBusy hloader h]
  rfl

/-- The loader is not run for a busy name, whatever name is asked for. -/
theorem not_mem_begun (h : r.IsBusy n) (input name : String) (waiting : List PendingLoad) :
    n ∉ (r.request input name waiting).begun := by
  by_cases hbusy : r.IsBusy name
  · rw [begun_of_isBusy hbusy]
    exact List.not_mem_nil
  · cases hloader : r.loader with
    | none =>
        rw [request_of_no_loader hloader 0]
        exact List.not_mem_nil
    | some source =>
        rw [begun_of_not_isBusy hloader hbusy, List.mem_singleton]
        rintro rfl
        exact hbusy h

theorem not_mem_runs {m : LoadMoment} (h : m.registry.IsBusy n) : n ∉ m.runs := by
  unfold runs
  split
  · exact not_mem_begun h _ _ _
  · exact List.not_mem_nil

end LoadMoment

/-! ### Histories -/

/-- A moment of a history: between the calls from outside, or in the load for one of them. -/
inductive HistoryMoment where
  | idle (r : Registry)
  | loading (m : LoadMoment)

namespace HistoryMoment

/-- The registry at a moment. -/
def registry : HistoryMoment → Registry
  | .idle r => r
  | .loading m => m.registry

/-- The names being loaded at a moment, the innermost first. -/
def stack : HistoryMoment → List String
  | .idle _ => []
  | .loading m => m.stack

/-- One step of a history, with the names that the loader is run for in it. -/
inductive Step : HistoryMoment → List String → HistoryMoment → Prop where
  | define (r : Registry) (info : ClassInfo) : Step (.idle r) [] (.idle (r.define info))
  | call (r : Registry) (input name : String) :
    Step (.idle r) (r.request input name []).begun (.loading (r.request input name []))
  | inside {m m' : LoadMoment} (h : m.Step m') : Step (.loading m) m.runs (.loading m')
  | finish (answer : Except Error ModelClass) (r : Registry) :
    Step (.loading (.answered answer [] r)) [] (.idle r)

/-- Steps lead from a moment to another, and the loader is run for the names on the way. -/
inductive Leads : HistoryMoment → List String → HistoryMoment → Prop where
  | refl (m : HistoryMoment) : Leads m [] m
  | step {m m' m'' : HistoryMoment} {first rest : List String} (hstep : Step m first m')
    (hrest : Leads m' rest m'') : Leads m (first ++ rest) m''

theorem Leads.trans {m m' m'' : HistoryMoment} {first rest : List String} (h : Leads m first m')
    (h' : Leads m' rest m'') : Leads m (first ++ rest) m'' := by
  induction h with
  | refl => exact h'
  | step hstep _ ih =>
      rw [List.append_assoc]
      exact .step hstep (ih h')

/-- No load goes on for ever from a moment. -/
def Ends : HistoryMoment → Prop
  | .idle _ => True
  | .loading m => Acc (fun later earlier => LoadMoment.Step earlier later) m

/-- What holds at every moment of a history. -/
structure IsSound (loader : Option Loader) (m : HistoryMoment) : Prop where
  coherent : m.registry.Coherent loader m.stack
  ends : m.Ends

end HistoryMoment

namespace LoadMoment

variable {m m' : LoadMoment}

/-- A load whose steps lead to a moment that nothing follows does not go on for ever, since every
moment has one successor at most. -/
theorem acc_of_reaches (h : Reaches m m') (hlast : m'.next? = none) :
    Acc (fun later earlier => Step earlier later) m := by
  induction h using Relation.ReflTransGen.head_induction_on with
  | refl =>
      refine ⟨_, fun later hstep => ?_⟩
      rw [Step, hlast] at hstep
      exact nomatch hstep
  | head hstep _ ih =>
      refine ⟨_, fun later hlater => ?_⟩
      rw [rightUnique_step hlater hstep]
      exact ih

/-- The steps of a load are steps of a history. -/
theorem exists_leads_of_reaches (h : Reaches m m') :
    ∃ names, HistoryMoment.Leads (.loading m) names (.loading m') := by
  induction h using Relation.ReflTransGen.head_induction_on with
  | refl => exact ⟨[], .refl _⟩
  | head hstep _ ih =>
      obtain ⟨names, hleads⟩ := ih
      exact ⟨_, .step (.inside hstep) hleads⟩

end LoadMoment

namespace HistoryMoment

variable {m m' : HistoryMoment} {names : List String} {r : Registry} {loader : Option Loader}

theorem isSound_idle (h : r.Coherent loader []) : IsSound loader (.idle r) :=
  ⟨h, trivial⟩

theorem IsSound.step (h : m.IsSound loader) (hstep : Step m names m') : m'.IsSound loader := by
  cases hstep with
  | define r info => exact isSound_idle (h.coherent.define info)
  | call r input name =>
      exact ⟨LoadMoment.coherent_request input name [] h.coherent,
        LoadMoment.acc_of_reaches (LoadMoment.reaches_loadModel h.coherent input name) rfl⟩
  | inside hinside =>
      exact ⟨LoadMoment.Coherent.next h.coherent hinside, Acc.inv h.ends hinside⟩
  | finish answer r => exact isSound_idle h.coherent

theorem IsSound.leads (h : m.IsSound loader) (hleads : Leads m names m') : m'.IsSound loader := by
  induction hleads with
  | refl => exact h
  | step hstep _ ih => exact ih (h.step hstep)

/-- **The calls of a registry are a history**: each request from outside leads to the registry that
is computed for it. -/
theorem exists_leads_callAll (h : r.Coherent loader []) (calls : List RegistryCall) :
    ∃ names, Leads (.idle r) names (.idle (r.callAll calls)) := by
  induction calls generalizing r with
  | nil => exact ⟨[], .refl _⟩
  | cons c calls ih =>
      cases c with
      | define info =>
          obtain ⟨names, hleads⟩ := ih (h.define info)
          exact ⟨_, .step (.define r info) hleads⟩
      | load input name =>
          obtain ⟨_, hload⟩ :=
            LoadMoment.exists_leads_of_reaches (LoadMoment.reaches_loadModel h input name)
          obtain ⟨_, hleads⟩ := ih (h.loadModel input name)
          exact ⟨_, .step (.call r input name) (hload.trans (.step (.finish _ _) hleads))⟩

/-- **What holds at every moment after any calls.** -/
theorem isSound_of_leads {calls : List RegistryCall}
    (hleads : Leads (.idle (({ loader := loader } : Registry).callAll calls)) names m) :
    m.IsSound loader :=
  (isSound_idle (Registry.coherent_callAll loader calls)).leads hleads

/-- At a moment a request meets the registry, from outside or from the program of a load; `waiting`
waits for its answer. -/
inductive Asks : HistoryMoment → Registry → String → String → List PendingLoad → Prop where
  | outside (r : Registry) (input name : String) : Asks (.idle r) r input name []
  | nested (input name i n : String) (next : Except Error ModelClass → LoadProgram)
    (waiting : List PendingLoad) (r : Registry) :
    Asks (.loading (.running input name (.load i n next) waiting r)) r i n
      (⟨input, name, next⟩ :: waiting)

theorem Asks.registry_eq {i n : String} {waiting : List PendingLoad} (h : Asks m r i n waiting) :
    m.registry = r ∧ m.stack = waiting.map PendingLoad.name := by
  cases h with
  | outside => exact ⟨rfl, rfl⟩
  | nested => exact ⟨rfl, rfl⟩

theorem Asks.coherent {i n : String} {waiting : List PendingLoad} (h : Asks m r i n waiting)
    (hm : m.IsSound loader) : r.Coherent loader (waiting.map PendingLoad.name) := by
  have hcoherent := hm.coherent
  rwa [h.registry_eq.1, h.registry_eq.2] at hcoherent

/-- The step that a request is. -/
theorem Asks.step {i n : String} {waiting : List PendingLoad} (h : Asks m r i n waiting) :
    Step m (r.request i n waiting).begun (.loading (r.request i n waiting)) := by
  cases h with
  | outside => exact .call r i n
  | nested => exact .inside rfl

end HistoryMoment

/-! ### Requests up to their answers -/

namespace LoadMoment

/-- A moment in which the request that `waiting` waits for is answered. -/
def IsAnswer (waiting : List PendingLoad) (m : LoadMoment) : Prop :=
  ∃ answer r, m = .answered answer waiting r

/-- Steps lead from a moment to the answer that `waiting` waits for, and the loader is run for the
names on the way. -/
inductive Answers (waiting : List PendingLoad) :
    LoadMoment → List String → Except Error ModelClass → Registry → Prop where
  | answered (answer : Except Error ModelClass) (r : Registry) :
    Answers waiting (.answered answer waiting r) [] answer r
  | step {m m' : LoadMoment} {names : List String} {answer : Except Error ModelClass} {r : Registry}
    (hpending : ¬m.IsAnswer waiting) (hstep : m.Step m')
    (hrest : Answers waiting m' names answer r) :
    Answers waiting m (m.runs ++ names) answer r

variable {m m' : LoadMoment} {waiting : List PendingLoad} {names : List String}
  {answer : Except Error ModelClass} {r : Registry} {name : String}

theorem Answers.reaches (h : Answers waiting m names answer r) :
    Reaches m (.answered answer waiting r) := by
  induction h with
  | answered => exact .refl
  | step _ hstep _ ih => exact .head hstep ih

theorem Answers.leads (h : Answers waiting m names answer r) :
    HistoryMoment.Leads (.loading m) names (.loading (.answered answer waiting r)) := by
  induction h with
  | answered => exact .refl _
  | step _ hstep _ ih => exact .step (.inside hstep) ih

/-- An answer that is there is the answer. -/
theorem Answers.of_answered {given : Except Error ModelClass} {r' : Registry}
    (h : Answers waiting (.answered given waiting r') names answer r) :
    names = [] ∧ answer = given ∧ r = r' := by
  cases h with
  | answered => exact ⟨rfl, rfl, rfl⟩
  | step hpending => exact absurd ⟨_, _, rfl⟩ hpending

/-- A load of a name that `waiting` waits for is going on: its own program is, or it waits for the
answer to a request of it. -/
def Within (name : String) (waiting : List PendingLoad) : LoadMoment → Prop
  | .running _ n _ frames _ =>
    n = name ∧ frames = waiting ∨ ∃ p : PendingLoad, p.name = name ∧ p :: waiting <:+ frames
  | .answered _ frames _ => ∃ p : PendingLoad, p.name = name ∧ p :: waiting <:+ frames

theorem Within.not_isAnswer (h : m.Within name waiting) : ¬m.IsAnswer waiting := by
  rintro ⟨answer, r, rfl⟩
  obtain ⟨p, -, hsuffix⟩ := h
  exact absurd hsuffix.length_le (by simp)

/-- The name of a load that goes on is on the stack. -/
theorem Within.mem_stack (h : m.Within name waiting) : name ∈ m.stack := by
  have hframes : ∀ frames : List PendingLoad,
      (∃ p : PendingLoad, p.name = name ∧ p :: waiting <:+ frames) →
        name ∈ frames.map PendingLoad.name := by
    rintro frames ⟨p, rfl, hsuffix⟩
    exact List.mem_map_of_mem (hsuffix.mem List.mem_cons_self)
  cases m with
  | running input n program frames r =>
      rcases h with ⟨rfl, -⟩ | h
      · exact List.mem_cons_self
      · exact List.mem_cons_of_mem _ (hframes frames h)
  | answered answer frames r => exact hframes frames h

/-- A load that waits goes on after a request that it waits for. -/
theorem within_request {frames : List PendingLoad} (r : Registry) (i n : String)
    (h : ∃ p : PendingLoad, p.name = name ∧ p :: waiting <:+ frames) :
    (r.request i n frames).Within name waiting := by
  unfold Registry.request
  split
  · exact h
  · exact h
  · split
    · exact h
    · exact .inr h

/-- A load goes on until its request is answered. -/
theorem Within.step (h : m.Within name waiting) (hstep : m.Step m') :
    m'.Within name waiting ∨ m'.IsAnswer waiting := by
  cases hstep.stepCase with
  | resume answer q frames r =>
      obtain ⟨p, hp, hsuffix⟩ := h
      rcases List.suffix_cons_iff.1 hsuffix with heq | hsuffix
      · cases heq
        exact .inl (.inl ⟨hp, rfl⟩)
      · exact .inl (.inr ⟨p, hp, hsuffix⟩)
  | close input n result frames r =>
      rcases h with ⟨-, rfl⟩ | h
      · exact .inr ⟨_, _, rfl⟩
      · exact .inl h
  | request input n i other next frames r =>
      refine .inl (within_request r i other ?_)
      rcases h with ⟨rfl, rfl⟩ | ⟨p, hp, hsuffix⟩
      · exact ⟨_, rfl, List.suffix_refl _⟩
      · exact ⟨p, hp, hsuffix.trans (List.suffix_cons ..)⟩
  | define => exact .inl h
  | inspect => exact .inl h
  | note => exact .inl h

theorem Within.exists_step (h : m.Within name waiting) : ∃ m', m.Step m' := by
  cases m with
  | answered answer frames r =>
      obtain ⟨p, -, hsuffix⟩ := h
      cases frames with
      | nil => exact absurd hsuffix.length_le (by simp)
      | cons q frames => exact ⟨_, rfl⟩
  | running input n program frames r => cases program <;> exact ⟨_, rfl⟩

/-- A load that does not go on for ever ends in the answer to its request. -/
theorem Within.exists_answers (hends : Acc (fun later earlier => Step earlier later) m)
    (h : m.Within name waiting) : ∃ names answer r, Answers waiting m names answer r := by
  induction hends with
  | intro m _ ih =>
      obtain ⟨m', hstep⟩ := h.exists_step
      rcases h.step hstep with hwithin | ⟨answer, r, rfl⟩
      · obtain ⟨names, answer, r, hanswers⟩ := ih m' hstep hwithin
        exact ⟨_, answer, r, .step h.not_isAnswer hstep hanswers⟩
      · exact ⟨_, answer, r, .step h.not_isAnswer hstep (.answered answer r)⟩

/-- While a load goes on the loader is not run for its name again.  Induction on the steps to the
answer. -/
theorem Within.not_mem_names {loader : Option Loader} (hanswers : Answers waiting m names answer r)
    (hcoherent : m.Coherent loader) (h : m.Within name waiting) : name ∉ names := by
  induction hanswers with
  | answered => exact List.not_mem_nil
  | step _ hstep hrest ih =>
      have hfirst := not_mem_runs (hcoherent.isBusy name h.mem_stack)
      rcases h.step hstep with hwithin | ⟨answer, r, rfl⟩
      · exact List.not_mem_append hfirst (ih (hcoherent.next hstep) hwithin)
      · obtain ⟨rfl, -⟩ := hrest.of_answered
        exact List.not_mem_append hfirst List.not_mem_nil

end LoadMoment

namespace Registry

/-- A request that meets a registry, while `waiting` waits for it, is answered: the answer, the
registry in which it is given, and the names that the loader is run for on the way, the first of
them for the request itself. -/
def Answered (r : Registry) (input name : String) (waiting : List PendingLoad)
    (names : List String) (answer : Except Error ModelClass) (r' : Registry) : Prop :=
  ∃ inner, names = (r.request input name waiting).begun ++ inner ∧
    LoadMoment.Answers waiting (r.request input name waiting) inner answer r'

variable {r r' : Registry} {source : Loader} {loader : Option Loader} {input name : String}
  {waiting : List PendingLoad} {names : List String} {answer : Except Error ModelClass}

/-- A request that starts a load is within it. -/
theorem within_request_of_not_isBusy (hloader : r.loader = some source) (h : ¬r.IsBusy name)
    (input : String) (waiting : List PendingLoad) :
    (r.request input name waiting).Within name waiting := by
  rw [LoadMoment.request_of_not_isBusy hloader h]
  exact .inl ⟨rfl, rfl⟩

/-- A request for a known name is answered by its class, without a run of the loader. -/
theorem Answered.of_loaded {info : ClassInfo} (h : r.Answered input name waiting names answer r')
    (hinfo : r.state name = .loaded info) :
    names = [] ∧ answer = requireModel input info ∧ r' = r := by
  obtain ⟨inner, rfl, hanswers⟩ := h
  rw [LoadMoment.begun_of_isBusy (.inr ⟨info, hinfo⟩), List.nil_append]
  rw [request, hinfo] at hanswers
  exact hanswers.of_answered

/-- A request for a name that is not busy is answered after one run of the loader for the name. -/
theorem Answered.count_eq_one (h : r.Answered input name waiting names answer r')
    (hr : r.Coherent (some source) (waiting.map PendingLoad.name)) (hbusy : ¬r.IsBusy name) :
    names.count name = 1 := by
  obtain ⟨inner, rfl, hanswers⟩ := h
  have hinner := LoadMoment.Within.not_mem_names hanswers
    (LoadMoment.coherent_request input name waiting hr)
    (within_request_of_not_isBusy hr.loader_eq hbusy input waiting)
  rw [List.count_append, LoadMoment.begun_of_not_isBusy hr.loader_eq hbusy,
    List.count_eq_zero.2 hinner]
  exact List.count_singleton_self

/-- **From outside** the answer to a request is the one that is computed. -/
theorem Answered.eq_loadModel (h : r.Answered input name [] names answer r')
    (hr : r.Coherent loader []) : (answer, r') = r.loadModel input name := by
  obtain ⟨inner, -, hanswers⟩ := h
  have hlast : ∀ {a b : Except Error ModelClass} {r₁ r₂ : Registry},
      LoadMoment.Reaches (.answered a [] r₁) (.answered b [] r₂) → (a, r₁) = (b, r₂) := by
    intro a b r₁ r₂ hsteps
    cases LoadEnding.eq_of_reaches_answered hsteps
    rfl
  rcases hanswers.reaches.total_of_right_unique LoadMoment.rightUnique_step
      (LoadMoment.reaches_loadModel hr input name) with hsteps | hsteps
  · exact hlast hsteps
  · exact (hlast hsteps).symm

end Registry

namespace HistoryMoment

variable {m : HistoryMoment} {r : Registry} {i n : String} {waiting : List PendingLoad}

/-- The answer to a request is a later moment of the history. -/
theorem Asks.leads {names : List String} {answer : Except Error ModelClass} {r' : Registry}
    (h : m.Asks r i n waiting) (hanswered : r.Answered i n waiting names answer r') :
    Leads m names (.loading (.answered answer waiting r')) := by
  obtain ⟨inner, rfl, hanswers⟩ := hanswered
  exact .step h.step hanswers.leads

/-- **Every request is answered**, whatever waits for it. -/
theorem IsSound.exists_answered {source : Loader} (h : m.IsSound (some source))
    (hasks : m.Asks r i n waiting) :
    ∃ names answer r', r.Answered i n waiting names answer r' := by
  have hloader : r.loader = some source := (hasks.coherent h).loader_eq
  by_cases hbusy : r.IsBusy n
  · have hrequest := LoadMoment.request_of_isBusy hbusy 0 i waiting
    exact ⟨_, _, _, _, rfl, by rw [hrequest]; exact .answered _ _⟩
  · obtain ⟨inner, answer, r', hanswers⟩ := LoadMoment.Within.exists_answers
      (h.step hasks.step).ends (Registry.within_request_of_not_isBusy hloader hbusy i waiting)
    exact ⟨_, answer, r', inner, rfl, hanswers⟩

end HistoryMoment
end EntityQuery
