/-
# Classes that are loaded once

A registry remembers the classes that it knows.  A request for a known class is
answered by it and runs no loader, and a request for any other name that is not
being loaded runs the loader for that name once, whether the name is new or has
failed before (`loader_runs_once`).

What makes this last is an invariant of a name: it is known, and no load of it goes
on (`Registry.Established`).  Only the end of a load of the name could take the class
away again, and such a load would have to start first, which a request for a known
name never does.  So every step of a history keeps it up (`Established.step`), and
every step in which a class comes to stay begins it (`Establishes.established`): a
load of the name succeeds, or the class is defined outside of any load of it.  A
class that the load of its own name defines has not come to stay yet, since that
load may still fail.
-/

import EntityQuery.Proofs.Registered.Timeline

namespace EntityQuery

namespace Registry

/-! ### What is known to stay -/

/-- The name is known, and it is none of those being loaded. -/
structure Established (stack : List String) (r : Registry) (name : String) : Prop where
  known : ∃ info, r.state name = .loaded info
  not_mem : name ∉ stack

variable {r : Registry} {stack : List String} {name other : String}

theorem known_define_self (r : Registry) (info : ClassInfo) :
    ∃ found, (r.define info).state info.name = .loaded found :=
  ⟨info, state_setState_self ..⟩

theorem Established.define (h : r.Established stack name) (info : ClassInfo) :
    (r.define info).Established stack name := by
  by_cases hname : name = info.name
  · exact ⟨hname ▸ known_define_self r info, h.not_mem⟩
  · obtain ⟨found, hfound⟩ := h.known
    exact ⟨⟨found, (state_setState_of_ne hname _).trans hfound⟩, h.not_mem⟩

theorem Established.record (h : r.Established stack name) (event : LoadEvent) :
    (r.record event).Established stack name :=
  ⟨h.known, h.not_mem⟩

/-- A load that starts is of another name. -/
theorem Established.start (h : r.Established stack name) (hother : ¬r.IsBusy other) :
    (r.setState other .inProgress).Established (other :: stack) name := by
  have hne : name ≠ other := by
    rintro rfl
    exact hother (.inr h.known)
  obtain ⟨info, hinfo⟩ := h.known
  exact ⟨⟨info, (state_setState_of_ne hne _).trans hinfo⟩,
    List.not_mem_cons_of_ne_of_not_mem hne h.not_mem⟩

/-- A load that ends is of another name. -/
theorem Established.settle (h : r.Established (other :: stack) name) (input : String)
    (result : Except Error Unit) : (r.settle input other result).2.Established stack name := by
  have hne : name ≠ other := List.ne_of_not_mem_cons h.not_mem
  obtain ⟨info, hinfo⟩ := h.known
  have hfailed : ∃ info, (r.setState other .failed).state name = .loaded info :=
    ⟨info, (state_setState_of_ne hne _).trans hinfo⟩
  refine ⟨?_, List.not_mem_of_not_mem_cons h.not_mem⟩
  cases result with
  | error e => exact hfailed
  | ok _ =>
      rw [Registry.settle]
      split
      · exact h.known
      · exact hfailed

end Registry

namespace LoadMoment

open Registry

variable {m m' : LoadMoment} {name : String}

theorem established_request {r : Registry} (input other : String) (waiting : List PendingLoad)
    (h : r.Established (waiting.map PendingLoad.name) name) :
    (r.request input other waiting).registry.Established
      (r.request input other waiting).stack name := by
  unfold Registry.request
  split
  · exact h
  · exact h
  · rename_i hloaded hprogress
    split
    · exact h
    · have hother : ¬r.IsBusy other := by
        rintro (hbusy | ⟨info, hbusy⟩)
        · exact hprogress hbusy
        · exact hloaded info hbusy
      exact (h.start hother).record _

theorem established_next (h : m.registry.Established m.stack name) (hstep : m.Step m') :
    m'.registry.Established m'.stack name := by
  cases hstep.stepCase with
  | resume => exact h
  | close input other result => exact Established.settle h input result
  | request input other i n next waiting =>
      exact established_request i n (⟨input, other, next⟩ :: waiting) h
  | define input other info => exact Established.define h info
  | inspect => exact h
  | note input other event => exact Established.record h event

end LoadMoment

namespace HistoryMoment

open Registry

variable {m m' : HistoryMoment} {names : List String} {name : String}

/-- The name is known at a moment, and no load of it goes on. -/
def Established (name : String) (m : HistoryMoment) : Prop :=
  m.registry.Established m.stack name

/-- **A step keeps a name established**, and the loader is not run for it. -/
theorem Established.step (h : m.Established name) (hstep : Step m names m') :
    name ∉ names ∧ m'.Established name := by
  have hbusy : m.registry.IsBusy name := .inr h.known
  cases hstep with
  | define r info => exact ⟨List.not_mem_nil, Registry.Established.define h info⟩
  | call r input n =>
      exact ⟨LoadMoment.not_mem_begun hbusy _ _ _, LoadMoment.established_request input n [] h⟩
  | inside hinside =>
      exact ⟨LoadMoment.not_mem_runs hbusy, LoadMoment.established_next h hinside⟩
  | finish answer r => exact ⟨List.not_mem_nil, h⟩

/-- The loader is never run again for a name that is established. -/
theorem Established.not_mem_of_leads (h : m.Established name) (hleads : Leads m names m') :
    name ∉ names := by
  induction hleads with
  | refl => exact List.not_mem_nil
  | step hstep _ ih =>
      obtain ⟨hfirst, hnext⟩ := h.step hstep
      exact List.not_mem_append hfirst (ih hnext)

/-- The steps in which the class of a name comes to stay: it is defined from outside, or by the load
of another name while none of its own goes on; a load of the name succeeds; or a request finds it,
again while no load of the name goes on. -/
inductive Establishes (name : String) : HistoryMoment → HistoryMoment → Prop where
  | defined (r : Registry) (info : ClassInfo) (hname : info.name = name) :
    Establishes name (.idle r) (.idle (r.define info))
  | definedInside (input other : String) (info : ClassInfo) (rest : LoadProgram)
    (waiting : List PendingLoad) (r : Registry) (hname : info.name = name)
    (hother : name ∉ other :: waiting.map PendingLoad.name) :
    Establishes name (.loading (.running input other (.define info rest) waiting r))
      (.loading (.running input other rest waiting (r.define info)))
  | succeeded (input : String) (waiting : List PendingLoad) (r : Registry) (info : ClassInfo)
    (hinfo : r.state name = .loaded info) :
    Establishes name (.loading (.running input name .succeed waiting r))
      (.loading (r.close input name (.ok ()) waiting))
  | found {m : HistoryMoment} {r : Registry} {input : String} {waiting : List PendingLoad}
    {info : ClassInfo} (hasks : m.Asks r input name waiting) (hinfo : r.state name = .loaded info)
    (hother : name ∉ waiting.map PendingLoad.name) :
    Establishes name m (.loading (r.request input name waiting))

theorem Establishes.established {loader : Option Loader} (h : Establishes name m m')
    (hm : m.IsSound loader) : m'.Established name := by
  cases h with
  | defined r info hname =>
      subst hname
      exact ⟨known_define_self r info, List.not_mem_nil⟩
  | definedInside input other info rest waiting r hname hother =>
      subst hname
      exact ⟨known_define_self r info, hother⟩
  | succeeded input waiting r info hinfo =>
      -- The load that ends was the only one of the name.
      refine ⟨⟨info, ?_⟩, (List.nodup_cons.1 hm.coherent.nodup).1⟩
      simp only [Registry.close, registry, LoadMoment.registry, settle, hinfo]
  | found hasks hinfo hother =>
      exact LoadMoment.established_request _ _ _ ⟨⟨_, hinfo⟩, hother⟩

/-- **Classes are loaded once, and loads that failed are tried again.**  At any moment of a history,
from outside or from the program of a load, every request is answered, at a later moment of the
history; from outside its answer is the one that is computed.  For a known name the loader is not
run, and the answer is the class itself, or a type mismatch if that is no model class; for any other
name that is not being loaded the loader is run for the name once.  After a step in which a class
has come to stay, the loader is never run for its name again. -/
theorem loader_runs_once (source : Loader) (calls : List RegistryCall) (before : List String)
    (m : HistoryMoment)
    (hm : Leads (.idle (({ loader := some source } : Registry).callAll calls)) before m) :
    (∀ r input name waiting, m.Asks r input name waiting →
      (∃ names answer r', r.Answered input name waiting names answer r') ∧
      ∀ names answer r', r.Answered input name waiting names answer r' →
        Leads m names (.loading (.answered answer waiting r')) ∧
        (waiting = [] → (answer, r') = r.loadModel input name) ∧
        (∀ info, r.state name = .loaded info → names = [] ∧ r' = r ∧
          (∀ c, info = .model c → answer = .ok c) ∧
          ∀ n base, info = .other n base →
            ∃ d, answer = .error (.resolution .typeMismatch d)) ∧
        ((∀ info, r.state name ≠ .loaded info) → name ∉ waiting.map PendingLoad.name →
          names.count name = 1)) ∧
    ∀ name m', Establishes name m m' → ∀ names m'', Leads m' names m'' → name ∉ names := by
  have hsound : m.IsSound (some source) := isSound_of_leads hm
  refine ⟨fun r input name waiting hasks => ⟨hsound.exists_answered hasks, ?_⟩, ?_⟩
  · intro names answer r' hanswered
    have hr : r.Coherent (some source) (waiting.map PendingLoad.name) := hasks.coherent hsound
    refine ⟨hasks.leads hanswered, ?_, fun info hinfo => ?_, fun hstate hwaiting => ?_⟩
    · rintro rfl
      exact hanswered.eq_loadModel hr
    · obtain ⟨hnames, hanswer, hr'⟩ := hanswered.of_loaded hinfo
      refine ⟨hnames, hr', ?_, ?_⟩
      · rintro c rfl
        exact hanswer
      · rintro n base rfl
        exact ⟨_, hanswer⟩
    · refine hanswered.count_eq_one hr ?_
      rintro (hprogress | ⟨info, hinfo⟩)
      · exact hwaiting (hr.mem_stack name hprogress)
      · exact hstate info hinfo
  · intro name m' hestablishes names m'' hleads
    exact (hestablishes.established hsound).not_mem_of_leads hleads

/-- A loader that fails to load orders at first, and then asks for their lines before it defines
them. -/
def retryLoader : Loader :=
  .ofScripts [
    ("app::Order", [[.fail (.connection "loader unavailable")],
      [.tryLoad "line" "app::Line", .define (.model ⟨"app::Order", "orders", "id", false, []⟩)]]),
    ("app::Line", [[.define (.other "app::Line" none)]])]

/-- Orders have failed and are being loaded again, and the request of their program for lines runs
the loader for them once. -/
theorem loader_runs_once_retried :
    ∃ m r waiting,
      Leads (.idle (({ loader := some retryLoader } : Registry).callAll
        [.load "order" "app::Order"])) ["app::Order"] m ∧
      m.Asks r "line" "app::Line" waiting ∧ waiting.map PendingLoad.name = ["app::Order"] ∧
      ∃ names answer r', r.Answered "line" "app::Line" waiting names answer r' ∧
        names.count "app::Line" = 1 := by
  have hm : Leads (.idle (({ loader := some retryLoader } : Registry).callAll
      [.load "order" "app::Order"])) ["app::Order"] _ :=
    .step (.call _ "order" "app::Order") (.refl _)
  have hasks : Asks (.loading _) _ "line" "app::Line" _ :=
    .nested "order" "app::Order" "line" "app::Line"
      (fun result => .note (.tried result) (LoadAction.program
        [.define (.model ⟨"app::Order", "orders", "id", false, []⟩)])) []
      (((({ loader := some retryLoader } : Registry).callAll
        [.load "order" "app::Order"]).setState "app::Order" .inProgress).record
          (.started "app::Order"))
  obtain ⟨⟨names, answer, r', hanswered⟩, hall⟩ :=
    (loader_runs_once retryLoader [.load "order" "app::Order"] _ _ hm).1 _ _ _ _ hasks
  obtain ⟨-, -, -, hcount⟩ := hall names answer r' hanswered
  exact ⟨_, _, _, hm, hasks, rfl, names, answer, r', hanswered,
    hcount (fun _ hinfo => nomatch hinfo) (by decide)⟩

end HistoryMoment
end EntityQuery
