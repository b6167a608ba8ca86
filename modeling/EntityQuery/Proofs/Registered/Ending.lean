/-
# How requests for a class end

Between its calls a registry holds no name in progress and every class under its
own name, whatever the loader did during the calls before: both follow from what
every step of a load keeps up (`coherent_callAll`).

A request from outside of any load ends in one of four ways (`LoadEnding`): with the
model class of the name, with another class of that name, with the error in which
the loader's program for the name ended, or with no class.  It ends in one of them
(`exists_holds`) and in no other (`holds_unique`), and `registry_history` puts this
together with what holds at the moments in between.
-/

import EntityQuery.Proofs.Registered.Answer

namespace EntityQuery

/-- A call on a registry from outside of any load. -/
inductive RegistryCall where
  | define (info : ClassInfo)
  | load (input name : String)

namespace Registry

/-- The registry after a call. -/
def call (r : Registry) : RegistryCall → Registry
  | .define info => r.define info
  | .load input name => (r.loadModel input name).2

/-- The registry after a sequence of calls. -/
def callAll (r : Registry) (calls : List RegistryCall) : Registry :=
  calls.foldl call r

variable {r : Registry} {loader : Option Loader} {input name : String}

theorem Coherent.loadModel (h : Coherent loader [] r) (input name : String) :
    Coherent loader [] (r.loadModel input name).2 :=
  LoadMoment.Coherent.reaches (LoadMoment.coherent_request input name [] h)
    (LoadMoment.reaches_loadModel h input name)

theorem Coherent.callAll (h : Coherent loader [] r) (calls : List RegistryCall) :
    Coherent loader [] (r.callAll calls) := by
  induction calls generalizing r with
  | nil => exact h
  | cons c calls ih =>
      cases c with
      | define info => exact ih (h.define info)
      | load input name => exact ih (h.loadModel input name)

/-- **Between calls** no name is in progress and every class is under its own name. -/
theorem coherent_callAll (loader : Option Loader) (calls : List RegistryCall) :
    Coherent loader [] (({ loader := loader } : Registry).callAll calls) :=
  (coherent_fresh loader).callAll calls

theorem Coherent.state_ne_inProgress (h : Coherent loader [] r) (name : String) :
    r.state name ≠ .inProgress :=
  fun hname => List.not_mem_nil (h.mem_stack name hname)

end Registry

/-- How a request from outside of any load ends. -/
inductive LoadEnding where
  | model (c : ModelClass)
  | otherClass (base : Option String)
  | loaderError (e : Error)
  | notFound

namespace LoadEnding

open LoadMoment Registry

/-- What an ending says of a request for a name and of the name's state afterwards.  The last two
are told apart by how the loader's program for the name ends; without a loader, a request for a name
that is not known changes nothing. -/
def Holds (r : Registry) (input name : String) : LoadEnding → Prop
  | .model c =>
    (r.loadModel input name).1 = .ok c ∧ c.name = name ∧
      (r.loadModel input name).2.state name = .loaded (.model c)
  | .otherClass base =>
    (∃ d, (r.loadModel input name).1 = .error (.resolution .typeMismatch d)) ∧
      (r.loadModel input name).2.state name = .loaded (.other name base)
  | .loaderError e =>
    (r.loadModel input name).1 = .error e ∧ (r.loadModel input name).2.state name = .failed ∧
      ∃ r', Reaches (r.request input name []) (.running input name (.fail e) [] r')
  | .notFound =>
    (r.loadModel input name).1 = .error (Registry.notFound input name) ∧
      (r.loader = none ∧ (r.loadModel input name).2 = r ∨
        (r.loadModel input name).2.state name = .failed ∧
          ∃ r', Reaches (r.request input name []) (.running input name .succeed [] r'))

variable {r r' : Registry} {loader : Option Loader} {source : Loader} {input name : String}

/-! ### One of them -/

/-- A request that finds a class under its own name ends with it. -/
theorem exists_holds_of_loaded {info : ClassInfo} (hname : info.name = name)
    (hanswer : r.loadModel input name = (requireModel input info, r'))
    (hstate : r'.state name = .loaded info) : ∃ ending, Holds r input name ending := by
  have hafter : (r.loadModel input name).2.state name = .loaded info := by rw [hanswer, hstate]
  cases info with
  | model c => exact ⟨.model c, congrArg Prod.fst hanswer, hname, hafter⟩
  | other n base =>
      cases hname
      exact ⟨.otherClass base, ⟨_, congrArg Prod.fst hanswer⟩, hafter⟩

theorem loadModel_of_loaded {info : ClassInfo} (hinfo : r.state name = .loaded info)
    (input : String) : r.loadModel input name = (requireModel input info, r) := by
  unfold Registry.loadModel Registry.loadWithin
  simp only [hinfo]
  rfl

theorem loadModel_of_no_loader (hloader : r.loader = none) (hbusy : ¬r.IsBusy name)
    (input : String) : r.loadModel input name = (.error (Registry.notFound input name), r) := by
  unfold Registry.loadModel Registry.loadWithin
  cases hstate : r.state name with
  | loaded info => exact absurd (.inr ⟨info, hstate⟩) hbusy
  | inProgress => exact absurd (.inl hstate) hbusy
  | notStarted => simp only [hloader]; rfl
  | failed => simp only [hloader]; rfl

/-- A request whose load runs is answered as its program leaves the registry. -/
theorem loadModel_of_not_isBusy (hloader : r.loader = some source) (hbusy : ¬r.IsBusy name)
    (input : String) :
    r.loadModel input name =
      (((attemptAlone source r name).2.settle input name
          (attemptAlone source r name).1).1.bind (requireModel input),
        ((attemptAlone source r name).2.settle input name (attemptAlone source r name).1).2) := by
  have hdepth : r.maxDepth name = (source.requested name).length + 1 := by rw [maxDepth, hloader]
  have hmodel : r.loadModel input name =
      modelWithin ((source.requested name).length + 1) r input name := by
    rw [← hdepth]
    rfl
  injection answeredBy_of_not_isBusy hloader hbusy (source.requested name).length input [] with
    hanswer _ hregistry
  exact hmodel.trans (Prod.ext hanswer hregistry)

theorem exists_holds (h : r.Coherent loader []) (input name : String) :
    ∃ ending, Holds r input name ending := by
  by_cases hbusy : r.IsBusy name
  · obtain ⟨info, hinfo⟩ := hbusy.resolve_left (h.state_ne_inProgress name)
    exact exists_holds_of_loaded (h.ownName name info hinfo) (loadModel_of_loaded hinfo input) hinfo
  · cases loader with
    | none =>
        have hanswer := loadModel_of_no_loader h.loader_eq hbusy input
        exact ⟨.notFound, congrArg Prod.fst hanswer,
          .inl ⟨h.loader_eq, congrArg Prod.snd hanswer⟩⟩
    | some source =>
        have hsteps := reaches_attemptAlone h hbusy input
        have hanswer := loadModel_of_not_isBusy h.loader_eq hbusy input
        have hended : (attemptAlone source r name).2.Coherent (some source) [name] :=
          (coherent_request input name [] h).reaches hsteps
        generalize attemptAlone source r name = ended at *
        obtain ⟨result, r'⟩ := ended
        cases result with
        | error e =>
            exact ⟨.loaderError e, congrArg Prod.fst hanswer,
              by rw [hanswer]; exact state_setState_self .., r', hsteps⟩
        | ok u =>
            simp only [settle] at hanswer
            cases hstate : r'.state name with
            | loaded info =>
                simp only [hstate] at hanswer
                exact exists_holds_of_loaded (hended.ownName name info hstate) hanswer hstate
            | _ =>
                simp only [hstate] at hanswer
                exact ⟨.notFound, congrArg Prod.fst hanswer,
                  .inr ⟨by rw [hanswer]; exact state_setState_self .., r', hsteps⟩⟩

/-! ### No more than one -/

theorem eq_of_reaches_answered {answer : Except Error ModelClass} {m : LoadMoment}
    (hsteps : Reaches (.answered answer [] r) m) : m = .answered answer [] r := by
  rcases hsteps.cases_head with heq | ⟨_, hstep, _⟩
  · exact heq.symm
  · exact nomatch hstep

/-- The program of a load that no other waits for ends in one way only. -/
theorem ending_unique {m : LoadMoment} {a b : Except Error Unit} {r₁ r₂ : Registry}
    (h₁ : Reaches m (.running input name (ending a) [] r₁))
    (h₂ : Reaches m (.running input name (ending b) [] r₂)) : a = b := by
  have hlast : ∀ {a b : Except Error Unit} {r₁ r₂ : Registry},
      Reaches (.running input name (ending a) [] r₁) (.running input name (ending b) [] r₂) →
        a = b := by
    intro a b r₁ r₂ hsteps
    rcases hsteps.cases_head with heq | ⟨m', hstep, hsteps⟩
    · injection heq with _ _ hending
      cases a <;> cases b <;> cases hending <;> rfl
    · -- The step after the end leads to an answer, which nothing follows.
      cases rightUnique_step hstep (step_ending ..)
      exact nomatch eq_of_reaches_answered hsteps
  rcases h₁.total_of_right_unique rightUnique_step h₂ with h | h
  · exact hlast h
  · exact (hlast h).symm

/-- Without a loader no program ever runs. -/
theorem not_reaches_running_of_no_loader (hloader : r.loader = none) {program : LoadProgram}
    (hsteps : Reaches (r.request input name []) (.running input name program [] r')) : False := by
  rw [request_of_no_loader hloader 0] at hsteps
  exact nomatch eq_of_reaches_answered hsteps

/-- A program that ends with an error does not leave the name unknown. -/
theorem not_holds_notFound {e : Error} (h : Holds r input name (.loaderError e)) :
    ¬Holds r input name .notFound := by
  obtain ⟨-, -, r₁, hfail⟩ := h
  rintro ⟨-, ⟨hloader, -⟩ | ⟨-, r₂, hsucceed⟩⟩
  · exact not_reaches_running_of_no_loader hloader hfail
  · exact nomatch ending_unique (a := .error e) (b := .ok ()) hfail hsucceed

theorem holds_unique {a b : LoadEnding} (ha : Holds r input name a) (hb : Holds r input name b) :
    a = b := by
  cases a with
  | model c =>
      cases b with
      | model d => exact congrArg model (Except.ok.inj (ha.1.symm.trans hb.1))
      | otherClass base =>
          obtain ⟨⟨d, hd⟩, -⟩ := hb
          exact nomatch ha.1.symm.trans hd
      | loaderError e => exact nomatch ha.1.symm.trans hb.1
      | notFound => exact nomatch ha.1.symm.trans hb.1
  | otherClass base =>
      obtain ⟨⟨d, hd⟩, hstate⟩ := ha
      cases b with
      | model c => exact nomatch hd.symm.trans hb.1
      | otherClass base' =>
          injection hstate.symm.trans hb.2 with hinfo
          injection hinfo with _ hbase
          exact congrArg otherClass hbase
      | loaderError e => exact nomatch hstate.symm.trans hb.2.1
      | notFound => exact nomatch hd.symm.trans hb.1
  | loaderError e =>
      cases b with
      | model c => exact nomatch ha.1.symm.trans hb.1
      | otherClass base => exact nomatch ha.2.1.symm.trans hb.2
      | loaderError e' => exact congrArg loaderError (Except.error.inj (ha.1.symm.trans hb.1))
      | notFound => exact absurd hb (not_holds_notFound ha)
  | notFound =>
      cases b with
      | model c => exact nomatch ha.1.symm.trans hb.1
      | otherClass base =>
          obtain ⟨⟨d, hd⟩, -⟩ := hb
          exact nomatch ha.1.symm.trans hd
      | loaderError e => exact absurd ha (not_holds_notFound hb)
      | notFound => rfl

end LoadEnding

namespace Registry

open LoadMoment

/-! ### Histories of a registry -/

/-- A request of a program for a name that is in progress is refused, and no load starts. -/
theorem next?_of_inProgress {input name i n : String} {next : Except Error ModelClass → LoadProgram}
    {waiting : List PendingLoad} {r : Registry} (hn : r.state n = .inProgress) :
    (LoadMoment.running input name (.load i n next) waiting r).next? =
      some (.answered (.error (reentrant i n)) (⟨input, name, next⟩ :: waiting) r) := by
  rw [LoadMoment.next?, request, hn]

/-- **What a registry goes through.**  After any calls no name is in progress and every class is
under its own name.  At every moment of a load that then starts, the names in progress are among
those being loaded, which differ from each other, and a request for one of them is refused as
reentrant and leaves the registry as it is.  The load comes to an end, which is the answer that is
computed, and it is one of the four endings and no other. -/
theorem registry_history (loader : Option Loader) (calls : List RegistryCall) (r : Registry)
    (hr : r = ({ loader := loader } : Registry).callAll calls) :
    (∀ name, r.state name ≠ .inProgress) ∧
    (∀ name info, r.state name = .loaded info → info.name = name) ∧
    ∀ input name,
      (∀ m, Reaches (r.request input name []) m →
        (∀ n, m.registry.state n = .inProgress → n ∈ m.stack) ∧ m.stack.Nodup ∧
        (∀ n info, m.registry.state n = .loaded info → info.name = n) ∧
        ∀ i n input' name' next waiting r',
          m = .running input' name' (.load i n next) waiting r' → r'.state n = .inProgress →
            m.next? =
              some (.answered (.error (reentrant i n)) (⟨input', name', next⟩ :: waiting) r')) ∧
      Reaches (r.request input name []) (answeredBy loadModel r input name []) ∧
      ∃! ending : LoadEnding, ending.Holds r input name := by
  have h : Coherent loader [] r := hr ▸ coherent_callAll loader calls
  refine ⟨h.state_ne_inProgress, h.ownName, fun input name => ⟨fun m hm => ?_, ?_, ?_⟩⟩
  · have hm : m.Coherent loader := (coherent_request input name [] h).reaches hm
    refine ⟨hm.mem_stack, hm.nodup, hm.ownName, ?_⟩
    rintro i n input' name' next waiting r' rfl hn
    exact next?_of_inProgress hn
  · exact reaches_loadModel h input name
  · obtain ⟨ending, hending⟩ := LoadEnding.exists_holds h input name
    exact ⟨ending, hending, fun other hother => LoadEnding.holds_unique hother hending⟩

/-- A loader of two classes that ask for each other: the first goes on when the second is refused,
and the second fails when the first is. -/
def mutualLoader : Loader :=
  .ofScripts [
    ("app::A", [[.tryLoad "b" "app::B", .define (.model ⟨"app::A", "as", "id", false, []⟩)]]),
    ("app::B", [[.load "a" "app::A", .define (.other "app::B" none)]])]

/-- A registry of `mutualLoader` that was asked for the first class. -/
def mutualRegistry : Registry :=
  ({ loader := some mutualLoader } : Registry).callAll [.load "a" "app::A"]

/-- When the first class was asked for, the second was tried once and failed. -/
theorem registry_history_mutual :
    mutualRegistry = ({ loader := some mutualLoader } : Registry).callAll [.load "a" "app::A"] ∧
      mutualRegistry.state "app::B" = .failed ∧ mutualRegistry.attempts "app::B" = 1 ∧
      ∃! ending : LoadEnding, ending.Holds mutualRegistry "b" "app::B" := by
  have hends := (registry_history (some mutualLoader) [.load "a" "app::A"] mutualRegistry rfl).2.2
  exact ⟨rfl, rfl, rfl, (hends "b" "app::B").2.2⟩

end Registry
end EntityQuery
