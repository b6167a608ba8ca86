/-
# Resolving after other requests

A loader of registrations defines, for a name, every class that is registered under
it, and each of these under the name that the class itself carries.  A class may
therefore become known through a request for another name, and replace one that was
known before.  What a request leads to then depends on the requests before it.

`resolves_alike_iff` says when it does not: every name whose registrations include a
class that carries the name in question agrees with the registrations of that name
itself.  The last class counts, since a later definition replaces an earlier one
(`registered?`).  That is so for every name if every class is registered under its
own name.

A registry enters the argument through the classes it knows (`Registry.known?`).
One equation says what a request adds to them (`known?_loadModel`), another what a
request is answered by them (`outcome_loadModel`).
-/

import EntityQuery.Proofs.Registered.Ending

namespace EntityQuery

/-- The model class that a class is, if it is one. -/
def ClassInfo.model? : ClassInfo → Option ModelClass
  | .model c => some c
  | .other _ _ => none

namespace Registry

/-! ### What a request comes to -/

/-- An answer as callers tell answers apart: the class, or the kind of the error. -/
def outcome (answer : Except Error ModelClass) : Except String ModelClass :=
  answer.mapError Error.kindName

/-- The outcome of a request by what is known under the name: nothing, a class that is no model
class, or a model class. -/
def outcomeOf : Option (Option ModelClass) → Except String ModelClass
  | none => .error "Resolution.NotFound"
  | some none => .error "Resolution.TypeMismatch"
  | some (some c) => .ok c

theorem outcomeOf_injective : Function.Injective outcomeOf := by
  intro a b h
  rcases a with _ | _ | c <;> rcases b with _ | _ | d
  · rfl
  · exact absurd (Except.error.inj h) (by decide)
  · exact nomatch h
  · exact absurd (Except.error.inj h) (by decide)
  · rfl
  · exact nomatch h
  · exact nomatch h
  · exact nomatch h
  · exact congrArg (fun c => some (some c)) (Except.ok.inj h)

theorem outcome_requireModel (input : String) (info : ClassInfo) :
    outcome (requireModel input info) = outcomeOf (some info.model?) := by
  cases info <;> rfl

/-- The class that is known under a name. -/
def known? (r : Registry) (name : String) : Option ClassInfo :=
  match r.state name with
  | .loaded info => some info
  | _ => none

theorem known?_eq_some_iff {r : Registry} {name : String} {info : ClassInfo} :
    r.known? name = some info ↔ r.state name = .loaded info := by
  unfold known?
  split
  · rename_i found hfound
    rw [hfound, Option.some.injEq, LoadState.loaded.injEq]
  · rename_i hstate
    exact ⟨fun h => (nomatch h), fun h => absurd h (hstate info)⟩

theorem known?_of_not_loaded {r : Registry} {name : String}
    (h : ∀ info, r.state name = .loaded info → False) : r.known? name = none :=
  Option.eq_none_iff_forall_ne_some.2 fun info hinfo => h info (known?_eq_some_iff.1 hinfo)

theorem known?_define (r : Registry) (info : ClassInfo) (name : String) :
    (r.define info).known? name = if info.name = name then some info else r.known? name := by
  unfold known?
  rw [define, state_setState]
  by_cases h : info.name = name
  · rw [if_pos h.symm, if_pos h]
  · rw [if_neg (Ne.symm h), if_neg h]

/-- Of classes defined in order, the last one that carries a name is known under it. -/
theorem known?_foldl_define (infos : List ClassInfo) (r : Registry) (name : String) :
    (infos.foldl define r).known? name =
      (infos.filter fun info => info.name == name).getLast?.or (r.known? name) := by
  induction infos generalizing r with
  | nil => rfl
  | cons info infos ih =>
      rw [List.foldl_cons, ih, known?_define]
      by_cases h : info.name = name
      · rw [if_pos h, List.filter_cons_of_pos (by simpa using h), List.getLast?_cons]
        cases (infos.filter fun info => info.name == name).getLast? <;> rfl
      · rw [if_neg h, List.filter_cons_of_neg (by simpa using h)]

/-! ### Requests to a registry of registrations -/

/-- The class that loading `loaded` makes known under `name`: of the classes registered under the
first that carry the second, the last. -/
def registered? (registrations : List (String × ClassInfo)) (loaded name : String) :
    Option ClassInfo :=
  (((registrations.filter fun r => r.1 == loaded).map Prod.snd).filter fun info =>
    info.name == name).getLast?

variable {registrations : List (String × ClassInfo)} {r : Registry}

theorem runProgram_defineAll
    (load : Registry → String → String → Except Error ModelClass × Registry)
    (infos : List ClassInfo) (r : Registry) :
    runProgram load (Loader.defineAll infos) r = (.ok (), infos.foldl define r) := by
  induction infos generalizing r with
  | nil => rfl
  | cons info infos ih => exact ih (r.define info)

/-- A program that ends well leaves what is known as it is. -/
theorem known?_settle (r : Registry) (input name other : String) :
    (r.settle input name (.ok ())).2.known? other = r.known? other := by
  rw [settle]
  split
  · rfl
  · rename_i hstate
    by_cases h : other = name
    · rw [h, known?_of_not_loaded hstate, known?, state_setState_self]
    · rw [known?, state_setState_of_ne h, known?]

theorem outcome_settle (r : Registry) (input name : String) :
    outcome ((r.settle input name (.ok ())).1.bind (requireModel input)) =
      outcomeOf ((r.known? name).map ClassInfo.model?) := by
  rw [settle]
  split
  · rename_i info hinfo
    rw [known?_eq_some_iff.2 hinfo]
    exact outcome_requireModel input info
  · rename_i hstate
    rw [known?_of_not_loaded hstate]
    rfl

/-- A registry of registrations between its calls. -/
abbrev IsSettled (registrations : List (String × ClassInfo)) (r : Registry) : Prop :=
  r.Coherent (some (.ofRegistrations registrations)) []

variable {name : String}

theorem IsSettled.not_isBusy (h : r.IsSettled registrations) (hname : r.known? name = none) :
    ¬r.IsBusy name := by
  rintro (hstate | ⟨info, hstate⟩)
  · exact h.state_ne_inProgress name hstate
  · rw [known?_eq_some_iff.2 hstate] at hname
    exact nomatch hname

/-- The registry in which the program for a name ends. -/
def defined (registrations : List (String × ClassInfo)) (r : Registry) (name : String) : Registry :=
  ((registrations.filter fun entry => entry.1 == name).map Prod.snd).foldl define
    ((r.setState name .inProgress).record (.started name))

theorem IsSettled.loadModel_of_unknown (h : r.IsSettled registrations)
    (hname : r.known? name = none) (input : String) :
    r.loadModel input name =
      (((defined registrations r name).settle input name (.ok ())).1.bind (requireModel input),
        ((defined registrations r name).settle input name (.ok ())).2) := by
  rw [LoadEnding.loadModel_of_not_isBusy h.loader_eq (h.not_isBusy hname),
    LoadMoment.attemptAlone, LoadMoment.attempt]
  have hprogram : (Loader.ofRegistrations registrations).program name (r.attempts name) =
      Loader.defineAll ((registrations.filter fun entry => entry.1 == name).map Prod.snd) := rfl
  rw [hprogram, runProgram_defineAll]
  rfl

/-- The program for an unknown name adds the classes registered under it to those that are known. -/
theorem known?_defined (hname : r.known? name = none) (other : String) :
    (defined registrations r name).known? other =
      (registered? registrations name other).or (r.known? other) := by
  have hstart : ((r.setState name .inProgress).record (.started name)).known? other =
      r.known? other := by
    by_cases h : other = name
    · rw [h, hname, known?, state_record, state_setState_self]
    · rw [known?, state_record, state_setState_of_ne h, known?]
  rw [defined, known?_foldl_define, hstart, registered?]

/-- **What a request adds.**  A request for a known name changes nothing that is known, and one for
an unknown name adds the classes registered under it. -/
theorem IsSettled.known?_loadModel (h : r.IsSettled registrations) (input name other : String) :
    (r.loadModel input name).2.known? other =
      if (r.known? name).isSome then r.known? other
      else (registered? registrations name other).or (r.known? other) := by
  cases hname : r.known? name with
  | some info =>
      rw [LoadEnding.loadModel_of_loaded (known?_eq_some_iff.1 hname)]
      rfl
  | none =>
      rw [h.loadModel_of_unknown hname, known?_settle, known?_defined hname]
      rfl

/-- **How a request is answered**: by the class that is known under the name, or else by the last
one that is registered for it. -/
theorem IsSettled.outcome_loadModel (h : r.IsSettled registrations) (input name : String) :
    outcome (r.loadModel input name).1 =
      outcomeOf (((r.known? name).or (registered? registrations name name)).map
        ClassInfo.model?) := by
  cases hname : r.known? name with
  | some info =>
      rw [LoadEnding.loadModel_of_loaded (known?_eq_some_iff.1 hname), outcome_requireModel]
      rfl
  | none =>
      rw [h.loadModel_of_unknown hname, outcome_settle, known?_defined hname, hname,
        Option.or_none, Option.none_or]

/-! ### Requests in two orders -/

/-- A registry of registrations after requests, each of an input for a name. -/
def afterRequests (registrations : List (String × ClassInfo)) (requests : List (String × String)) :
    Registry :=
  ({ loader := some (.ofRegistrations registrations) } : Registry).callAll
    (requests.map fun request => .load request.1 request.2)

theorem isSettled_afterRequests (registrations : List (String × ClassInfo))
    (requests : List (String × String)) :
    (afterRequests registrations requests).IsSettled registrations :=
  coherent_callAll _ _

/-- Every name whose registrations include a class that carries `name` leads to the same as the
registrations of `name` itself. -/
def Agrees (registrations : List (String × ClassInfo)) (name : String) : Prop :=
  ∀ other info, registered? registrations other name = some info →
    (registered? registrations name name).map ClassInfo.model? = some info.model?

/-- If the registrations agree on a name, then what is known under it agrees with them, too, however
it became known.  Induction on the requests, from the first to the last. -/
theorem known?_of_agrees (hagrees : Agrees registrations name) {requests : List (String × String)}
    (h : r.IsSettled registrations)
    (hknown : ∀ info, r.known? name = some info →
      (registered? registrations name name).map ClassInfo.model? = some info.model?)
    {info : ClassInfo}
    (hinfo : (r.callAll (requests.map fun request => .load request.1 request.2)).known? name =
      some info) :
    (registered? registrations name name).map ClassInfo.model? = some info.model? := by
  induction requests generalizing r with
  | nil => exact hknown info hinfo
  | cons request requests ih =>
      refine ih (h.loadModel request.1 request.2) (fun found hfound => ?_) hinfo
      rw [h.known?_loadModel] at hfound
      split at hfound
      · exact hknown found hfound
      · rcases Option.or_eq_some_iff.1 hfound with hregistered | ⟨-, hknown'⟩
        · exact hagrees request.2 found hregistered
        · exact hknown found hknown'

/-- If the registrations agree on a name, every request for it is answered by them. -/
theorem outcome_of_agrees (hagrees : Agrees registrations name)
    (requests : List (String × String)) (input : String) :
    outcome ((afterRequests registrations requests).loadModel input name).1 =
      outcomeOf ((registered? registrations name name).map ClassInfo.model?) := by
  rw [(isSettled_afterRequests registrations requests).outcome_loadModel]
  cases hknown : (afterRequests registrations requests).known? name with
  | none => rw [Option.none_or]
  | some info =>
      have hinfo := known?_of_agrees hagrees (coherent_fresh _) (fun _ h => (nomatch h)) hknown
      rw [Option.some_or, hinfo, Option.map_some]

/-- Registrations under the names that their classes carry agree on every name. -/
theorem agrees_of_ownNames (h : ∀ entry ∈ registrations, entry.2.name = entry.1) (name : String) :
    Agrees registrations name := by
  intro other info hinfo
  have hmem := List.mem_filter.1 (List.mem_of_getLast? hinfo)
  obtain ⟨entry, hentry, rfl⟩ := List.mem_map.1 hmem.1
  obtain ⟨hentry, hother⟩ := List.mem_filter.1 hentry
  have heq : other = name := by
    rw [← eq_of_beq hother, ← h entry hentry]
    exact eq_of_beq hmem.2
  rw [← heq] at hinfo ⊢
  rw [hinfo, Option.map_some]

/-- **When resolving does not depend on what was asked for before.**  A name is resolved alike, to
the same class or to an error of the same kind, after any requests whatever if and only if the
registrations agree on it.  They do if every class is registered under the name it carries. -/
theorem resolves_alike_iff (registrations : List (String × ClassInfo)) (name : String) :
    ((∀ before before' input input',
      outcome ((afterRequests registrations before).loadModel input name).1 =
        outcome ((afterRequests registrations before').loadModel input' name).1) ↔
      Agrees registrations name) ∧
    ((∀ entry ∈ registrations, entry.2.name = entry.1) → Agrees registrations name) := by
  refine ⟨⟨fun halike other info hinfo => ?_, fun hagrees before before' input input' => ?_⟩,
    fun h => agrees_of_ownNames h name⟩
  · -- The requests to compare are none at all and the one for the other name.
    have houtcome := halike [] [(other, other)] name name
    rw [(isSettled_afterRequests registrations []).outcome_loadModel,
      (isSettled_afterRequests registrations [(other, other)]).outcome_loadModel] at houtcome
    have hfresh : ∀ n, (afterRequests registrations []).known? n = none := fun _ => rfl
    have hknown : (afterRequests registrations [(other, other)]).known? name = some info := by
      have hload := (isSettled_afterRequests registrations []).known?_loadModel other other name
      rw [hfresh, hinfo] at hload
      exact hload
    rw [hfresh, hknown, Option.none_or, Option.some_or, Option.map_some] at houtcome
    exact outcomeOf_injective houtcome
  · rw [outcome_of_agrees hagrees, outcome_of_agrees hagrees]

/-- A class that is registered under another name than its own. -/
def misnamed : List (String × ClassInfo) :=
  [("billing::Misnamed", .model ⟨"billing::Renamed", "renamed", "id", false, []⟩)]

/-- The name of the class is not found at first, and found after a request for the other. -/
theorem resolves_after_misnamed :
    outcome ((afterRequests misnamed []).loadModel "r" "billing::Renamed").1 =
        .error "Resolution.NotFound" ∧
      outcome ((afterRequests misnamed [("m", "billing::Misnamed")]).loadModel "r"
          "billing::Renamed").1 =
        .ok ⟨"billing::Renamed", "renamed", "id", false, []⟩ :=
  ⟨rfl, rfl⟩

end Registry
end EntityQuery
