/-
# What a chain of maps leads to

A chain tries its maps one after the other and ends in a convention or in nothing.
Which class name an input leads to can be read off the entries as they were given
(`Resolver.named?`): a qualified name stands for itself, then comes the last entry of
the first map that has one for the name, then the convention.  `target?_chain` says
that the chain finds exactly this name, by induction on the maps.  Three facts lie
beneath it: trimming twice is trimming once (`Text.trim_trim`), a map holds the last
entry of a key (`Resolver.lookup?_entriesOf`), and a convention reads nothing but the
trimmed input (`Naming.qualify_trim`).

A registry without a loader holds, under every name, the class that was last defined
with it, whatever was asked of it in between (`Registry.known?_callAll`), and a
request does not change it.  `resolve_chain` puts the two halves together.
-/

import EntityQuery.Model.Resolver
import EntityQuery.Proofs.Quiet.Text
import EntityQuery.Proofs.Registered.History

namespace EntityQuery

theorem Naming.qualify_trim (modelNamespace input : String) :
    qualify modelNamespace (Text.trim input) = qualify modelNamespace input := by
  rw [qualify, qualify, Text.trim_trim]

namespace Resolver

/-! ### Maps -/

/-- Whether an entry of a map is one for a name: the keys of a map are trimmed and compared without
regard to letter case, and blank keys are for no name. -/
def isEntryFor (name : String) (entry : String × String) : Bool :=
  !Text.isBlankText entry.1 && Text.lowerText (Text.trim entry.1) == Text.lowerText name

/-- The class name of the last entry for a name. -/
def lastFor? (entries : List (String × String)) (name : String) : Option String :=
  (entries.filter (isEntryFor name)).getLast?.map Prod.snd

/-- The step by which `entriesOf` adds an entry to a map. -/
def addEntry (found : List (String × String)) (entry : String × String) : List (String × String) :=
  if (Text.trim entry.1).isEmpty then found else Keyed.put (mapKey entry.1) entry.2 found

/-- An entry for a name is found under it, and any other entry changes nothing that is found. -/
theorem lookup?_addEntry (found : List (String × String)) (entry : String × String) {name : String}
    (hname : Text.trim name = name) :
    lookup? (addEntry found entry) name =
      if isEntryFor name entry then some entry.2 else lookup? found name := by
  rw [addEntry, isEntryFor, Text.isEmpty_trim, lookup?, lookup?]
  have hkey : mapKey name = Text.lowerText name := by rw [mapKey, hname]
  cases Text.isBlankText entry.1 with
  | true => rfl
  | false =>
      by_cases heq : Text.lowerText (Text.trim entry.1) = Text.lowerText name
      · have hput : mapKey name = mapKey entry.1 := by rw [hkey, mapKey, heq]
        simp [hput, heq]
      · have hput : mapKey name ≠ mapKey entry.1 := by
          rw [hkey, mapKey]
          exact Ne.symm heq
        simp [Keyed.find?_put_of_ne hput, heq]

theorem lookup?_foldl_addEntry (entries found : List (String × String)) {name : String}
    (hname : Text.trim name = name) :
    lookup? (entries.foldl addEntry found) name =
      (lastFor? entries name).or (lookup? found name) := by
  induction entries generalizing found with
  | nil => rfl
  | cons entry entries ih =>
      rw [List.foldl_cons, ih, lookup?_addEntry found entry hname, lastFor?, lastFor?]
      -- The entries behind this one were added later and win.
      cases hentry : isEntryFor name entry with
      | true =>
          rw [if_pos rfl, List.filter_cons_of_pos hentry, List.getLast?_cons]
          cases (entries.filter (isEntryFor name)).getLast? <;> rfl
      | false => rw [if_neg Bool.false_ne_true, List.filter_cons_of_neg (by simp [hentry])]

/-- **What a map has for a name** is its last entry for it. -/
theorem lookup?_entriesOf (entries : List (String × String)) {name : String}
    (hname : Text.trim name = name) :
    lookup? (entriesOf entries) name = lastFor? entries name :=
  (lookup?_foldl_addEntry entries [] hname).trans (Option.or_none ..)

/-! ### Chains -/

/-- A chain of maps, each given by its entries; behind the last one stands the convention of a
namespace or nothing. -/
def chain (maps : List (List (String × String))) (modelNamespace : Option String) : Resolver :=
  maps.foldr (fun entries fallback => .map (entriesOf entries) fallback)
    (modelNamespace.elim .unknown .convention)

/-- The class name that the entries and the convention give to an input. -/
def named? (maps : List (List (String × String))) (modelNamespace : Option String)
    (input : String) : Option String :=
  let name := Text.trim input
  if Naming.isQualified name then some name
  else
    (maps.findSome? fun entries => lastFor? entries name).or
      (if Text.isBlankText name then none
        else modelNamespace.map fun n => Naming.qualify n name)

variable {maps : List (List (String × String))} {modelNamespace : Option String}

/-- At the end of a chain a convention applies to every input that is not blank. -/
theorem target?_ending (modelNamespace : Option String) (input : String) :
    (modelNamespace.elim unknown convention).target? input =
      if Text.isBlankText (Text.trim input) then none
      else modelNamespace.map fun n => Naming.qualify n (Text.trim input) := by
  have hblank : Text.isBlankText (Text.trim input) = Text.isBlankText input := by
    rw [← Text.isEmpty_trim, Text.trim_trim, Text.isEmpty_trim]
  rw [hblank]
  cases modelNamespace with
  | none => exact (ite_self _).symm
  | some n =>
      rw [Option.elim_some, target?, Option.map_some, Naming.qualify_trim]

/-- The target of a name without a namespace.  Induction on the maps. -/
theorem target?_chain_of_not_isQualified (maps : List (List (String × String)))
    (modelNamespace : Option String) {input : String}
    (hinput : Naming.isQualified (Text.trim input) = false) :
    (chain maps modelNamespace).target? input =
      (maps.findSome? fun entries => lastFor? entries (Text.trim input)).or
        ((modelNamespace.elim unknown convention).target? input) := by
  induction maps with
  | nil => rfl
  | cons entries maps ih =>
      rw [chain, List.foldr_cons, target?, if_neg (by simp [hinput]),
        lookup?_entriesOf entries (Text.trim_trim input), List.findSome?_cons]
      cases lastFor? entries (Text.trim input) with
      | some cls => rfl
      | none => exact ih

/-- A qualified name is its own target in every chain that is not empty. -/
theorem target?_chain_of_isQualified (hchain : maps ≠ [] ∨ modelNamespace ≠ none) {input : String}
    (hinput : Naming.isQualified (Text.trim input) = true) :
    (chain maps modelNamespace).target? input = some (Text.trim input) := by
  cases maps with
  | cons entries maps => rw [chain, List.foldr_cons, target?, if_pos hinput]
  | nil =>
      obtain ⟨n, rfl⟩ := Option.ne_none_iff_exists'.1 (hchain.resolve_left fun h => h rfl)
      have hne : Text.isBlankText input = false := by
        rw [← Text.isEmpty_trim, ← Bool.not_eq_true, String.isEmpty_iff]
        intro hempty
        rw [hempty] at hinput
        exact Bool.false_ne_true hinput
      rw [chain, List.foldr_nil, Option.elim_some, target?, if_neg (by simp [hne]),
        Naming.qualify, if_pos hinput]

/-- **A chain finds the name that its entries and its convention give.** -/
theorem target?_chain (hchain : maps ≠ [] ∨ modelNamespace ≠ none) (input : String) :
    (chain maps modelNamespace).target? input = named? maps modelNamespace input := by
  rw [named?]
  cases hinput : Naming.isQualified (Text.trim input) with
  | true => rw [target?_chain_of_isQualified hchain hinput, if_pos rfl]
  | false =>
      rw [target?_chain_of_not_isQualified maps modelNamespace hinput, target?_ending,
        if_neg Bool.false_ne_true]

end Resolver

/-! ### A registry without a loader -/

/-- The class that a call defines. -/
def RegistryCall.defined? : RegistryCall → Option ClassInfo
  | .define info => some info
  | .load _ _ => none

namespace Registry

/-- The class that a sequence of calls leaves under a name: the last one defined that carries it. -/
def held? (calls : List RegistryCall) (name : String) : Option ClassInfo :=
  ((calls.filterMap RegistryCall.defined?).filter fun info => info.name == name).getLast?

variable {r : Registry}

/-- Without a loader a request leaves the registry as it is, and its answer is decided by the class
known under the name. -/
theorem Coherent.loadModel_of_no_loader (h : r.Coherent none []) (input name : String) :
    r.loadModel input name =
      (((r.known? name).elim (.error (notFound input name)) (requireModel input)), r) := by
  cases hname : r.known? name with
  | some info => exact LoadEnding.loadModel_of_loaded (known?_eq_some_iff.1 hname) input
  | none =>
      refine LoadEnding.loadModel_of_no_loader h.loader_eq ?_ input
      rintro (hstate | ⟨info, hstate⟩)
      · exact h.state_ne_inProgress name hstate
      · rw [known?_eq_some_iff.2 hstate] at hname
        exact nomatch hname

/-- The calls on a registry without a loader come to the definitions among them. -/
theorem Coherent.callAll_of_no_loader (h : r.Coherent none []) (calls : List RegistryCall) :
    r.callAll calls = (calls.filterMap RegistryCall.defined?).foldl Registry.define r := by
  induction calls generalizing r with
  | nil => rfl
  | cons c calls ih =>
      cases c with
      | define info => exact ih (h.define info)
      | load input name =>
          have hsame : (r.loadModel input name).2 = r := by rw [h.loadModel_of_no_loader]
          rw [Registry.callAll, List.foldl_cons, call, hsame]
          exact ih h

/-- **What a registry without a loader knows** after any calls. -/
theorem known?_callAll (calls : List RegistryCall) (name : String) :
    (({} : Registry).callAll calls).known? name = held? calls name := by
  rw [(coherent_fresh none).callAll_of_no_loader calls, known?_foldl_define]
  exact Option.or_none ..

end Registry

/-! ### The answer of a chain -/

namespace Resolver

/-- The base type that a class is reported to lack. -/
def expectedBase : Option String → String
  | none => "Model"
  | some base => "Model (found subclass of " ++ base ++ ")"

/-- How an input is answered, by the class name it is given and the classes that are held: with the
model class of the name, or with an error that repeats the input as it stands and tells at which
step the input failed and with which name. -/
def answer (held : String → Option ClassInfo) (input : String) :
    Option String → Except Error ModelClass
  | none => .error (.resolution .notFound ⟨input, .lookup, none, none⟩)
  | some name =>
    match held name with
    | some (.model c) => .ok c
    | some (.other _ base) =>
      .error (.resolution .typeMismatch ⟨input, .validate, some name, some (expectedBase base)⟩)
    | none => .error (.resolution .notFound ⟨input, .load, some name, none⟩)

theorem name_of_held? {calls : List RegistryCall} {name : String} {info : ClassInfo}
    (h : Registry.held? calls name = some info) : info.name = name :=
  eq_of_beq (List.mem_filter.1 (List.mem_of_getLast? h)).2

/-- A class of the answer carries the name that the input is given. -/
theorem name_of_answer {calls : List RegistryCall} {input : String} {target : Option String}
    {c : ModelClass} (h : answer (Registry.held? calls) input target = .ok c) :
    target = some c.name := by
  cases target with
  | none => exact nomatch h
  | some name =>
      rw [answer] at h
      split at h
      · rename_i found hfound
        cases h
        exact congrArg some (name_of_held? hfound).symm
      · exact nomatch h
      · exact nomatch h

theorem answer_some (calls : List RegistryCall) (input name : String) :
    (Registry.held? calls name).elim (.error (Registry.notFound input name))
        (Registry.requireModel input) =
      answer (Registry.held? calls) input (some name) := by
  rw [answer]
  cases hheld : Registry.held? calls name with
  | none => rfl
  | some info =>
      cases info with
      | model c => rfl
      | other n base =>
          obtain rfl : n = name := name_of_held? hheld
          cases base <;> rfl

/-- **How a chain answers**, over a registry without a loader, whatever was asked of the registry
before: the name that the entries and the convention give to the input decides, together with the
class that was last defined with that name.  The registry is not changed, and a class that comes
back carries the name that was looked for. -/
theorem resolve_chain (maps : List (List (String × String))) (modelNamespace : Option String)
    (hchain : maps ≠ [] ∨ modelNamespace ≠ none) (calls : List RegistryCall) (input : String) :
    (chain maps modelNamespace).resolve input (({} : Registry).callAll calls) =
        (answer (Registry.held? calls) input (named? maps modelNamespace input),
          ({} : Registry).callAll calls) ∧
      ∀ c, ((chain maps modelNamespace).resolve input (({} : Registry).callAll calls)).1 = .ok c →
        named? maps modelNamespace input = some c.name := by
  have hresolve : (chain maps modelNamespace).resolve input (({} : Registry).callAll calls) =
      (answer (Registry.held? calls) input (named? maps modelNamespace input),
        ({} : Registry).callAll calls) := by
    rw [resolve, target?_chain hchain input]
    cases named? maps modelNamespace input with
    | none => rfl
    | some name =>
        have hcoherent := Registry.coherent_callAll none calls
        rw [← answer_some, ← Registry.known?_callAll]
        exact hcoherent.loadModel_of_no_loader input name
  refine ⟨hresolve, fun c hc => ?_⟩
  rw [hresolve] at hc
  dsimp only at hc
  exact name_of_answer hc

/-- Two maps, the first of which is given the same key twice, and a blank one. -/
def libraryMaps : List (List (String × String)) :=
  [[("Authors", "library::Person"), (" ", "library::Nobody"), (" authors ", "library::Author")],
    [("authors", "library::Book"), ("mail", "library::Mailer")]]

/-- A model class and a class that is none, with a request in between. -/
def libraryCalls : List RegistryCall :=
  [.define (.model ⟨"library::Author", "authors", "id", false, []⟩), .load "books" "library::Book",
    .define (.other "library::Mailer" none)]

/-- A name in the first map, one in the second, one for the convention and a blank one. -/
theorem resolve_libraryMaps :
    (libraryMaps ≠ [] ∨ some "library" ≠ none) ∧
      ((chain libraryMaps (some "library")).resolve " AUTHORS" (({} : Registry).callAll
          libraryCalls)).1 = .ok ⟨"library::Author", "authors", "id", false, []⟩ ∧
      ((chain libraryMaps (some "library")).resolve "Mail " (({} : Registry).callAll
          libraryCalls)).1 =
        .error (.resolution .typeMismatch
          ⟨"Mail ", .validate, some "library::Mailer", some "Model"⟩) ∧
      ((chain libraryMaps (some "library")).resolve "old_books" (({} : Registry).callAll
          libraryCalls)).1 =
        .error (.resolution .notFound ⟨"old_books", .load, some "library::OldBook", none⟩) ∧
      ((chain libraryMaps (some "library")).resolve " " (({} : Registry).callAll
          libraryCalls)).1 =
        .error (.resolution .notFound ⟨" ", .lookup, none, none⟩) := by
  have hresolve := fun input => congrArg Prod.fst
    (resolve_chain libraryMaps (some "library") (.inl (by decide)) libraryCalls input).1
  have hauthors : named? libraryMaps (some "library") " AUTHORS" = some "library::Author" := by
    decide +kernel
  have hmail : named? libraryMaps (some "library") "Mail " = some "library::Mailer" := by
    decide +kernel
  have hbooks : named? libraryMaps (some "library") "old_books" = some "library::OldBook" := by
    decide +kernel
  have hblank : named? libraryMaps (some "library") " " = none := by decide +kernel
  refine ⟨.inl (by decide), (hresolve _).trans ?_, (hresolve _).trans ?_, (hresolve _).trans ?_,
    (hresolve _).trans ?_⟩
  · rw [hauthors]
    rfl
  · rw [hmail]
    rfl
  · rw [hbooks]
    rfl
  · rw [hblank]
    rfl

end Resolver
end EntityQuery
