/-
# Refused statements reach no database

A statement with a refused call can still be asked for its text, its rows, its
entities, their number or a page of them.  Each of these compiles the statement
before anything is sent, so each of them fails and sends nothing.

`IsRefused` collects what every use of the statement comes to, and
`isRefused_of_buildError` derives all of it from the recorded error alone.  What
asks for rows or for the text fails with that very error; what needs a model
class, or a SELECT to count, may fail for want of these first.

`first_error_is_final` puts this behind `buildError_applyAll`: whatever is called
after a refused call, the statement stays refused with the error of that call.
-/

import EntityQuery.Proofs.Built.Conditions
import EntityQuery.Proofs.Built.Refused
import EntityQuery.Proofs.Run.Action
import EntityQuery.Statement.Execute

namespace EntityQuery
namespace Statement

variable {s : Statement} {e : Error}

/-! ### What compiles first -/

theorem dispatch_refuses {α : Type} {compiled : Except Error Compiled}
    (send : String → List Value → Action α) (h : compiled = .error e) :
    (s.dispatch compiled send).Refuses e := by
  subst h
  exact (Action.refuses_ofExcept e).bind _

theorem fetchRows_refuses (h : s.buildError = some e) : s.fetchRows.Refuses e :=
  dispatch_refuses _ (compile_of_refused h)

theorem fetchFirstRow_refuses (h : s.buildError = some e) : s.fetchFirstRow.Refuses e := by
  have hlimit : (s.limit 1).buildError = some e := h
  exact dispatch_refuses _ (compile_of_refused hlimit)

theorem fetchAllAs_refuses (α : Type) [FromRow α] (h : s.buildError = some e) :
    (s.fetchAllAs α).Refuses e :=
  (fetchRows_refuses h).bind _

theorem fetchOneAs_refuses (α : Type) [FromRow α] (h : s.buildError = some e) :
    (s.fetchOneAs α).Refuses e :=
  (fetchFirstRow_refuses h).bind _

/-! ### Entities -/

/-- Without a model class the statement fails for that reason, and with one for its error. -/
theorem fetchEntities_refuses (h : s.buildError = some e) : ∃ f, s.fetchEntities.Refuses f := by
  cases hmodel : s.requireModel with
  | error f =>
      refine ⟨f, ?_⟩
      rw [fetchEntities, hmodel]
      exact (Action.refuses_ofExcept f).bind _
  | ok c =>
      refine ⟨e, fun connection session => ?_⟩
      rw [fetchEntities, hmodel, Action.perform_bind_ok _ (Action.perform_ofExcept _ _ _)]
      exact (fetchRows_refuses h).bind _ connection session

theorem getWithin_refuses (h : s.buildError = some e) (depth : Nat) :
    ∃ f, (getWithin depth s).Refuses f := by
  obtain ⟨f, hf⟩ := fetchEntities_refuses h
  cases depth with
  | zero => exact ⟨f, hf⟩
  | succ depth => exact ⟨f, hf.bind _⟩

theorem get_refuses (h : s.buildError = some e) : ∃ f, s.get.Refuses f :=
  getWithin_refuses h s.eagerDepth

theorem first_refuses (h : s.buildError = some e) : ∃ f, s.first.Refuses f := by
  have hlimit : (s.limit 1).buildError = some e := h
  obtain ⟨f, hf⟩ := get_refuses hlimit
  exact ⟨f, hf.map _⟩

theorem firstOrFail_refuses (h : s.buildError = some e) : ∃ f, s.firstOrFail.Refuses f := by
  obtain ⟨f, hf⟩ := first_refuses h
  exact ⟨f, hf.bind _⟩

/-! ### Numbers and pages -/

theorem count_refuses (h : s.buildError = some e) : ∃ f, s.count.Refuses f := by
  obtain ⟨f, hf⟩ := exists_compileCount_of_refused h
  exact ⟨f, (dispatch_refuses _ hf).bind _⟩

theorem hasRows_refuses (h : s.buildError = some e) : ∃ f, s.hasRows.Refuses f := by
  obtain ⟨f, hf⟩ := count_refuses h
  exact ⟨f, hf.map _⟩

/-- A page starts with counting, so it does not matter how its rows would be fetched. -/
theorem paginateWith_refuses {α : Type} (fetch : Statement → Action (List α))
    (h : s.buildError = some e) (page : Nat) (perPage : Option Nat) :
    ∃ f, (paginateWith fetch s page perPage).Refuses f := by
  obtain ⟨f, hf⟩ := count_refuses h
  exact ⟨f, hf.bind _⟩

/-- A search adds a group to the statement, which keeps its error. -/
theorem search_refuses (α : Type) [FromRow α] (h : s.buildError = some e) (columns : List String)
    (term : String) (page : Nat) (perPage : Option Nat) :
    ∃ f, (s.search α columns term page perPage).Refuses f := by
  cases hfilter : s.searchFilter columns term with
  | error f =>
      refine ⟨f, ?_⟩
      rw [search, hfilter]
      exact (Action.refuses_ofExcept f).bind _
  | ok filtered =>
      have hfiltered : filtered.buildError = some e := by
        unfold searchFilter at hfilter
        split at hfilter
        · cases hfilter
        · cases hfilter
          exact keepsError_addGroup s .and _ e h
      obtain ⟨f, hf⟩ := paginateWith_refuses (fetchAllAs α) hfiltered page perPage
      refine ⟨f, fun connection session => ?_⟩
      rw [search, hfilter, Action.perform_bind_ok _ (Action.perform_ofExcept _ _ _)]
      exact hf connection session

/-! ### Every use -/

/-- What every use of a statement comes to once a call on it was refused with an error.  An action
that refuses sends no request on any connection. -/
structure IsRefused (s : Statement) (e : Error) : Prop where
  buildError : s.buildError = some e
  compile : s.compile = .error e
  toSql : s.toSql = .error e
  compileCount : ∃ f, s.compileCount = .error f
  compileCount_select : s.kind = .select → s.compileCount = .error e
  execute : s.execute.Refuses e
  fetchRows : s.fetchRows.Refuses e
  fetchFirstRow : s.fetchFirstRow.Refuses e
  fetchAllAs : ∀ (α : Type) [FromRow α], (s.fetchAllAs α).Refuses e
  fetchOneAs : ∀ (α : Type) [FromRow α], (s.fetchOneAs α).Refuses e
  get : ∃ f, s.get.Refuses f
  first : ∃ f, s.first.Refuses f
  firstOrFail : ∃ f, s.firstOrFail.Refuses f
  count : ∃ f, s.count.Refuses f
  hasRows : ∃ f, s.hasRows.Refuses f
  paginate : ∀ (α : Type) [FromRow α] (page : Nat) (perPage : Option Nat),
    ∃ f, (s.paginate α page perPage).Refuses f
  paginateEntities : ∀ (page : Nat) (perPage : Option Nat),
    ∃ f, (s.paginateEntities page perPage).Refuses f
  search : ∀ (α : Type) [FromRow α] (columns : List String) (term : String) (page : Nat)
    (perPage : Option Nat), ∃ f, (s.search α columns term page perPage).Refuses f

/-- **The recorded error decides every use of a statement.** -/
theorem isRefused_of_buildError (h : s.buildError = some e) : s.IsRefused e where
  buildError := h
  compile := compile_of_refused h
  toSql := by
    rw [toSql, compile_of_refused h]
    rfl
  compileCount := exists_compileCount_of_refused h
  compileCount_select := compileCount_of_refused h
  execute := dispatch_refuses _ (compile_of_refused h)
  fetchRows := fetchRows_refuses h
  fetchFirstRow := fetchFirstRow_refuses h
  fetchAllAs α _ := fetchAllAs_refuses α h
  fetchOneAs α _ := fetchOneAs_refuses α h
  get := get_refuses h
  first := first_refuses h
  firstOrFail := firstOrFail_refuses h
  count := count_refuses h
  hasRows := hasRows_refuses h
  paginate α _ page perPage := paginateWith_refuses (fetchAllAs α) h page perPage
  paginateEntities page perPage := paginateWith_refuses Statement.get h page perPage
  search α _ columns term page perPage := search_refuses α h columns term page perPage

/-- **The first error is final.**  A call is refused on a statement that had no error yet, be it
for its own sake or for an error within the calls it carries.  Whatever is called afterwards, the
statement is refused with the error of that call. -/
theorem first_error_is_final (context : Context) (before after : List Call) (c : Call)
    (hfirst : (build context before).buildError = none)
    (hc : ((build context before).apply c).buildError = some e ∨
      c.RaisesWithin (build context before) e) :
    (build context (before ++ c :: after)).IsRefused e := by
  have hcall : ((build context before).apply c).buildError = some e :=
    hc.elim id (buildError_of_raisesWithin hfirst)
  have hlater : (build context (before ++ c :: after)).buildError = some e := by
    rw [build_append, applyAll]
    exact buildError_applyAll after hcall
  exact isRefused_of_buildError hlater

/-- An unknown operator in a group stays the error, also after a list without values. -/
theorem first_error_is_final_group :
    (build {} ([.fromTable "users"] ++
        Call.group .or [.compare .and "id" "==" .null] :: [.inList .and false "id" []])).IsRefused
      (.argument (.unknownOperator "==")) :=
  first_error_is_final {} [.fromTable "users"] [.inList .and false "id" []]
    (.group .or [.compare .and "id" "==" .null]) rfl (.inr rfl)

end Statement
end EntityQuery
