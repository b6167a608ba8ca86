/-
# Calls in any order

The calls of different families may be mixed in any order.  What matters is the order
of the calls within each family: two sequences of calls with the same calls of every
family in the same order build the same statement, unless both are refused
(`applyAll_eq_of_sameFamilies`).  So they compile alike (`compile_any_order`).

The argument follows one family through a run.  A call of another family leaves its
clauses alone, and a call of its own sees nothing else; so they are what the calls of
this family alone would have made of them (`only_applyAll`).  Whether a call is
refused is decided by its own family, too, so a run is accepted if and only if the
calls of every family by themselves are (`accepted_of_callsOf`).  And a statement is its source
with the clauses of all families (`eq_of_only`).

A page is the one call of two families.  It is a limit and an offset made together, and is
taken apart into these first (`Call.parts`).
-/

import EntityQuery.Proofs.Built.Refused
import EntityQuery.Proofs.Order.Family
import Mathlib.Data.List.Induction

namespace EntityQuery
namespace Statement

variable {f g : Family} {s t : Statement}

/-! ### One family -/

theorem apply_eq_graft {c : Call} (h : c.families = [f]) (s : Statement) :
    s.apply c = graft f s ((s.only f).apply c) :=
  isLocal_apply h s

/-- A call of a family makes of its clauses what it makes of them alone. -/
theorem only_apply {c : Call} (h : c.families = [f]) :
    (s.apply c).only f = graft f s.source ((s.only f).apply c) := by
  rw [apply_eq_graft h s, only_graft]

theorem only_apply_congr {c : Call} (h : c.families = [f]) (hst : s.only f = t.only f) :
    (s.apply c).only f = (t.apply c).only f := by
  have hsource : s.source = t.source := by
    rw [← source_only (f := f), hst, source_only]
  rw [only_apply h, only_apply h, hst, hsource]

/-- An accepted call leaves the clauses of all other families alone. -/
theorem only_apply_of_ne {c : Call} (h : c.families = [g]) (hfg : f ≠ g)
    (hc : (s.apply c).buildError = none) : (s.apply c).only f = s.only f := by
  have hsource : (s.apply c).source = s.source := by rw [apply_eq_graft h s, source_graft]
  rw [only, hsource]
  exact (isLocal_apply h).graft_of_ne hfg (accepted_of_apply hc) hc

/-- The calls of a family among some calls. -/
def callsOf (f : Family) (calls : List Call) : List Call :=
  calls.filter fun c => decide (f ∈ c.families)

/-- **What becomes of one family.**  Accepted calls of single families make of the clauses of a
family what its own calls make of them. -/
theorem only_applyAll {calls : List Call} (hcalls : ∀ c ∈ calls, ∃ g, c.families = [g])
    (hst : s.only f = t.only f) (h : (s.applyAll calls).buildError = none) :
    (s.applyAll calls).only f = (t.applyAll (callsOf f calls)).only f := by
  unfold callsOf
  induction calls generalizing s t with
  | nil => exact hst
  | cons c calls ih =>
      obtain ⟨g, hg⟩ := hcalls c List.mem_cons_self
      have hrest := fun d hd => hcalls d (List.mem_cons_of_mem c hd)
      rw [applyAll] at h ⊢
      by_cases hfg : f = g
      · subst hfg
        rw [List.filter_cons_of_pos (by simp [hg]), applyAll]
        exact ih hrest (only_apply_congr hg hst) h
      · rw [List.filter_cons_of_neg (by simp [hg, hfg])]
        refine ih hrest ?_ h
        rw [only_apply_of_ne hg hfg (accepted_of_applyAll h), hst]

/-! ### All families -/

/-- A call is judged by its own family: a run is accepted if those of all families are. -/
theorem accepted_of_callsOf {calls : List Call} (hcalls : ∀ c ∈ calls, ∃ g, c.families = [g])
    (hs : s.buildError = none) (h : ∀ f, (s.applyAll (callsOf f calls)).buildError = none) :
    (s.applyAll calls).buildError = none := by
  induction calls using List.reverseRecOn with
  | nil => exact hs
  | append_singleton before c ih =>
      have hbefore := fun d hd => hcalls d (List.mem_append_left [c] hd)
      obtain ⟨g, hg⟩ := hcalls c (List.mem_append_right before List.mem_cons_self)
      have haccepted : (s.applyAll before).buildError = none := by
        refine ih hbefore fun f => ?_
        have hf := h f
        rw [callsOf, List.filter_append, applyAll_append] at hf
        exact accepted_of_applyAll hf
      have honly := only_apply_congr hg (only_applyAll (f := g) (t := s) hbefore rfl haccepted)
      have hown := h g
      rw [callsOf, List.filter_append, List.filter_cons_of_pos (by simp [hg]), List.filter_nil,
        applyAll_append] at hown
      rw [applyAll_append, applyAll, applyAll, ← buildError_only (f := g), honly, buildError_only]
      exact hown

attribute [ext] Bindings Statement

/-- **A statement is its source with the clauses of all families.** -/
theorem eq_of_only (h : ∀ f, s.only f = t.only f) : s = t := by
  have field {α : Type} (f : Family) (get : Statement → α) : get (s.only f) = get (t.only f) :=
    congrArg get (h f)
  have hbindings : s.bindings = t.bindings :=
    Bindings.ext (field .expressions (·.bindings.select)) (field .joins (·.bindings.join))
      (field .conditions (·.bindings.whereTree)) (field .jsonConditions (·.bindings.jsonWhere))
      (field .having (·.bindings.having)) (field .orders (·.bindings.order))
      (field .unions (·.bindings.union)) (field .mutation (·.bindings.mutation))
  exact Statement.ext (field .selection (·.context)) (field .mutation (·.kind))
    (field .mutation (·.kindLocked)) (field .selection (·.table)) (field .selection (·.columns))
    (field .expressions (·.expressions)) (field .mutation (·.mutationColumns))
    (field .conditions (·.conditions)) (field .jsonConditions (·.jsonConditions))
    (field .joins (·.joins)) (field .groups (·.groups)) (field .having (·.havingClause))
    (field .orders (·.orders)) (field .unions (·.unions)) (field .limit (·.limitCount))
    (field .offset (·.offsetCount)) (field .selection (·.isDistinct))
    (field .conditions (·.softDeleteMode)) (field .selection (·.modelClass))
    (field .eager (·.eager)) (field .eager (·.constraints)) (field .mutation (·.upsertUnique))
    (field .mutation (·.upsertUpdate)) (field .selection (·.jsonDialect)) hbindings
    (field .limit (·.buildError))

/-- **Accepted calls in any order.**  Calls of single families that are accepted build the statement
that all other calls build with the same calls of every family in the same order, and these are
accepted as well. -/
theorem applyAll_eq_of_callsOf {calls calls' : List Call}
    (hcalls : ∀ c ∈ calls, ∃ g, c.families = [g]) (hcalls' : ∀ c ∈ calls', ∃ g, c.families = [g])
    (hsame : ∀ f, callsOf f calls = callsOf f calls') (h : (s.applyAll calls).buildError = none) :
    s.applyAll calls' = s.applyAll calls := by
  have hown : ∀ f, (s.applyAll (callsOf f calls')).buildError = none := by
    intro f
    rw [← hsame f, ← buildError_only (f := f), ← only_applyAll hcalls rfl h, buildError_only, h]
  have h' := accepted_of_callsOf hcalls' (accepted_of_applyAll h) hown
  refine eq_of_only fun f => ?_
  rw [only_applyAll hcalls rfl h, only_applyAll hcalls' rfl h', hsame f]

/-! ### Pages -/

end Statement

/-- The calls of single families that a call stands for. -/
def Call.parts : Call → List Call
  | .forPage page perPage =>
      [.limit perPage,
        .offset (Page.rowsBefore (max (UInt64.ofNat page) 1) (UInt64.ofNat perPage)).toNat]
  | c => [c]

theorem Call.families_of_mem_parts {c d : Call} (h : d ∈ c.parts) (hc : c.families ≠ []) :
    ∃ g, d.families = [g] ∧ g ∈ c.families := by
  cases c with
  | forPage page perPage =>
      rw [parts, List.mem_cons, List.mem_singleton] at h
      obtain rfl | rfl := h
      · exact ⟨.limit, rfl, List.mem_cons_self⟩
      · exact ⟨.offset, rfl, List.mem_cons_of_mem _ List.mem_cons_self⟩
  | fromTable => exact absurd rfl hc
  | model => exact absurd rfl hc
  | dialect => exact absurd rfl hc
  | restore => exact absurd rfl hc
  | _ =>
      obtain rfl := List.mem_singleton.1 h
      exact ⟨_, rfl, List.mem_cons_self⟩

namespace Statement

variable {s : Statement} {calls calls' : List Call}

theorem applyAll_parts (s : Statement) (c : Call) : s.applyAll c.parts = s.apply c := by
  cases c <;> rfl

theorem applyAll_flatMap_parts (s : Statement) (calls : List Call) :
    s.applyAll (calls.flatMap Call.parts) = s.applyAll calls := by
  induction calls generalizing s with
  | nil => rfl
  | cons c calls ih => rw [List.flatMap_cons, applyAll_append, applyAll_parts, ih, applyAll]

/-- The parts of some calls that are of a family are parts of the calls of the family. -/
theorem callsOf_flatMap_parts (f : Family) (hcalls : ∀ c ∈ calls, c.families ≠ []) :
    callsOf f (calls.flatMap Call.parts) =
      (callsOf f calls).flatMap fun c => callsOf f c.parts := by
  unfold callsOf
  induction calls with
  | nil => rfl
  | cons c calls ih =>
      have hrest := ih fun d hd => hcalls d (List.mem_cons_of_mem c hd)
      rw [List.flatMap_cons, List.filter_append, hrest]
      by_cases hf : f ∈ c.families
      · rw [List.filter_cons_of_pos (by simp [hf]), List.flatMap_cons]
      · have hnone : (c.parts.filter fun d => decide (f ∈ d.families)) = [] := by
          refine List.filter_eq_nil_iff.2 fun d hd hfd => ?_
          obtain ⟨g, hg, hgc⟩ := Call.families_of_mem_parts hd (hcalls c List.mem_cons_self)
          rw [hg, decide_eq_true_iff, List.mem_singleton] at hfd
          exact hf (hfd ▸ hgc)
        rw [List.filter_cons_of_neg (by simp [hf]), hnone, List.nil_append]

/-- **The order of families does not matter.**  On a statement whose source is fixed, two sequences
of calls on its clauses are made, which have the same calls of every family in the same order.  If
one of them is accepted, both build the same statement. -/
theorem applyAll_eq_of_sameFamilies (hcalls : ∀ c ∈ calls, c.families ≠ [])
    (hcalls' : ∀ c ∈ calls', c.families ≠ []) (hsame : ∀ f, callsOf f calls = callsOf f calls')
    (h : (s.applyAll calls).buildError = none) : s.applyAll calls' = s.applyAll calls := by
  have hsingle : ∀ {cs : List Call}, (∀ c ∈ cs, c.families ≠ []) →
      ∀ d ∈ cs.flatMap Call.parts, ∃ g, d.families = [g] := by
    intro cs hcs d hd
    obtain ⟨c, hc, hdc⟩ := List.mem_flatMap.1 hd
    obtain ⟨g, hg, -⟩ := Call.families_of_mem_parts hdc (hcs c hc)
    exact ⟨g, hg⟩
  rw [← applyAll_flatMap_parts s calls] at h ⊢
  rw [← applyAll_flatMap_parts s calls']
  refine applyAll_eq_of_callsOf (hsingle hcalls) (hsingle hcalls') (fun f => ?_) h
  rw [callsOf_flatMap_parts f hcalls, callsOf_flatMap_parts f hcalls', hsame f]

theorem exists_compile_error (h : s.buildError ≠ none) : ∃ e, s.compile = .error e := by
  obtain ⟨e, he⟩ := Option.ne_none_iff_exists'.1 h
  exact ⟨e, compile_of_refused he⟩

/-- **Clauses may be called in any order.**  Whatever was called before, two sequences of calls on
the clauses with the same calls of every family in the same order either both fail to compile, or
both compile to the same text with the same values. -/
theorem compile_any_order (s : Statement) {calls calls' : List Call}
    (hcalls : ∀ c ∈ calls, c.families ≠ []) (hcalls' : ∀ c ∈ calls', c.families ≠ [])
    (hsame : ∀ f, callsOf f calls = callsOf f calls') :
    (∃ query, (s.applyAll calls).compile = .ok query ∧ (s.applyAll calls').compile = .ok query) ∨
      ∃ e e', (s.applyAll calls).compile = .error e ∧ (s.applyAll calls').compile = .error e' := by
  by_cases h : (s.applyAll calls).buildError = none
  · rw [applyAll_eq_of_sameFamilies hcalls hcalls' hsame h]
    cases hcompile : (s.applyAll calls).compile with
    | ok query => exact .inl ⟨query, rfl, rfl⟩
    | error e => exact .inr ⟨e, e, rfl, rfl⟩
  · have h' : (s.applyAll calls').buildError ≠ none := by
      intro h'
      rw [applyAll_eq_of_sameFamilies hcalls' hcalls (fun f => (hsame f).symm) h'] at h
      exact h h'
    obtain ⟨e, he⟩ := exists_compile_error h
    obtain ⟨e', he'⟩ := exists_compile_error h'
    exact .inr ⟨e, e', he, he'⟩

/-- A SELECT, clause by clause. -/
def sortedCalls : List Call :=
  [.select ["a"], .compare .and "b" "=" (.int 3), .nullCheck .or false "c",
    .orderByCase "d" [(.int 5, 1)] "x" "asc",
    .union [.fromTable "u", .compare .and "k" "=" (.int 2)] true, .limit 10, .offset 20]

/-- The same SELECT with its clauses mixed. -/
def mixedCalls : List Call :=
  [.offset 20, .union [.fromTable "u", .compare .and "k" "=" (.int 2)] true,
    .compare .and "b" "=" (.int 3), .orderByCase "d" [(.int 5, 1)] "x" "asc", .limit 10,
    .nullCheck .or false "c", .select ["a"]]

set_option maxRecDepth 20000 in
theorem compile_any_order_mixed :
    ∃ query, ((build {} [.fromTable "t"]).applyAll sortedCalls).compile = .ok query ∧
      ((build {} [.fromTable "t"]).applyAll mixedCalls).compile = .ok query ∧
      query.bindings = [.int 3, .int 5, .int 2] := by
  have hquery : ((build {} [.fromTable "t"]).applyAll sortedCalls).compile = .ok ⟨_, _⟩ := rfl
  have hsorted : ∀ c ∈ sortedCalls, c.families ≠ [] := by decide
  have hmixed : ∀ c ∈ mixedCalls, c.families ≠ [] := by decide
  have hsame : ∀ f, callsOf f sortedCalls = callsOf f mixedCalls := fun f => by cases f <;> rfl
  rcases compile_any_order (build {} [.fromTable "t"]) hsorted hmixed hsame with
    ⟨query, hok, hok'⟩ | ⟨e, -, herror, -⟩
  · refine ⟨query, hok, hok', ?_⟩
    rw [← Except.ok.inj (hquery.symm.trans hok)]
    rfl
  · exact nomatch hquery.symm.trans herror

end Statement
end EntityQuery
