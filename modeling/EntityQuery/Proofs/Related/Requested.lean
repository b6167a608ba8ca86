/-
# The relations that are asked for

Calls ask for relations by names, which are trimmed; a blank name asks for none,
and one that was asked for before asks for nothing new.  So a statement keeps the
names of its calls, trimmed and each once, in the order of first request
(`eager_build`), however they were spread over the calls.

A relation is constrained by the last call that put a constraint on it
(`constraintOn_build`).  All other calls leave both alone, which is where the
families of calls come in (`graft_apply_of_notMem`).
-/

import EntityQuery.Proofs.Order.Family
import EntityQuery.Statement.Execute
import Mathlib.Data.List.Induction

namespace EntityQuery

/-- The names by which a call asks for relations, as they are given. -/
def Call.relationNames : Call → List String
  | .withRelations names => names
  | .withConstraint name _ => [name]
  | _ => []

/-- The constraint that a call puts on a relation, if it does. -/
def Call.constraintOn? (name : String) : Call → Option (List Call)
  | .withConstraint given calls => if Text.trim given = name then some calls else none
  | _ => none

namespace Statement

variable {s : Statement} {calls : List Call} {name : String}

/-- The relations that calls ask for: trimmed, not blank, each once, in the order of first
request. -/
def askedRelations (calls : List Call) : List String :=
  (((calls.flatMap Call.relationNames).map Text.trim).filter fun name => !name.isEmpty).eraseDups

/-- The last constraint that calls put on a relation; none is put by no calls. -/
def lastConstraint (calls : List Call) (name : String) : List Call :=
  (calls.reverse.findSome? (Call.constraintOn? name)).getD []

/-! ### What is kept -/

/-- Adding names one by one keeps each once. -/
theorem foldl_addEager (names : List String) :
    names.foldl addEager [] =
      ((names.map Text.trim).filter fun name => !name.isEmpty).eraseDups := by
  induction names using List.reverseRecOn with
  | nil => rfl
  | append_singleton names name ih =>
      rw [List.foldl_append, ih, List.map_append, List.filter_append]
      generalize ((names.map Text.trim).filter fun name => !name.isEmpty) = kept
      rw [List.eraseDups_append, List.foldl_cons, List.foldl_nil, addEager, List.map_singleton]
      by_cases hblank : (Text.trim name).isEmpty = true
      · simp [hblank, List.removeAll]
      · by_cases hkept : Text.trim name ∈ kept
        · simp [hkept, hblank, List.removeAll]
        · simp [hkept, hblank, List.removeAll, List.eraseDups_cons]

theorem nodup_askedRelations (calls : List Call) : (askedRelations calls).Nodup := by
  have hadd : ∀ (names kept : List String), kept.Nodup → (names.foldl addEager kept).Nodup := by
    intro names
    induction names with
    | nil => exact fun _ h => h
    | cons name names ih =>
        intro kept h
        rw [List.foldl_cons]
        refine ih _ ?_
        rw [addEager]
        split
        · exact h
        · rename_i hnew
          rw [Bool.or_eq_true, not_or, List.contains_iff_mem] at hnew
          rw [List.nodup_append]
          refine ⟨h, List.pairwise_singleton _ _, fun old hold new hname heq => ?_⟩
          rw [List.mem_singleton.1 hname] at heq
          exact hnew.2 (heq ▸ hold)
  rw [askedRelations, ← foldl_addEager]
  exact hadd _ _ List.nodup_nil

/-- **What an accepted call keeps of relations.** -/
theorem eager_apply (name : String) {c : Call} (h : (s.apply c).buildError = none) :
    (s.apply c).eager = c.relationNames.foldl addEager s.eager ∧
      Keyed.find? name (s.apply c).constraints =
        (c.constraintOn? name).or (Keyed.find? name s.constraints) := by
  by_cases hc : Family.eager ∈ c.families
  · cases c with
    | withRelations names =>
        rw [apply] at h ⊢
        rw [(withRelations_of_accepted h).2]
        exact ⟨rfl, rfl⟩
    | withConstraint given calls =>
        rw [apply] at h ⊢
        rw [(withConstraint_of_accepted h).2, Call.relationNames, Call.constraintOn?]
        dsimp only
        refine ⟨rfl, ?_⟩
        split
        · rename_i heq
          rw [heq]
          exact Keyed.find?_put_self _ _ _
        · rename_i hne
          exact Keyed.find?_put_of_ne (Ne.symm hne) _ _
    | _ => exact absurd hc (by simp [Call.families])
  · have hother := graft_apply_of_notMem (t := new {}) hc (by decide) h
    have heager := congrArg Statement.eager hother
    have hconstraints := congrArg Statement.constraints hother
    have hkept : (s.apply c).eager = s.eager := heager
    have hkept' : (s.apply c).constraints = s.constraints := hconstraints
    rw [hkept, hkept']
    cases c with
    | withRelations => exact absurd (by simp [Call.families]) hc
    | withConstraint => exact absurd (by simp [Call.families]) hc
    | _ => exact ⟨rfl, rfl⟩

theorem eager_applyAll (name : String) (h : (s.applyAll calls).buildError = none) :
    (s.applyAll calls).eager = (calls.flatMap Call.relationNames).foldl addEager s.eager ∧
      Keyed.find? name (s.applyAll calls).constraints =
        (calls.reverse.findSome? (Call.constraintOn? name)).or
          (Keyed.find? name s.constraints) := by
  induction calls generalizing s with
  | nil => exact ⟨rfl, rfl⟩
  | cons c calls ih =>
      rw [applyAll] at h ⊢
      obtain ⟨heager, hconstraint⟩ := ih h
      obtain ⟨heager', hconstraint'⟩ := eager_apply name (accepted_of_applyAll h)
      rw [heager, hconstraint, heager', hconstraint', List.flatMap_cons, List.foldl_append,
        List.reverse_cons, List.findSome?_append, List.findSome?_singleton, Option.or_assoc]
      exact ⟨rfl, rfl⟩

/-- **The relations of a statement are those its calls asked for.** -/
theorem eager_build {context : Context} (h : (build context calls).buildError = none) :
    (build context calls).eager = askedRelations calls := by
  have heager := (eager_applyAll "" h).1
  rw [build, heager]
  exact foldl_addEager _

/-- **The last constraint on a relation is the one that holds.** -/
theorem constraintOn_build {context : Context} (h : (build context calls).buildError = none) :
    (build context calls).constraintOn name = lastConstraint calls name := by
  have hconstraint := (eager_applyAll name h).2
  rw [constraintOn, build, hconstraint, lastConstraint]
  have hnew : Keyed.find? name (new context).constraints = none := rfl
  rw [hnew, Option.or_none]

/-- Calls that ask for no relations leave those of a statement. -/
theorem eager_of_noRelations (hcalls : ∀ c ∈ calls, Family.eager ∉ c.families)
    (h : (s.applyAll calls).buildError = none) : (s.applyAll calls).eager = s.eager := by
  have hnames : calls.flatMap Call.relationNames = [] := by
    refine List.flatMap_eq_nil_iff.2 fun c hc => ?_
    cases c with
    | withRelations => exact absurd List.mem_cons_self (hcalls _ hc)
    | withConstraint => exact absurd List.mem_cons_self (hcalls _ hc)
    | _ => rfl
  rw [(eager_applyAll "" h).1, hnames, List.foldl_nil]

end Statement
end EntityQuery
