/-
# Statements within statements

A sub-statement is handed over for a condition, for a join or for a union
(`Call.handed?`), by a call of the statement, by a call in one of its groups or by a
call of a sub-statement (`Call.HandsOver`).  It is compiled when it is handed over,
and its text is put into the clause.

A condition takes SELECTs only.  A join and a union take whatever compiles.  So in a
statement that compiles, every sub-statement is a SELECT exactly if those handed over
for joins and unions are (`only_queries_embedded_iff`).  And those that the text
renders (`Stands`) are in it with their whole text: clauses are kept once they are
there (`subset_joins_apply`, `subset_unions_apply`, `Call.drops_of_ne`), and each is
written out in the text of its kind.
-/

import EntityQuery.Proofs.Built.Conditions
import EntityQuery.Proofs.Order.Family

namespace EntityQuery

/-! ### Texts within texts -/

namespace Text

/-- The first text stands in the second one. -/
def Within (part whole : String) : Prop :=
  part.toList <:+: whole.toList

variable {part whole a b : String}

theorem Within.refl (text : String) : Within text text :=
  List.infix_rfl

theorem Within.trans {middle : String} (h₁ : Within part middle) (h₂ : Within middle whole) :
    Within part whole :=
  List.IsInfix.trans h₁ h₂

theorem Within.append_right (h : Within part a) (b : String) : Within part (a ++ b) := by
  rw [Within, String.toList_append]
  exact List.IsInfix.trans h (List.prefix_append ..).isInfix

theorem Within.append_left (a : String) (h : Within part b) : Within part (a ++ b) := by
  rw [Within, String.toList_append]
  exact List.IsInfix.trans h (List.suffix_append ..).isInfix

/-- A text stands in what is put around it. -/
theorem within_between (before part after : String) : Within part (before ++ part ++ after) :=
  ((Within.refl part).append_left before).append_right after

theorem within_eachAfter (separator : String) {items : List String} {item : String}
    (h : item ∈ items) : Within item (eachAfter separator items) := by
  induction items with
  | nil => exact nomatch h
  | cons first rest ih =>
      rw [eachAfter]
      rcases List.mem_cons.1 h with rfl | h
      · exact within_between _ _ _
      · exact (ih h).append_left _

theorem within_joinWith (separator : String) {items : List String} {item : String}
    (h : item ∈ items) : Within item (joinWith separator items) := by
  cases items with
  | nil => exact nomatch h
  | cons first rest =>
      rw [joinWith]
      rcases List.mem_cons.1 h with rfl | h
      · exact (Within.refl _).append_right _
      · exact (within_eachAfter separator h).append_left _

end Text

open Text (Within)

namespace Condition

theorem within_sqlTail (q : Quoting) {d : Condition} {conditions : List Condition}
    (h : d ∈ conditions) : Within (d.sql q) (sqlTail q conditions) := by
  induction conditions with
  | nil => exact nomatch h
  | cons c rest ih =>
      rw [sqlTail]
      rcases List.mem_cons.1 h with rfl | h
      · exact ((Within.refl _).append_left _).append_right _
      · exact (ih h).append_left _

/-- Every condition stands in the text of its list. -/
theorem within_sqlList (q : Quoting) {d : Condition} {conditions : List Condition}
    (h : d ∈ conditions) : Within (d.sql q) (sqlList q conditions) := by
  cases conditions with
  | nil => exact nomatch h
  | cons c rest =>
      rw [sqlList]
      rcases List.mem_cons.1 h with rfl | h
      · exact (Within.refl _).append_right _
      · exact (within_sqlTail q h).append_left _

end Condition

/-! ### Sub-statements that are handed over -/

/-- What a sub-statement is handed over for. -/
inductive Use where
  | condition
  | join
  | union
  deriving DecidableEq, Repr

namespace Call

/-- The sub-statement that a call hands over, and what for. -/
def handed? : Call → Option (Use × List Call)
  | .compareSub _ _ _ sub => some (.condition, sub)
  | .joinSub _ sub _ _ _ _ => some (.join, sub)
  | .union sub _ => some (.union, sub)
  | _ => none

/-- The calls that build a group of conditions. -/
def grouped? : Call → Option (List Call)
  | .group _ calls => some calls
  | _ => none

/-- Calls hand over a sub-statement: one of them does, or one of the calls in their groups and
sub-statements. -/
inductive HandsOver : List Call → Use → List Call → Prop where
  | own {calls c use sub} (hc : c ∈ calls) (hsub : c.handed? = some (use, sub)) :
    HandsOver calls use sub
  | group {calls c inner use sub} (hc : c ∈ calls) (hgroup : c.grouped? = some inner)
    (h : HandsOver inner use sub) : HandsOver calls use sub
  | nested {calls c outer inner use sub} (hc : c ∈ calls) (hsub : c.handed? = some (outer, inner))
    (h : HandsOver inner use sub) : HandsOver calls use sub

/-- A sub-statement is in a condition that calls add, or in one of a group that they add. -/
inductive InConditions : List Call → List Call → Prop where
  | own {calls c sub} (hc : c ∈ calls) (hsub : c.handed? = some (.condition, sub)) :
    InConditions calls sub
  | group {calls c inner sub} (hc : c ∈ calls) (hgroup : c.grouped? = some inner)
    (h : InConditions inner sub) : InConditions calls sub

theorem InConditions.handsOver {calls sub : List Call} (h : InConditions calls sub) :
    HandsOver calls .condition sub := by
  induction h with
  | own hc hsub => exact .own hc hsub
  | group hc hgroup _ ih => exact .group hc hgroup ih

theorem HandsOver.trans {calls mid sub : List Call} {outer use : Use}
    (h₁ : HandsOver calls outer mid) (h₂ : HandsOver mid use sub) : HandsOver calls use sub := by
  induction h₁ with
  | own hc hsub => exact .nested hc hsub h₂
  | group hc hgroup _ ih => exact .group hc hgroup (ih h₂)
  | nested hc hsub _ ih => exact .nested hc hsub (ih h₂)

/-- Only tests for null are ever dropped. -/
theorem drops_of_ne {q : Quoting} {mark : String} {d : Condition} (c : Call)
    (hd : ∀ name notNull connector, d.isNullCheck q name notNull connector = false) :
    c.drops q mark d = false := by
  cases c <;> simp [drops, hd]

end Call

/-- The words that the text of a statement of a kind begins with. -/
def Kind.verb : Kind → String
  | .select => "SELECT "
  | .insert => "INSERT INTO "
  | .insertIgnore => "INSERT OR IGNORE INTO "
  | .update => "UPDATE "
  | .delete => "DELETE FROM "
  | .upsert => "INSERT INTO "

namespace Statement

open Call (HandsOver InConditions)

/-- A sub-statement stands in the text of a statement: it is in its conditions, and those are
rendered; or the statement is a SELECT, which renders whatever its calls hand over; or it stands in
the text of one that does. -/
inductive Stands (context : Context) : List Call → List Call → Prop where
  | condition {calls sub} (hkind : (build context calls).kind = .select ∨
      (build context calls).kind = .update ∨ (build context calls).kind = .delete)
    (h : InConditions calls sub) : Stands context calls sub
  | clause {calls c use sub} (hkind : (build context calls).kind = .select) (hc : c ∈ calls)
    (hsub : c.handed? = some (use, sub)) : Stands context calls sub
  | nested {calls mid sub} (h₁ : Stands context calls mid) (h₂ : Stands context mid sub) :
    Stands context calls sub

variable {s : Statement} {c : Call} {calls sub : List Call} {context : Context} {use : Use}

/-- Every call of an accepted construction was made on a statement with its context, and
accepted. -/
theorem exists_step_of_mem (h : (s.applyAll calls).buildError = none) (hc : c ∈ calls) :
    ∃ (r : Statement) (after : List Call), r.context = s.context ∧
      (r.apply c).buildError = none ∧ s.applyAll calls = (r.apply c).applyAll after := by
  obtain ⟨before, after, rfl⟩ := List.append_of_mem hc
  rw [applyAll_append, applyAll] at h ⊢
  have hstep := accepted_of_applyAll h
  exact ⟨_, after, context_applyAll (accepted_of_apply hstep), hstep, rfl⟩

/-- A sub-statement that is taken compiles, and for a condition it is a SELECT. -/
theorem exists_compile_of_handed (hsub : c.handed? = some (use, sub))
    (h : (s.apply c).buildError = none) :
    ∃ inner, (build s.context sub).compile = .ok inner ∧
      (use = .condition → (build s.context sub).kind = .select) := by
  cases c with
  | compareSub =>
      obtain ⟨rfl, rfl⟩ := Prod.mk.inj (Option.some.inj hsub)
      rw [apply] at h
      obtain ⟨-, -, op, inner, -, -, hkind, hinner, -⟩ := compareSub_of_accepted h
      exact ⟨inner, hinner, fun _ => hkind⟩
  | joinSub =>
      obtain ⟨rfl, rfl⟩ := Prod.mk.inj (Option.some.inj hsub)
      rw [apply] at h
      obtain ⟨-, inner, hinner, -⟩ := joinSub_of_accepted h
      exact ⟨inner, hinner, nofun⟩
  | union =>
      obtain ⟨rfl, rfl⟩ := Prod.mk.inj (Option.some.inj hsub)
      rw [apply] at h
      obtain ⟨-, inner, hinner, -⟩ := union_of_accepted h
      exact ⟨inner, hinner, nofun⟩
  | _ => exact nomatch hsub

/-- The calls of a group that is taken are accepted. -/
theorem accepted_of_grouped {inner : List Call} (hgroup : c.grouped? = some inner)
    (h : (s.apply c).buildError = none) : (s.scope.applyAll inner).buildError = none := by
  cases c with
  | group =>
      obtain rfl := Option.some.inj hgroup
      rw [apply] at h
      exact (addGroup_of_accepted h).2.1
  | _ => exact nomatch hgroup

/-- **In an accepted construction every sub-statement compiles, at any depth**, and those for
conditions are SELECTs. -/
theorem exists_compile_of_handsOver (hover : HandsOver calls use sub)
    (hs : s.context = context) (h : (s.applyAll calls).buildError = none) :
    ∃ inner, (build context sub).compile = .ok inner ∧
      (use = .condition → (build context sub).kind = .select) := by
  induction hover generalizing s with
  | own hc hsub =>
      obtain ⟨r, after, hr, hstep, -⟩ := exists_step_of_mem h hc
      rw [← hs, ← hr]
      exact exists_compile_of_handed hsub hstep
  | group hc hgroup _ ih =>
      obtain ⟨r, after, hr, hstep, -⟩ := exists_step_of_mem h hc
      exact ih (s := r.scope) (hr.trans hs) (accepted_of_grouped hgroup hstep)
  | nested hc hsub _ ih =>
      obtain ⟨r, after, hr, hstep, -⟩ := exists_step_of_mem h hc
      obtain ⟨inner, hinner, -⟩ := exists_compile_of_handed hsub hstep
      exact ih (s := new r.context) (hr.trans hs) (compile_of_ok hinner).1

/-! ### Clauses are kept -/

/-- A call keeps the joins that there are. -/
theorem subset_joins_apply (h : (s.apply c).buildError = none) :
    s.joins ⊆ (s.apply c).joins := by
  by_cases hc : .joins ∈ c.families
  · cases c with
    | join | joinRaw =>
        rw [apply]
        exact List.subset_append_left _ _
    | joinSub =>
        rw [apply] at h ⊢
        obtain ⟨-, inner, -, heq⟩ := joinSub_of_accepted h
        rw [heq]
        exact List.subset_append_left _ _
    | _ => exact absurd hc (by simp [Call.families])
  · have hsame := graft_apply_of_notMem (t := s) hc (by decide) h
    have hjoins := congrArg (fun t : Statement => t.joins) hsame
    exact fun join hjoin => hjoins.symm ▸ hjoin

/-- A call keeps the unions that there are. -/
theorem subset_unions_apply (h : (s.apply c).buildError = none) :
    s.unions ⊆ (s.apply c).unions := by
  by_cases hc : .unions ∈ c.families
  · cases c with
    | unionRaw =>
        rw [apply]
        exact List.subset_append_left _ _
    | union =>
        rw [apply] at h ⊢
        obtain ⟨-, inner, -, heq⟩ := union_of_accepted h
        rw [heq]
        exact List.subset_append_left _ _
    | _ => exact absurd hc (by simp [Call.families])
  · have hsame := graft_apply_of_notMem (t := s) hc (by decide) h
    have hunions := congrArg (fun t : Statement => t.unions) hsame
    exact fun union hunion => hunions.symm ▸ hunion

/-- **No call takes a join or a union away.** -/
theorem subset_applyAll (h : (s.applyAll calls).buildError = none) :
    s.joins ⊆ (s.applyAll calls).joins ∧ s.unions ⊆ (s.applyAll calls).unions := by
  induction calls generalizing s with
  | nil => exact ⟨List.Subset.refl _, List.Subset.refl _⟩
  | cons c calls ih =>
      rw [applyAll] at h ⊢
      obtain ⟨hjoins, hunions⟩ := ih h
      have hstep := accepted_of_applyAll h
      exact ⟨List.Subset.trans (subset_joins_apply hstep) hjoins,
        List.Subset.trans (subset_unions_apply hstep) hunions⟩

/-- A condition that is no test for null stays once it was added. -/
theorem mem_conditions_of_added {d : Condition} {values : List Value}
    (hd : ∀ q name notNull connector, d.isNullCheck q name notNull connector = false)
    (h : ((s.addCondition d values).applyAll calls).buildError = none) :
    d ∈ ((s.addCondition d values).applyAll calls).conditions :=
  mem_conditions_applyAll h (List.mem_append_right _ List.mem_cons_self) fun c _ =>
    c.drops_of_ne (hd _)

/-- **A sub-statement in a condition is in one of the conditions of the statement.** -/
theorem exists_condition_of_inConditions (hin : InConditions calls sub) (hs : s.context = context)
    (h : (s.applyAll calls).buildError = none) :
    ∃ inner, (build context sub).compile = .ok inner ∧
      ∃ d ∈ (s.applyAll calls).conditions, ∀ q, Within inner.sql (d.sql q) := by
  -- The condition is there after the call that adds it, and nothing drops it.
  induction hin generalizing s with
  | @own calls c sub hc hsub =>
      obtain ⟨r, after, hr, hstep, heq⟩ := exists_step_of_mem h hc
      rw [heq] at h ⊢
      cases c with
      | compareSub connector column operator sub =>
          obtain ⟨-, rfl⟩ := Prod.mk.inj (Option.some.inj hsub)
          rw [apply] at h ⊢
          obtain ⟨-, -, op, inner, -, -, -, hinner, hadd⟩ :=
            compareSub_of_accepted (accepted_of_applyAll h)
          rw [hadd] at h ⊢
          have hcontext : r.context = context := hr.trans hs
          refine ⟨inner, hcontext ▸ hinner, _, mem_conditions_of_added (fun _ _ _ _ => rfl) h, ?_⟩
          intro q
          rw [Condition.sql]
          exact ((Within.refl _).append_left _).append_right _
      | _ => cases hsub
  | @group calls c inner sub hc hgroup _ ih =>
      obtain ⟨r, after, hr, hstep, heq⟩ := exists_step_of_mem h hc
      rw [heq] at h ⊢
      cases c with
      | group connector inner =>
          obtain rfl := Option.some.inj hgroup
          rw [apply] at h ⊢
          obtain ⟨-, haccepted, -, hadd⟩ := addGroup_of_accepted (accepted_of_applyAll h)
          obtain ⟨query, hquery, d, hd, hwithin⟩ := ih (s := r.scope) (hr.trans hs) haccepted
          rw [hadd, if_neg fun hempty => List.ne_nil_of_mem hd (List.isEmpty_iff.1 hempty)] at h ⊢
          refine ⟨query, hquery, _, mem_conditions_of_added (fun _ _ _ _ => rfl) h, ?_⟩
          intro q
          rw [Condition.sql]
          exact (((hwithin q).trans (Condition.within_sqlList q hd)).append_left _).append_right _
      | _ => cases hgroup

/-! ### Clauses stand in the text -/

/-- A condition stands in one of the predicates of its list. -/
theorem exists_predicate_of_mem {d : Condition} {conditions : List Condition}
    (hd : d ∈ conditions) :
    ∃ part ∈ s.predicates conditions, Within (d.sql s.quoting) part := by
  have hlist := Condition.within_sqlList s.quoting hd
  unfold predicates
  simp only
  rw [if_neg fun hempty => List.ne_nil_of_mem hd (List.isEmpty_iff.1 hempty)]
  split
  · exact ⟨_, List.mem_cons_self, (hlist.append_left _).append_right _⟩
  · exact ⟨_, List.mem_cons_self, hlist⟩

theorem within_where {d : Condition} {conditions : List Condition} (hd : d ∈ conditions) :
    Within (d.sql s.quoting) (clause " WHERE " (s.whereText? conditions)) := by
  obtain ⟨part, hpart, hwithin⟩ := exists_predicate_of_mem (s := s) hd
  unfold whereText?
  simp only
  rw [if_neg fun hempty => List.ne_nil_of_mem hpart (List.isEmpty_iff.1 hempty), clause]
  exact (hwithin.trans (Text.within_joinWith _ hpart)).append_left _

/-- The conditions of a SELECT have those of the statement, perhaps in a group. -/
theorem exists_selectCondition_of_mem {d : Condition} (hd : d ∈ s.conditions) :
    ∃ d' ∈ s.selectConditions, Within (d.sql s.quoting) (d'.sql s.quoting) := by
  unfold selectConditions
  split
  · exact ⟨d, hd, .refl _⟩
  · split
    · exact ⟨d, hd, .refl _⟩
    · split
      · refine ⟨_, List.mem_cons_self, ?_⟩
        rw [Condition.sql]
        exact ((Condition.within_sqlList _ hd).append_left _).append_right _
      · exact ⟨d, List.mem_append_left _ hd, .refl _⟩

theorem within_sourceSql_of_condition {d : Condition} (hd : d ∈ s.conditions) :
    Within (d.sql s.quoting) s.sourceSql := by
  obtain ⟨d', hd', hwithin⟩ := exists_selectCondition_of_mem hd
  exact (hwithin.trans (within_where hd')).append_left _

theorem within_sourceSql_of_join {join : String} (h : join ∈ s.joins) :
    Within join s.sourceSql :=
  ((Text.within_eachAfter " " h).append_left _).append_right _

theorem within_selectSql_of_source : Within s.sourceSql s.selectSql := by
  have hhead := (Within.refl s.sourceSql).append_left
    ("SELECT " ++ (if s.isDistinct then "DISTINCT " else "") ++ s.selectList ++ " FROM ")
  exact (((((hhead.append_right _).append_right _).append_right _).append_right _).append_right
    _).append_right _

theorem within_selectSql_of_union {union : String} (h : union ∈ s.unions) :
    Within union s.selectSql :=
  (Text.within_eachAfter " " h).append_left _

/-- A condition stands in the text of a statement that renders its conditions. -/
theorem within_text_of_condition {d : Condition} {sql : String}
    (hkind : s.kind = .select ∨ s.kind = .update ∨ s.kind = .delete) (hd : d ∈ s.conditions)
    (h : s.text = .ok sql) : Within (d.sql s.quoting) sql := by
  rcases hkind with hkind | hfiltered
  · obtain rfl := Except.ok.inj ((text_of_select hkind).symm.trans h)
    exact (within_sourceSql_of_condition hd).trans within_selectSql_of_source
  · obtain ⟨head, rfl⟩ := exists_head_of_filtered hfiltered h
    exact (within_where hd).append_left _

/-- A text begins with the words of its kind. -/
theorem exists_eq_verb {sql : String} (h : s.text = .ok sql) :
    ∃ rest, sql = s.kind.verb ++ rest := by
  unfold text at h
  cases hkind : s.kind with
  | select =>
      rw [hkind] at h
      obtain rfl := Except.ok.inj h
      unfold selectSql
      exact ⟨_, by simp only [String.append_assoc]; rfl⟩
  | delete =>
      rw [hkind] at h
      simp only [deleteSql] at h
      split at h
      · cases h
      · obtain rfl := Except.ok.inj h
        exact ⟨_, by simp only [String.append_assoc]; rfl⟩
  | insert | insertIgnore =>
      rw [hkind] at h
      simp only [insertSql, mutationList, hkind] at h
      split at h
      · cases h
      · obtain rfl := Except.ok.inj h
        exact ⟨_, rfl⟩
  | update =>
      rw [hkind] at h
      simp only [updateSql, mutationList] at h
      split at h
      · cases h
      · obtain rfl := Except.ok.inj h
        exact ⟨_, by simp only [String.append_assoc]; rfl⟩
  | upsert =>
      rw [hkind] at h
      simp only [upsertSql, mutationList] at h
      split at h
      · cases h
      · split at h
        · cases h
        · obtain rfl := Except.ok.inj h
          exact ⟨_, by simp only [String.append_assoc]; rfl⟩

/-! ### Sub-statements that stand in the text -/

theorem Stands.exists_handsOver (h : Stands context calls sub) :
    ∃ use, HandsOver calls use sub := by
  induction h with
  | condition _ hin => exact ⟨_, hin.handsOver⟩
  | clause _ hc hsub => exact ⟨_, .own hc hsub⟩
  | nested _ _ ih₁ ih₂ =>
      obtain ⟨outer, h₁⟩ := ih₁
      obtain ⟨use, h₂⟩ := ih₂
      exact ⟨use, h₁.trans h₂⟩

theorem exists_within_of_inConditions {query : Compiled}
    (hkind : (build context calls).kind = .select ∨ (build context calls).kind = .update ∨
      (build context calls).kind = .delete)
    (hin : InConditions calls sub) (h : (build context calls).compile = .ok query) :
    ∃ inner, (build context sub).compile = .ok inner ∧ Within inner.sql query.sql := by
  obtain ⟨haccepted, -, htext, -, -⟩ := compile_of_ok h
  obtain ⟨inner, hinner, d, hd, hwithin⟩ :=
    exists_condition_of_inConditions hin (s := new context) rfl haccepted
  exact ⟨inner, hinner, (hwithin _).trans (within_text_of_condition hkind hd htext)⟩

/-- What a call of a SELECT hands over stands in its text. -/
theorem exists_within_of_handed {query : Compiled} (hkind : (build context calls).kind = .select)
    (hc : c ∈ calls) (hsub : c.handed? = some (use, sub))
    (h : (build context calls).compile = .ok query) :
    ∃ inner, (build context sub).compile = .ok inner ∧ Within inner.sql query.sql := by
  have haccepted := (compile_of_ok h).1
  rw [(compile_of_select hkind h).1]
  obtain ⟨r, after, hr, hstep, heq⟩ := exists_step_of_mem (s := new context) haccepted hc
  have hcontext : r.context = context := hr
  have hbuild : build context calls = (r.apply c).applyAll after := heq
  rw [hbuild] at haccepted
  have hkept := subset_applyAll haccepted
  rw [← hbuild] at hkept
  cases c with
  | compareSub =>
      obtain ⟨rfl, rfl⟩ := Prod.mk.inj (Option.some.inj hsub)
      rw [← (compile_of_select hkind h).1]
      exact exists_within_of_inConditions (.inl hkind) (.own hc hsub) h
  | joinSub =>
      obtain ⟨rfl, rfl⟩ := Prod.mk.inj (Option.some.inj hsub)
      rw [apply] at hstep hkept
      obtain ⟨-, inner, hinner, hadd⟩ := joinSub_of_accepted hstep
      rw [hadd] at hkept
      have hjoin := within_sourceSql_of_join (hkept.1 (List.mem_append_right _ List.mem_cons_self))
      refine ⟨inner, hcontext ▸ hinner, Within.trans ?_ (hjoin.trans within_selectSql_of_source)⟩
      exact ((((Within.refl _).append_left _).append_right _).append_right _).append_right _
  | union =>
      obtain ⟨rfl, rfl⟩ := Prod.mk.inj (Option.some.inj hsub)
      rw [apply] at hstep hkept
      obtain ⟨-, inner, hinner, hadd⟩ := union_of_accepted hstep
      rw [hadd] at hkept
      have hunion :=
        within_selectSql_of_union (hkept.2 (List.mem_append_right _ List.mem_cons_self))
      exact ⟨inner, hcontext ▸ hinner, ((Within.refl _).append_left _).trans hunion⟩
  | _ => exact nomatch hsub

/-- **A sub-statement that stands in the text is there with its whole text.** -/
theorem Stands.exists_within {query : Compiled} (hstands : Stands context calls sub)
    (h : (build context calls).compile = .ok query) :
    ∃ inner, (build context sub).compile = .ok inner ∧ Within inner.sql query.sql := by
  induction hstands generalizing query with
  | condition hkind hin => exact exists_within_of_inConditions hkind hin h
  | clause hkind hc hsub => exact exists_within_of_handed hkind hc hsub h
  | nested _ _ ih₁ ih₂ =>
      obtain ⟨middle, hmiddle, hwithin₁⟩ := ih₁ h
      obtain ⟨inner, hinner, hwithin₂⟩ := ih₂ hmiddle
      exact ⟨inner, hinner, hwithin₂.trans hwithin₁⟩

/-- **When all statements within a statement that compiles are queries.**  Every sub-statement that
its calls hand over, at any depth, compiles as well, and is a SELECT if it is for a condition.
Those that stand in the text are there with their whole texts, which begin with the words of their
kinds.  So all that are handed over are SELECTs if and only if those for joins and unions are. -/
theorem only_queries_embedded_iff {query : Compiled}
    (h : (build context calls).compile = .ok query) :
    (∀ use sub, HandsOver calls use sub →
      (∃ inner, (build context sub).compile = .ok inner) ∧
      (use = .condition → (build context sub).kind = .select)) ∧
    (∀ sub, Stands context calls sub →
      (∃ use, HandsOver calls use sub) ∧
      ∃ inner, (build context sub).compile = .ok inner ∧
        (∃ rest, inner.sql = (build context sub).kind.verb ++ rest) ∧
        Within inner.sql query.sql) ∧
    ((∀ use sub, HandsOver calls use sub → (build context sub).kind = .select) ↔
      ∀ use sub, HandsOver calls use sub → use ≠ .condition →
        (build context sub).kind = .select) := by
  have haccepted : ((new context).applyAll calls).buildError = none := (compile_of_ok h).1
  have hcompile := fun use sub (hover : HandsOver calls use sub) =>
    exists_compile_of_handsOver hover (rfl : (new context).context = context) haccepted
  refine ⟨fun use sub hover => ?_, fun sub hstands => ⟨hstands.exists_handsOver, ?_⟩,
    fun hall use sub hover _ => hall use sub hover, fun hclauses use sub hover => ?_⟩
  · obtain ⟨inner, hinner, hkind⟩ := hcompile use sub hover
    exact ⟨⟨inner, hinner⟩, hkind⟩
  · obtain ⟨inner, hinner, hwithin⟩ := hstands.exists_within h
    exact ⟨inner, hinner, exists_eq_verb (compile_of_ok hinner).2.2.1, hwithin⟩
  · obtain ⟨inner, -, hkind⟩ := hcompile use sub hover
    by_cases huse : use = .condition
    · exact hkind huse
    · exact hclauses use sub hover huse

/-- A SELECT for a condition. -/
def paidOrders : List Call :=
  [.fromTable "paid", .select ["id"]]

/-- Calls with a sub-statement in the one that they join. -/
def nestedCalls : List Call :=
  [.fromTable "users",
    .joinSub .left [.fromTable "orders", .compareSub .and "id" "IN" paidOrders] "o" "id" "=" "user"]

/-- What these calls compile to. -/
def nestedQuery : Compiled :=
  ⟨"SELECT * FROM users LEFT JOIN (SELECT * FROM orders WHERE `id` IN (SELECT `id` FROM paid)) " ++
    "AS `o` ON `id` = `user`", []⟩

set_option maxRecDepth 20000 in
theorem only_queries_embedded_iff_nested :
    (build {} nestedCalls).compile = .ok nestedQuery ∧
      (build {} paidOrders).kind = .select ∧
      Within "SELECT `id` FROM paid" nestedQuery.sql := by
  have hcompile : (build {} nestedCalls).compile = .ok nestedQuery := rfl
  obtain ⟨hkinds, htexts, -⟩ := only_queries_embedded_iff hcompile
  have hlast : ∀ a b : Call, b ∈ [a, b] := fun _ _ => List.mem_cons_of_mem _ List.mem_cons_self
  have hover : HandsOver nestedCalls .condition paidOrders :=
    .nested (hlast _ _) rfl (.own (hlast _ _) rfl)
  have hstands : Stands {} nestedCalls paidOrders :=
    .nested (.clause rfl (hlast _ _) rfl) (.clause rfl (hlast _ _) rfl)
  have hpaid : (build {} paidOrders).compile = .ok ⟨"SELECT `id` FROM paid", []⟩ := rfl
  obtain ⟨-, inner, hinner, -, hwithin⟩ := htexts _ hstands
  obtain rfl := Except.ok.inj (hpaid.symm.trans hinner)
  exact ⟨hcompile, (hkinds _ _ hover).2 rfl, hwithin⟩

/-- A DELETE that is handed over for a union stands in a SELECT; for a condition it is refused. -/
theorem union_embeds_delete :
    let sub : List Call := [.fromTable "orders", .delete, .compare .and "id" "=" (.int 1)]
    HandsOver [.fromTable "users", .union sub false] .union sub ∧
      (build {} sub).kind = .delete ∧
      (build {} [.fromTable "users", .union sub false]).compile =
        .ok ⟨"SELECT * FROM users UNION DELETE FROM orders WHERE `id` = ?", [.int 1]⟩ ∧
      (build {} [.fromTable "users", .compareSub .and "id" "IN" sub]).compile =
        .error (.argument .subqueryKind) :=
  ⟨.own (List.mem_cons_of_mem _ List.mem_cons_self) rfl, rfl, rfl, rfl⟩

end Statement
end EntityQuery
