/-
# The values of a construction stand at its placeholders

`BoundClauses.Sound` is the invariant that ties the buckets of a statement to the
clauses with their values in place: the buckets hold the values of the clauses,
clause by clause, the clauses are tight, and the other texts of the statement are
quiet.  Every quiet call that is accepted keeps it (`Sound.apply`), also where it
replaces values or drops conditions, and so does a construction with its groups
and sub-statements (`Sound.applyAll`).
-/

import EntityQuery.Proofs.Bound.Agreement
import EntityQuery.Proofs.Quiet.Call

namespace EntityQuery
namespace BoundClauses

open Placeholder

/-- The buckets hold the values of the clauses, and a scanner finds them where they stand. -/
structure Sound (s : Statement) (k : BoundClauses) : Prop where
  bindings : s.bindings = k.bindings s.quoting
  tight : k.Tight s.quoting
  quiet : s.plainTexts.IsQuiet s.quoting.quote

variable {s : Statement} {k : BoundClauses}

/-- An empty statement is sound. -/
theorem Sound.new {context : Context}
    (hmark : Quiet context.config.quoting.quote context.config.softDeleteColumn) :
    Sound (.new context) {} where
  bindings := rfl
  tight :=
    { expressions := fun _ h => absurd h List.not_mem_nil
      joins := fun _ h => absurd h List.not_mem_nil
      conditions := fun _ h => absurd h List.not_mem_nil
      jsonConditions := fun _ h => absurd h List.not_mem_nil
      having := fun _ h => absurd h (Option.not_mem_none _)
      orders := fun _ h => absurd h List.not_mem_nil
      unions := fun _ h => absurd h List.not_mem_nil
      mutation := fun _ h => absurd h List.not_mem_nil }
  quiet :=
    { table := ⟨rfl, rfl⟩
      columns := fun _ h => absurd h List.not_mem_nil
      groups := fun _ h => absurd h List.not_mem_nil
      upsertUnique := fun _ h => absurd h List.not_mem_nil
      upsertUpdate := fun _ h => absurd h (Option.not_mem_none _)
      softDeleteColumn := hmark }

/-- The statement that a group starts from is sound. -/
theorem Sound.scope (h : Sound s k) : Sound s.scope {} := by
  have hnew := Sound.new h.quiet.softDeleteColumn
  exact ⟨rfl, hnew.tight, { hnew.quiet with table := h.quiet.table }⟩

theorem extend_nil (b : Bindings) (bucket : Bucket) : b.extend bucket [] = b := by
  cases bucket <;> simp [Bindings.extend, Bindings.set, Bindings.get]

/-! ### One clause at a time -/

theorem forall_mem_append_singleton {α : Type} {p : α → Prop} {xs : List α} {x : α}
    (hxs : ∀ y ∈ xs, p y) (hx : p x) : ∀ y ∈ xs ++ [x], p y := by
  intro y hy
  rcases List.mem_append.1 hy with hy | hy
  · exact hxs y hy
  · exact List.mem_singleton.1 hy ▸ hx

theorem Sound.conditions (h : Sound s k) {cs : List BoundCondition} (conditions : List Condition)
    (ht : ∀ c ∈ cs, (c.text s.quoting).Tight s.quoting.quote)
    (hv : cs.flatMap (BoundCondition.values s.quoting) =
      k.conditions.flatMap (BoundCondition.values s.quoting)) :
    Sound { s with conditions := conditions } { k with conditions := cs } := by
  refine ⟨?_, { h.tight with conditions := ht }, h.quiet⟩
  have hbindings := h.bindings
  rw [BoundClauses.bindings, ← hv] at hbindings
  exact hbindings

theorem Sound.addCondition (h : Sound s k) {c : BoundCondition} (condition : Condition)
    {values : List Value} (ht : (c.text s.quoting).Tight s.quoting.quote)
    (hv : c.values s.quoting = values) :
    Sound (s.addCondition condition values) (k.addCondition c) := by
  have hk : (k.addCondition c).bindings s.quoting =
      (k.bindings s.quoting).extend .whereTree values := by
    simp [BoundClauses.bindings, BoundClauses.addCondition, Bindings.extend, Bindings.set,
      Bindings.get, hv]
  rw [← h.bindings] at hk
  exact ⟨hk.symm, { h.tight with
    conditions := forall_mem_append_singleton h.tight.conditions ht }, h.quiet⟩

theorem Sound.addJoin (h : Sound s k) {t : BoundText} (joins : List String)
    {values : List Value} (ht : t.Tight s.quoting.quote) (hv : t.values = values) :
    Sound { s with joins := joins, bindings := s.bindings.extend .join values } (k.addJoin t) := by
  have hk : (k.addJoin t).bindings s.quoting = (k.bindings s.quoting).extend .join values := by
    simp [BoundClauses.bindings, BoundClauses.addJoin, Bindings.extend, Bindings.set, Bindings.get,
      hv]
  rw [← h.bindings] at hk
  exact ⟨hk.symm, { h.tight with joins := forall_mem_append_singleton h.tight.joins ht }, h.quiet⟩

theorem Sound.addOrder (h : Sound s k) {t : BoundText} (orders : List String)
    {values : List Value} (ht : t.Tight s.quoting.quote) (hv : t.values = values) :
    Sound { s with orders := orders, bindings := s.bindings.extend .order values }
      (k.addOrder t) := by
  have hk : (k.addOrder t).bindings s.quoting = (k.bindings s.quoting).extend .order values := by
    simp [BoundClauses.bindings, BoundClauses.addOrder, Bindings.extend, Bindings.set, Bindings.get,
      hv]
  rw [← h.bindings] at hk
  exact ⟨hk.symm, { h.tight with orders := forall_mem_append_singleton h.tight.orders ht },
    h.quiet⟩

theorem Sound.addUnion (h : Sound s k) (hq : Delimiter s.quoting.quote) (all : Bool)
    {t : BoundText} (unions : List String) {values : List Value} (ht : t.Tight s.quoting.quote)
    (hv : t.values = values) :
    Sound { s with unions := unions, bindings := s.bindings.extend .union values }
      (k.addUnion all t) := by
  have hkeyword : Quiet s.quoting.quote (Statement.unionKeyword all) := by
    cases all <;> exact quiet_of_ordinary hq (by decide)
  have hk : (k.addUnion all t).bindings s.quoting =
      (k.bindings s.quoting).extend .union values := by
    simp [BoundClauses.bindings, BoundClauses.addUnion, Bindings.extend, Bindings.set, Bindings.get,
      hv]
  rw [← h.bindings] at hk
  exact ⟨hk.symm, { h.tight with
    unions := forall_mem_append_singleton h.tight.unions
      ((BoundText.tight_ofText hkeyword).append ht) }, h.quiet⟩

theorem Sound.addExpression (h : Sound s k) {t : BoundText} (expressions : List String)
    {values : List Value} (ht : t.Tight s.quoting.quote) (hv : t.values = values) :
    Sound { s with expressions := expressions, bindings := s.bindings.extend .select values }
      (k.addExpression t) := by
  have hk : (k.addExpression t).bindings s.quoting =
      (k.bindings s.quoting).extend .select values := by
    simp [BoundClauses.bindings, BoundClauses.addExpression, Bindings.extend, Bindings.set,
      Bindings.get, hv]
  rw [← h.bindings] at hk
  exact ⟨hk.symm, { h.tight with
    expressions := forall_mem_append_singleton h.tight.expressions ht }, h.quiet⟩

theorem Sound.addJson (h : Sound s k) {t : BoundText} (jsonConditions : List String)
    {values : List Value} (ht : t.Tight s.quoting.quote) (hv : t.values = values) :
    Sound { s with
      jsonConditions := jsonConditions
      bindings := s.bindings.extend .jsonWhere values } (k.addJson t) := by
  have hk : (k.addJson t).bindings s.quoting =
      (k.bindings s.quoting).extend .jsonWhere values := by
    simp [BoundClauses.bindings, BoundClauses.addJson, Bindings.extend, Bindings.set,
      Bindings.get, hv]
  rw [← h.bindings] at hk
  exact ⟨hk.symm, { h.tight with
    jsonConditions := forall_mem_append_singleton h.tight.jsonConditions ht }, h.quiet⟩

/-- HAVING replaces its predicate and its value together. -/
theorem Sound.setHaving (h : Sound s k) (hq : Delimiter s.quoting.quote)
    {column operator : String} {value : Value} (hc : Quiet s.quoting.quote column)
    (ha : (s.having column operator value).buildError = none) :
    Sound (s.having column operator value) (setHaving s.quoting k column operator value) := by
  obtain ⟨-, op, hop, -, heq⟩ := Statement.having_of_accepted ha
  have hblank : Quiet s.quoting.quote " " := quiet_of_ordinary hq (by decide)
  have hhead := ((((hc.trim hq).label hq).append hblank).append
    (BoundCondition.quiet_operator hq op)).append hblank
  have ht := (BoundText.tight_ofText hhead).append (BoundText.tight_ofValue value)
  rw [heq, BoundClauses.setHaving, hop]
  refine ⟨?_, { h.tight with having := ?_ }, h.quiet⟩
  · have hk := congrArg (fun b : Bindings => b.set .having [value]) h.bindings
    simp only [BoundClauses.bindings, Option.toList_some, List.flatMap_singleton,
      BoundText.values_append, BoundText.values_ofText, BoundText.values_ofValue, List.nil_append]
    exact hk
  · intro t hmem
    rw [← Option.mem_some.1 hmem]
    exact ht

/-- A mutation replaces its columns and its values together. -/
theorem Sound.setMutation (h : Sound s k) (hq : Delimiter s.quoting.quote) {kind : Kind}
    {data : List (String × Value)} (hd : ∀ d ∈ data, Quiet s.quoting.quote d.1)
    (ha : (s.setMutation kind data).buildError = none) :
    Sound (s.setMutation kind data) (k.setMutation data) := by
  obtain ⟨-, -, -, -, heq⟩ := Statement.setMutation_of_accepted ha
  rw [heq]
  refine ⟨?_, { h.tight with mutation := ?_ }, h.quiet⟩
  · have hk := congrArg (fun b : Bindings => b.set .mutation (data.map Prod.snd)) h.bindings
    simp only [BoundClauses.bindings, BoundClauses.setMutation, List.map_map]
    exact hk
  · intro d hmem
    obtain ⟨e, he, rfl⟩ := List.mem_map.1 hmem
    exact (hd e he).trim hq

/-! ### Conditions -/

theorem Sound.compare (h : Sound s k) (hq : Delimiter s.quoting.quote) {connector : Connector}
    {column operator : String} {value : Value} (hc : Quiet s.quoting.quote column)
    (ha : (s.compare connector column operator value).buildError = none) :
    Sound (s.compare connector column operator value)
      (k.compare connector column operator value) := by
  obtain ⟨-, -, op, operand, values, hop, hoperand, heq⟩ := Statement.compare_of_accepted ha
  rw [heq, BoundClauses.compare, hop]
  refine h.addCondition _ (BoundCondition.tight_compare hq _ (hc.trim hq) _ _ _) ?_
  rw [BoundCondition.values_compare, (BoundOperand.ofValue_of_ok hoperand).2]

theorem Sound.addGroup (h : Sound s k) (hq : Delimiter s.quoting.quote) {connector : Connector}
    {group : Statement} {g : BoundClauses} (hg : Sound group g)
    (hquoting : group.quoting = s.quoting)
    (ha : (s.addGroup connector group).buildError = none)
    (hgroup : group.fragments = g.fragments) :
    Sound (s.addGroup connector group) (k.addGroup connector g) := by
  have hconditions := conditions_of_fragments hgroup
  have hempty : group.conditions.isEmpty = g.conditions.isEmpty := by
    rw [hconditions, BoundCondition.conditions_eq_map, List.isEmpty_map]
  have hvalues : group.bindings.get .whereTree =
      g.conditions.flatMap (BoundCondition.values group.quoting) :=
    congrArg Bindings.whereTree hg.bindings
  have htight := hg.tight.conditions
  rw [hquoting] at hvalues htight
  obtain ⟨-, -, -, heq⟩ := Statement.addGroup_of_accepted ha
  rw [heq, BoundClauses.addGroup, hempty]
  split
  · exact h
  · refine h.addCondition _ (BoundCondition.tight_group hq connector htight) ?_
    rw [BoundCondition.values_group, hvalues]

theorem Sound.compareSub (h : Sound s k) (hq : Delimiter s.quoting.quote) {connector : Connector}
    {column operator : String} {sub : Statement} {t : BoundText}
    (hc : Quiet s.quoting.quote column) (ht : t.Tight s.quoting.quote)
    (hv : ∀ query, sub.compile = .ok query → t.values = query.bindings)
    (ha : (s.compareSub connector column operator sub).buildError = none) :
    Sound (s.compareSub connector column operator sub)
      (k.compareSub connector column operator t) := by
  obtain ⟨-, -, op, query, hop, -, -, hquery, heq⟩ := Statement.compareSub_of_accepted ha
  rw [heq, BoundClauses.compareSub, hop]
  refine h.addCondition _ (BoundCondition.tight_subquery hq _ (hc.trim hq) _ _ ht) ?_
  rw [BoundCondition.values_subquery, hv query hquery]

theorem Sound.inList (h : Sound s k) (hq : Delimiter s.quoting.quote) {connector : Connector}
    {negated : Bool} {column : String} {values : List Value} (hc : Quiet s.quoting.quote column)
    (ha : (s.inList connector negated column values).buildError = none) :
    Sound (s.inList connector negated column values)
      (k.inList connector negated column values) := by
  obtain ⟨-, -, -, heq⟩ := Statement.inList_of_accepted ha
  rw [heq]
  exact h.addCondition _ (BoundCondition.tight_list hq _ (hc.trim hq) _ _ _)
    (BoundCondition.values_list ..)

/-- Conditions that are dropped because they test for null take no value with them. -/
theorem flatMap_values_filter {q : Quoting} {p : BoundCondition → Bool} {cs : List BoundCondition}
    (h : ∀ c ∈ cs, p c = false → c.values q = []) :
    (cs.filter p).flatMap (BoundCondition.values q) = cs.flatMap (BoundCondition.values q) := by
  induction cs with
  | nil => rfl
  | cons c cs ih =>
      have hrest := ih fun d hd => h d (List.mem_cons_of_mem _ hd)
      by_cases hc : p c = true
      · rw [List.filter_cons_of_pos hc, List.flatMap_cons, List.flatMap_cons, hrest]
      · have hnil := h c List.mem_cons_self (Bool.eq_false_iff.2 hc)
        rw [List.filter_cons_of_neg hc, List.flatMap_cons, hnil, hrest, List.nil_append]

theorem tight_putNullCheck {q : Quoting} (hq : Delimiter q.quote) {column : String}
    {raw notNull : Bool} {connector : Connector} {cs : List BoundCondition}
    (hc : Quiet q.quote column) (h : ∀ c ∈ cs, (c.text q).Tight q.quote) :
    ∀ c ∈ putNullCheck q column raw notNull connector cs, (c.text q).Tight q.quote := by
  unfold putNullCheck
  split
  · exact h
  · exact forall_mem_append_singleton h (BoundCondition.tight_compare hq _ hc _ _ _)

theorem values_putNullCheck (q : Quoting) (column : String) (raw notNull : Bool)
    (connector : Connector) (cs : List BoundCondition) :
    (putNullCheck q column raw notNull connector cs).flatMap (BoundCondition.values q) =
      cs.flatMap (BoundCondition.values q) := by
  unfold putNullCheck
  split
  · rfl
  · rw [List.flatMap_append, List.flatMap_singleton, BoundCondition.values_compare]
    exact List.append_nil _

theorem Sound.nullCheck (h : Sound s k) (hq : Delimiter s.quoting.quote) {connector : Connector}
    {notNull : Bool} {column : String} (hc : Quiet s.quoting.quote column)
    (ha : (s.nullCheck connector notNull column).buildError = none) :
    Sound (s.nullCheck connector notNull column) (nullCheck s k connector notNull column) := by
  obtain ⟨-, -, heq⟩ := Statement.nullCheck_of_accepted ha
  rw [heq]
  unfold BoundClauses.nullCheck
  simp only
  split
  · exact h
  · refine h.conditions _ (tight_putNullCheck hq (hc.trim hq) fun c hmem => ?_) ?_
    · exact h.tight.conditions c (List.mem_filter.1 hmem).1
    · rw [values_putNullCheck]
      refine flatMap_values_filter fun c _ hdropped => ?_
      rw [Bool.not_eq_false'] at hdropped
      exact BoundCondition.values_of_isNullCheck hdropped

theorem Sound.dropMarkChecks (h : Sound s k) (notNull : Bool) (mode : SoftDeleteMode) :
    Sound { s.dropMarkChecks notNull with softDeleteMode := mode }
      (dropMarkChecks s k notNull) := by
  have hvalues : (BoundClauses.dropMarkChecks s k notNull).conditions.flatMap
      (BoundCondition.values s.quoting) =
        k.conditions.flatMap (BoundCondition.values s.quoting) := by
    refine flatMap_values_filter fun c _ hfalse => ?_
    rw [Bool.and_eq_false_iff, Bool.not_eq_false', Bool.not_eq_false'] at hfalse
    rcases hfalse with hand | hor
    · exact BoundCondition.values_of_isNullCheck hand
    · exact BoundCondition.values_of_isNullCheck hor
  have hdropped := h.conditions (s.dropMarkChecks notNull).conditions
    (fun c hmem => h.tight.conditions c (List.mem_filter.1 hmem).1) hvalues
  exact ⟨hdropped.bindings, hdropped.tight, hdropped.quiet⟩

theorem Sound.onlyTrashed (h : Sound s k) (hq : Delimiter s.quoting.quote)
    (ha : s.onlyTrashed.buildError = none) : Sound s.onlyTrashed (onlyTrashed s k) := by
  unfold Statement.onlyTrashed at ha ⊢
  have hdropped := h.dropMarkChecks false .only
  have hchecked := hdropped.nullCheck hq h.quiet.softDeleteColumn ha
  exact hchecked

theorem Sound.withoutTrashed (h : Sound s k) (hq : Delimiter s.quoting.quote) :
    Sound s.withoutTrashed (withoutTrashed s k) := by
  have hdropped := h.dropMarkChecks true .exclude
  have htight : ∀ c ∈ putNullCheck s.quoting s.softDeleteColumn true false .and
      (BoundClauses.dropMarkChecks s k true).conditions, (c.text s.quoting).Tight s.quoting.quote :=
    tight_putNullCheck hq h.quiet.softDeleteColumn hdropped.tight.conditions
  have hput := hdropped.conditions s.unmarkedConditions htight (values_putNullCheck ..)
  rw [Statement.withoutTrashed_eq]
  exact hput

/-! ### The other clauses -/

theorem Sound.joinSub (h : Sound s k) (hq : Delimiter s.quoting.quote) {kind : JoinKind}
    {sub : Statement} {t : BoundText} {label left operator right : String}
    (hlabel : Quiet s.quoting.quote label)
    (hon : Quiet s.quoting.quote (Statement.joinCondition s.quoting left operator right))
    (ht : t.Tight s.quoting.quote)
    (hv : ∀ query, sub.compile = .ok query → t.values = query.bindings)
    (ha : (s.joinSub kind sub label left operator right).buildError = none) :
    Sound (s.joinSub kind sub label left operator right)
      (joinSub s.quoting k kind t label left operator right) := by
  obtain ⟨-, query, hquery, heq⟩ := Statement.joinSub_of_accepted ha
  have hkind : Quiet s.quoting.quote (kind.sql ++ " (") := by
    cases kind <;> exact quiet_of_ordinary hq (by decide)
  have has : Quiet s.quoting.quote ") AS " := quiet_of_ordinary hq (by decide)
  have htail := (has.append ((hlabel.trim hq).label hq)).append hon
  rw [heq]
  refine h.addJoin _ (((BoundText.tight_ofText hkind).append ht).append
    (BoundText.tight_ofText htail)) ?_
  simp [hv query hquery]

theorem Sound.joinRaw (h : Sound s k) (hq : Delimiter s.quoting.quote) {sql : String}
    {values : List Value} (hclosed : Closed s.quoting.quote sql)
    (hcount : count s.quoting.quote sql = values.length) :
    Sound (s.joinRaw sql values)
      (k.addJoin (.ofRaw s.quoting.quote (Text.trim sql) values)) := by
  have hclosed' : Closed s.quoting.quote (Text.trim sql) := by
    rw [Closed, run_trim hq]
    exact hclosed
  obtain ⟨ht, hv⟩ := BoundText.tight_ofRaw hq hclosed' ((count_trim hq sql).trans hcount)
  exact h.addJoin _ ht hv

/-- Text without values can be added to the joins. -/
theorem Sound.addJoinText (h : Sound s k) {text : String} (joins : List String)
    (ht : Quiet s.quoting.quote text) :
    Sound { s with joins := joins } (k.addJoin (.ofText text)) := by
  have hadd := h.addJoin joins (BoundText.tight_ofText ht) (BoundText.values_ofText text)
  rw [extend_nil] at hadd
  exact hadd

/-- Text without values can be added to the orderings. -/
theorem Sound.addOrderText (h : Sound s k) {text : String} (orders : List String)
    (ht : Quiet s.quoting.quote text) :
    Sound { s with orders := orders } (k.addOrder (.ofText text)) := by
  have hadd := h.addOrder orders (BoundText.tight_ofText ht) (BoundText.values_ofText text)
  rw [extend_nil] at hadd
  exact hadd

theorem Sound.orderBy (h : Sound s k) (hq : Delimiter s.quoting.quote) {column direction : String}
    (hc : Quiet s.quoting.quote column)
    (ha : (s.orderBy column direction).buildError = none) :
    Sound (s.orderBy column direction) (orderBy s.quoting k column direction) := by
  obtain ⟨-, d, hd, heq⟩ := Statement.orderBy_of_accepted ha
  have hblank : Quiet s.quoting.quote " " := quiet_of_ordinary hq (by decide)
  have hdirection : Quiet s.quoting.quote d.sql := by
    cases d <;> exact quiet_of_ordinary hq (by decide)
  rw [heq, BoundClauses.orderBy, hd]
  exact h.addOrderText _ ((((hc.trim hq).column hq).append hblank).append hdirection)

theorem tight_rankBranch {q : Quoting} (hq : Delimiter q.quote) (r : Value × Int) :
    (rankBranch r).Tight q.quote := by
  have hwhen : Quiet q.quote " WHEN " := quiet_of_ordinary hq (by decide)
  have hthen : Quiet q.quote " THEN " := quiet_of_ordinary hq (by decide)
  exact ((BoundText.tight_ofText hwhen).append (BoundText.tight_ofValue r.1)).append
    (BoundText.tight_ofText (hthen.append (quiet_signedDecimal hq r.2)))

theorem values_rankBranches (ranks : List (Value × Int)) :
    (ranks.map rankBranch).flatMap BoundText.values = ranks.map Prod.fst := by
  induction ranks with
  | nil => rfl
  | cons r ranks ih =>
      have hbranch : (rankBranch r).values = [r.1] := by simp [rankBranch]
      rw [List.map_cons, List.flatMap_cons, hbranch, ih]
      rfl

theorem Sound.orderByCase (h : Sound s k) (hq : Delimiter s.quoting.quote) {column : String}
    {ranks : List (Value × Int)} {otherwise direction : String}
    (hc : Quiet s.quoting.quote column)
    (ha : (s.orderByCase column ranks otherwise direction).buildError = none) :
    Sound (s.orderByCase column ranks otherwise direction)
      (orderByCase s.quoting k column ranks otherwise direction) := by
  obtain ⟨-, d, hd, -, heq⟩ := Statement.orderByCase_of_accepted ha
  have hplain : ∀ text : String, text.toList.all isOrdinary = true → Quiet s.quoting.quote text :=
    fun text ht => quiet_of_ordinary hq ht
  have hdirection : Quiet s.quoting.quote d.sql := by
    cases d <;> exact quiet_of_ordinary hq (by decide)
  have hcase := (hplain "CASE " (by decide)).append ((hc.trim hq).column hq)
  have helse := (((hplain " ELSE " (by decide)).append
    (quiet_literal s.quoting.quote otherwise)).append (hplain " END " (by decide))).append
      hdirection
  have hbranches : ∀ t ∈ ranks.map rankBranch, t.Tight s.quoting.quote := by
    intro t ht
    obtain ⟨r, -, rfl⟩ := List.mem_map.1 ht
    exact tight_rankBranch hq r
  rw [heq, BoundClauses.orderByCase, hd]
  have htight := ((BoundText.tight_ofText hcase).append
    (BoundText.tight_eachAfter (hplain "" (by decide)) hbranches)).append
      (BoundText.tight_ofText helse)
  refine h.addOrder _ htight ?_
  simp [values_rankBranches]

theorem Sound.union (h : Sound s k) (hq : Delimiter s.quoting.quote) {sub : Statement} {all : Bool}
    {t : BoundText} (ht : t.Tight s.quoting.quote)
    (hv : ∀ query, sub.compile = .ok query → t.values = query.bindings)
    (ha : (s.union sub all).buildError = none) :
    Sound (s.union sub all) (k.addUnion all t) := by
  obtain ⟨-, query, hquery, heq⟩ := Statement.union_of_accepted ha
  rw [heq]
  exact h.addUnion hq all _ ht (hv query hquery)

theorem Sound.unionRaw (h : Sound s k) (hq : Delimiter s.quoting.quote) {sql : String} {all : Bool}
    (hsql : Quiet s.quoting.quote sql) :
    Sound (s.unionRaw sql all) (k.addUnion all (.ofText (Text.trim sql))) := by
  have hadd := h.addUnion hq all (s.unions ++ [Statement.unionKeyword all ++ Text.trim sql])
    (BoundText.tight_ofText (hsql.trim hq)) (BoundText.values_ofText _)
  rw [extend_nil] at hadd
  exact hadd

theorem Sound.window (h : Sound s k) (hq : Delimiter s.quoting.quote) {function : WindowFunction}
    {w : Window} {label : String}
    (hc : (Call.window function w label).writesQuietly s.quoting.quote = true)
    (ha : (s.window function w label).buildError = none) :
    Sound (s.window function w label) (window s.quoting k function w label) := by
  obtain ⟨-, sql, hsql, heq⟩ := Statement.window_of_accepted ha
  have htexts := quiet_of_writesQuietly hc
  have hquiet : Quiet s.quoting.quote sql := by
    refine quiet_window hq (fun text ht => htexts text ?_) (fun text ht => htexts text ?_)
      (htexts label ?_) hsql
    · exact List.mem_append_left _ (List.mem_append_left _ ht)
    · exact List.mem_append_left _ (List.mem_append_right _ ht)
    · exact List.mem_append_right _ List.mem_cons_self
  rw [heq, BoundClauses.window, hsql]
  have hadd := h.addExpression (s.expressions ++ [sql]) (BoundText.tight_ofText hquiet)
    (BoundText.values_ofText sql)
  rw [extend_nil] at hadd
  exact hadd

theorem tight_extractText {q : Quoting} (hq : Delimiter q.quote) (d : Dialect) {column : String}
    (hc : Quiet q.quote column) (path : Value) : (d.extractText q column path).Tight q.quote := by
  have hplain : ∀ text : String, text.toList.all isOrdinary = true → Quiet q.quote text :=
    fun text ht => quiet_of_ordinary hq ht
  have hcall : ∀ function : String, function.toList.all isOrdinary = true →
      BoundText.Tight q.quote (.ofText (function ++ "(" ++ q.column column ++ ", ") ++
        .ofValue path ++ .ofText ")") := by
    intro function hfunction
    have hhead := (((hplain function hfunction).append (hplain "(" (by decide))).append
      (hc.column hq)).append (hplain ", " (by decide))
    exact ((BoundText.tight_ofText hhead).append (BoundText.tight_ofValue path)).append
      (BoundText.tight_ofText (hplain ")" (by decide)))
  cases d with
  | mysql => exact hcall "JSON_EXTRACT" (by decide)
  | sqlite => exact hcall "json_extract" (by decide)

theorem tight_containsText {q : Quoting} (hq : Delimiter q.quote) (d : Dialect) {column : String}
    (hc : Quiet q.quote column) (value : Json) : (d.containsText q column value).Tight q.quote := by
  have hplain : ∀ text : String, text.toList.all isOrdinary = true → Quiet q.quote text :=
    fun text ht => quiet_of_ordinary hq ht
  have hend := BoundText.tight_ofText (hplain ")" (by decide))
  cases d with
  | mysql =>
      have hhead := ((hplain "JSON_CONTAINS(" (by decide)).append (hc.column hq)).append
        (hplain ", " (by decide))
      exact ((BoundText.tight_ofText hhead).append (BoundText.tight_ofValue _)).append hend
  | sqlite =>
      have hhead := ((hplain "EXISTS (SELECT 1 FROM json_each(" (by decide)).append
        (hc.column hq)).append (hplain ") WHERE json_each.value = " (by decide))
      exact ((BoundText.tight_ofText hhead).append (BoundText.tight_ofValue _)).append hend

theorem values_containsText (d : Dialect) (q : Quoting) (column : String) (value : Json) :
    (d.containsText q column value).values = [(d.contains q column value).2] := by
  delta Dialect.containsText Dialect.contains
  cases d <;> simp only [BoundText.values_append, BoundText.values_ofText, BoundText.values_ofValue,
    List.nil_append, List.append_nil]

theorem tight_pathText {q : Quoting} (hq : Delimiter q.quote) (d : Dialect) {column : String}
    (hc : Quiet q.quote column) (path : Value) (op : Operator) (value : Value) :
    (d.pathText q column path op value).Tight q.quote := by
  have hblank : Quiet q.quote " " := quiet_of_ordinary hq (by decide)
  have hnull : Quiet q.quote " NULL" := quiet_of_ordinary hq (by decide)
  have hextract := tight_extractText hq d hc path
  have hop := hblank.append (BoundCondition.quiet_operator hq op)
  unfold Dialect.pathText
  simp only
  split
  · exact hextract.append (BoundText.tight_ofText (hop.append hnull))
  · exact hextract.append (BoundText.tight_ofText (hop.append hnull))
  · exact (hextract.append (BoundText.tight_ofText (hop.append hblank))).append
      (BoundText.tight_ofValue value)

theorem Sound.jsonExtract (h : Sound s k) (hq : Delimiter s.quoting.quote)
    {column path label : String} (hc : Quiet s.quoting.quote column)
    (hl : Quiet s.quoting.quote label) :
    Sound (s.jsonExtract column path label)
      (jsonExtract s.quoting s.jsonDialect k column path label) := by
  have has : Quiet s.quoting.quote " AS " := quiet_of_ordinary hq (by decide)
  have ht := (tight_extractText hq s.jsonDialect (hc.trim hq) (.text (jsonPath path))).append
    (BoundText.tight_ofText (has.append ((hl.trim hq).label hq)))
  refine h.addExpression _ ht ?_
  simp [values_extractText]

theorem Sound.jsonContains (h : Sound s k) (hq : Delimiter s.quoting.quote) {column : String}
    {value : Json} (hc : Quiet s.quoting.quote column) :
    Sound (s.jsonContains column value)
      (k.addJson (s.jsonDialect.containsText s.quoting (Text.trim column) value)) :=
  h.addJson _ (tight_containsText hq _ (hc.trim hq) value) (values_containsText ..)

theorem Sound.jsonCompare (h : Sound s k) (hq : Delimiter s.quoting.quote)
    {column path operator : String} {value : Value} (hc : Quiet s.quoting.quote column)
    (ha : (s.jsonCompare column path operator value).buildError = none) :
    Sound (s.jsonCompare column path operator value)
      (jsonCompare s.quoting s.jsonDialect k column path operator value) := by
  obtain ⟨-, sql, values, hpredicate, heq⟩ := Statement.jsonCompare_of_accepted ha
  obtain ⟨op, hop, -, hvalues⟩ := pathText_of_ok hpredicate
  rw [heq, BoundClauses.jsonCompare, hop]
  exact h.addJson _ (tight_pathText hq _ (hc.trim hq) _ _ _) hvalues

/-! ### Texts without placeholders -/

theorem Sound.fromTable (h : Sound s k) (hq : Delimiter s.quoting.quote) {table : String}
    (ht : Quiet s.quoting.quote table) : Sound (s.fromTable table) k :=
  ⟨h.bindings, h.tight, { h.quiet with table := ht.trim hq }⟩

theorem Sound.model (h : Sound s k) {c : ModelClass} (ht : Quiet s.quoting.quote c.table) :
    Sound (s.model c) k := by
  refine ⟨h.bindings, h.tight, { h.quiet with table := ?_ }⟩
  rw [Statement.model, Statement.plainTexts]
  simp only
  split
  · exact ht
  · exact h.quiet.table

theorem quiet_selectColumns {q : Quoting} (hq : Delimiter q.quote) {columns : List String}
    (h : ∀ c ∈ columns, Quiet q.quote c) :
    ∀ c ∈ columns.map q.selectColumn, Quiet q.quote c := by
  intro c hc
  obtain ⟨name, hname, rfl⟩ := List.mem_map.1 hc
  exact (h name hname).selectColumn hq

theorem Sound.select (h : Sound s k) (hq : Delimiter s.quoting.quote) {columns : List String}
    (hc : ∀ c ∈ columns, Quiet s.quoting.quote c) : Sound (s.select columns) k :=
  ⟨h.bindings, h.tight, { h.quiet with columns := quiet_selectColumns hq hc }⟩

theorem Sound.addSelect (h : Sound s k) (hq : Delimiter s.quoting.quote) {columns : List String}
    (hc : ∀ c ∈ columns, Quiet s.quoting.quote c) : Sound (s.addSelect columns) k := by
  refine ⟨h.bindings, h.tight, { h.quiet with columns := fun c hmem => ?_ }⟩
  rcases List.mem_append.1 hmem with hmem | hmem
  · exact h.quiet.columns c hmem
  · exact quiet_selectColumns hq hc c hmem

theorem Sound.groupBy (h : Sound s k) (hq : Delimiter s.quoting.quote) {columns : List String}
    (hc : ∀ c ∈ columns, Quiet s.quoting.quote c) : Sound (s.groupBy columns) k := by
  refine ⟨h.bindings, h.tight, { h.quiet with groups := fun c hmem => ?_ }⟩
  rcases List.mem_append.1 hmem with hmem | hmem
  · exact h.quiet.groups c hmem
  · obtain ⟨name, hname, rfl⟩ := List.mem_map.1 hmem
    exact ((hc name hname).trim hq).column hq

theorem Sound.upsert (h : Sound s k) (hq : Delimiter s.quoting.quote)
    {data : List (String × Value)} {unique : List String}
    (hd : ∀ d ∈ data, Quiet s.quoting.quote d.1) (hu : ∀ c ∈ unique, Quiet s.quoting.quote c)
    (ha : (s.upsert data unique).buildError = none) :
    Sound (s.upsert data unique) (k.setMutation data) := by
  obtain ⟨hset, -, heq⟩ := Statement.upsert_of_accepted ha
  have hframe := Statement.frame_setMutation (c := .upsert data unique) hset rfl
  have hquoting : (s.setMutation .upsert data).quoting = s.quoting :=
    congrArg (fun c : Context => c.config.quoting) hframe.context
  have hmutation := h.setMutation hq hd hset
  rw [heq]
  refine ⟨hmutation.bindings, hmutation.tight, { hmutation.quiet with
    upsertUnique := fun c hmem => ?_ }⟩
  obtain ⟨name, hname, rfl⟩ := List.mem_map.1 (List.mem_filter.1 hmem).1
  have htrim := (hu name hname).trim hq
  rw [← hquoting] at htrim
  exact htrim

theorem Sound.upsertColumns (h : Sound s k) (hq : Delimiter s.quoting.quote)
    {columns : List String} (hc : ∀ c ∈ columns, Quiet s.quoting.quote c) :
    Sound (s.upsertColumns columns) k := by
  refine ⟨h.bindings, h.tight, { h.quiet with upsertUpdate := fun named hnamed c hmem => ?_ }⟩
  obtain rfl := Option.some.inj hnamed
  obtain ⟨name, hname, rfl⟩ := List.mem_map.1 hmem
  exact (hc name hname).trim hq

/-! ### Whole constructions -/

/-- The values of a sound statement that compiles are those of its clauses in order. -/
theorem Sound.values_of_ok (h : Sound s k) {query : Compiled} (hquery : s.compile = .ok query) :
    (k.text s).values = query.bindings := by
  obtain ⟨-, -, -, hvalues, -⟩ := Statement.compile_of_ok hquery
  rw [values_text, ← h.bindings, hvalues]
  rfl

/-- The text of a sound statement on the same context is tight. -/
theorem Sound.tight_text_of_context {sub : Statement} {t : BoundClauses} (h : Sound sub t)
    (hq : Delimiter s.quoting.quote) (hcontext : sub.context = s.context) :
    (t.text sub).Tight s.quoting.quote := by
  have hquoting : sub.quoting = s.quoting :=
    congrArg (fun c : Context => c.config.quoting) hcontext
  rw [← hquoting] at hq ⊢
  exact tight_text hq h.quiet h.tight

theorem forall_fst_of_map {quote : Char} {data : List (String × Value)}
    (h : ∀ c ∈ data.map Prod.fst, Quiet quote c) : ∀ d ∈ data, Quiet quote d.1 :=
  fun _ hd => h _ (List.mem_map_of_mem hd)

mutual

/-- **A quiet call that is accepted keeps values and placeholders together.** -/
theorem Sound.apply {s : Statement} {k : BoundClauses} (h : Sound s k)
    (hq : Delimiter s.quoting.quote) (c : Call) (hc : c.isQuiet s.quoting.quote = true)
    (ha : (s.apply c).buildError = none) : Sound (s.apply c) (place s k c) := by
  cases c with
  | fromTable table =>
      rw [Statement.apply, place]
      exact h.fromTable hq (quiet_of_writesQuietly hc table List.mem_cons_self)
  | model c =>
      rw [Statement.apply, place]
      exact h.model (quiet_of_writesQuietly hc c.table List.mem_cons_self)
  | select columns =>
      rw [Statement.apply, place]
      exact h.select hq (quiet_of_writesQuietly hc)
  | addSelect columns =>
      rw [Statement.apply, place]
      exact h.addSelect hq (quiet_of_writesQuietly hc)
  | compare connector column operator value =>
      rw [Statement.apply] at ha ⊢
      rw [place]
      exact h.compare hq (quiet_of_writesQuietly hc column List.mem_cons_self) ha
  | group connector calls =>
      rw [Statement.apply] at ha ⊢
      rw [Call.isQuiet] at hc
      have hgroup := (Statement.addGroup_of_accepted ha).2.1
      have hsound := h.scope.applyAll hq calls hc hgroup
      have hcontext := Statement.context_applyAll hgroup
      rw [place]
      exact h.addGroup hq hsound (congrArg (fun c : Context => c.config.quoting) hcontext) ha
        (fragments_applyAll calls hgroup rfl)
  | compareSub connector column operator sub =>
      rw [Statement.apply] at ha ⊢
      rw [Call.isQuiet, Bool.and_eq_true] at hc
      obtain ⟨-, -, op, query, -, -, -, hquery, -⟩ := Statement.compareSub_of_accepted ha
      have hsub := (Statement.compile_of_ok hquery).1
      have hsound := (Sound.new h.quiet.softDeleteColumn).applyAll hq sub hc.2 hsub
      rw [place]
      exact h.compareSub hq (quiet_of_writesQuietly hc.1 column List.mem_cons_self)
        (hsound.tight_text_of_context hq (Statement.context_applyAll hsub))
        (fun _ hok => hsound.values_of_ok hok) ha
  | inList connector negated column values =>
      rw [Statement.apply] at ha ⊢
      rw [place]
      exact h.inList hq (quiet_of_writesQuietly hc column List.mem_cons_self) ha
  | nullCheck connector notNull column =>
      rw [Statement.apply] at ha ⊢
      rw [place]
      exact h.nullCheck hq (quiet_of_writesQuietly hc column List.mem_cons_self) ha
  | withTrashed =>
      rw [Statement.apply, place]
      exact h.dropMarkChecks false .include
  | onlyTrashed =>
      rw [Statement.apply] at ha ⊢
      rw [place]
      exact h.onlyTrashed hq ha
  | withoutTrashed =>
      rw [Statement.apply, place]
      exact h.withoutTrashed hq
  | softDelete now =>
      rw [Statement.apply, Statement.softDelete, Statement.update] at ha ⊢
      rw [place]
      exact h.setMutation hq (List.forall_mem_singleton.2 h.quiet.softDeleteColumn) ha
  | restore =>
      rw [Statement.apply, Statement.restore, Statement.update] at ha ⊢
      have hwith := h.dropMarkChecks false .include
      have hset := hwith.setMutation hq
        (List.forall_mem_singleton.2 hwith.quiet.softDeleteColumn) ha
      rw [place]
      exact hset
  | join kind table left operator right =>
      have htexts := quiet_of_writesQuietly hc
      have hblank : Quiet s.quoting.quote " " := quiet_of_ordinary hq (by decide)
      have hkind : Quiet s.quoting.quote kind.sql := by
        cases kind <;> exact quiet_of_ordinary hq (by decide)
      have htable : Quiet s.quoting.quote table := htexts table (by simp [Call.texts])
      have hon := quiet_joinCondition hq (htexts left (by simp [Call.texts]))
        (htexts operator (by simp [Call.texts])) (htexts right (by simp [Call.texts]))
      rw [Statement.apply, place]
      exact h.addJoinText _ (((hkind.append hblank).append (htable.trim hq)).append hon)
  | joinSub kind sub label left operator right =>
      rw [Statement.apply] at ha ⊢
      rw [Call.isQuiet, Bool.and_eq_true] at hc
      have htexts := quiet_of_writesQuietly hc.1
      have hon := quiet_joinCondition hq (htexts left (by simp [Call.texts]))
        (htexts operator (by simp [Call.texts])) (htexts right (by simp [Call.texts]))
      obtain ⟨-, query, hquery, -⟩ := Statement.joinSub_of_accepted ha
      have hsub := (Statement.compile_of_ok hquery).1
      have hsound := (Sound.new h.quiet.softDeleteColumn).applyAll hq sub hc.2 hsub
      rw [place]
      exact h.joinSub hq (htexts label List.mem_cons_self) hon
        (hsound.tight_text_of_context hq (Statement.context_applyAll hsub))
        (fun _ hok => hsound.values_of_ok hok) ha
  | joinRaw sql values =>
      rw [Call.isQuiet, decide_eq_true_iff] at hc
      rw [Statement.apply, place]
      exact h.joinRaw hq hc.1 hc.2
  | groupBy columns =>
      rw [Statement.apply, place]
      exact h.groupBy hq (quiet_of_writesQuietly hc)
  | having column operator value =>
      rw [Statement.apply] at ha ⊢
      rw [place]
      exact h.setHaving hq (quiet_of_writesQuietly hc column List.mem_cons_self) ha
  | orderBy column direction =>
      rw [Statement.apply] at ha ⊢
      rw [place]
      exact h.orderBy hq (quiet_of_writesQuietly hc column List.mem_cons_self) ha
  | orderByRaw sql =>
      rw [Statement.apply, place]
      exact h.addOrderText _ ((quiet_of_writesQuietly hc sql List.mem_cons_self).trim hq)
  | orderByCase column ranks otherwise direction =>
      rw [Statement.apply] at ha ⊢
      rw [place]
      exact h.orderByCase hq (quiet_of_writesQuietly hc column List.mem_cons_self) ha
  | union sub all =>
      rw [Statement.apply] at ha ⊢
      rw [Call.isQuiet] at hc
      obtain ⟨-, query, hquery, -⟩ := Statement.union_of_accepted ha
      have hsub := (Statement.compile_of_ok hquery).1
      have hsound := (Sound.new h.quiet.softDeleteColumn).applyAll hq sub hc hsub
      rw [place]
      exact h.union hq (hsound.tight_text_of_context hq (Statement.context_applyAll hsub))
        (fun _ hok => hsound.values_of_ok hok) ha
  | unionRaw sql all =>
      rw [Statement.apply, place]
      exact h.unionRaw hq (quiet_of_writesQuietly hc sql List.mem_cons_self)
  | window function w label =>
      rw [Statement.apply] at ha ⊢
      rw [place]
      exact h.window hq hc ha
  | jsonExtract column path label =>
      have htexts := quiet_of_writesQuietly hc
      rw [Statement.apply, place]
      exact h.jsonExtract hq (htexts column (by simp [Call.texts]))
        (htexts label (by simp [Call.texts]))
  | jsonContains column value =>
      rw [Statement.apply, place]
      exact h.jsonContains hq (quiet_of_writesQuietly hc column List.mem_cons_self)
  | jsonCompare column path operator value =>
      rw [Statement.apply] at ha ⊢
      rw [place]
      exact h.jsonCompare hq (quiet_of_writesQuietly hc column List.mem_cons_self) ha
  | insert data =>
      rw [Statement.apply, Statement.insert] at ha ⊢
      rw [place]
      exact h.setMutation hq (forall_fst_of_map (quiet_of_writesQuietly hc)) ha
  | insertOrIgnore data =>
      rw [Statement.apply, Statement.insertOrIgnore] at ha ⊢
      rw [place]
      exact h.setMutation hq (forall_fst_of_map (quiet_of_writesQuietly hc)) ha
  | update data =>
      rw [Statement.apply, Statement.update] at ha ⊢
      rw [place]
      exact h.setMutation hq (forall_fst_of_map (quiet_of_writesQuietly hc)) ha
  | delete =>
      rw [Statement.apply, Statement.delete] at ha ⊢
      rw [place, (Statement.setKind_of_accepted ha).2.2]
      exact ⟨h.bindings, h.tight, h.quiet⟩
  | upsert data unique =>
      have htexts := quiet_of_writesQuietly hc
      rw [Statement.apply] at ha ⊢
      rw [place]
      exact h.upsert hq
        (forall_fst_of_map fun c hmem => htexts c (List.mem_append_left _ hmem))
        (fun c hmem => htexts c (List.mem_append_right _ hmem)) ha
  | upsertColumns columns =>
      rw [Statement.apply, place]
      exact h.upsertColumns hq (quiet_of_writesQuietly hc)
  | withRelations names =>
      rw [Statement.apply] at ha ⊢
      rw [place, (Statement.withRelations_of_accepted ha).2]
      generalize names.foldl Statement.addEager s.eager = eager
      exact ⟨h.bindings, h.tight, h.quiet⟩
  | withConstraint name calls =>
      rw [Statement.apply] at ha ⊢
      rw [place, (Statement.withConstraint_of_accepted ha).2]
      generalize [name].foldl Statement.addEager s.eager = eager
      exact ⟨h.bindings, h.tight, h.quiet⟩
  | _ =>
      rw [Statement.apply, place]
      exact ⟨h.bindings, h.tight, h.quiet⟩

/-- **A construction of quiet calls keeps values and placeholders together.** -/
theorem Sound.applyAll {s : Statement} {k : BoundClauses} (h : Sound s k)
    (hq : Delimiter s.quoting.quote) (calls : List Call)
    (hc : Call.areQuiet s.quoting.quote calls = true)
    (ha : (s.applyAll calls).buildError = none) :
    Sound (s.applyAll calls) (placeAll s k calls) := by
  cases calls with
  | nil => exact h
  | cons c rest =>
      rw [Call.areQuiet, Bool.and_eq_true] at hc
      rw [Statement.applyAll] at ha ⊢
      have haccepted := Statement.accepted_of_applyAll ha
      have hstep := h.apply hq c hc.1 haccepted
      have hquoting : (s.apply c).quoting = s.quoting :=
        congrArg (fun c : Context => c.config.quoting) (Statement.context_apply haccepted)
      rw [placeAll]
      rw [← hquoting] at hq hc
      exact hstep.applyAll hq rest hc.2 ha

end

end BoundClauses
end EntityQuery
