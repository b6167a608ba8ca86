/-
# Quiet calls

A call is quiet if every text that it writes into the statement is closed and
free of placeholders (`Call.texts`, `Call.isQuiet`).  A join of its own text may
hold placeholders, as many as there are values for it, and the calls of groups
and of sub-statements are quiet in turn.  The texts that are bound as values, and
the literal of a ranking, may be anything.

A window writes a quiet text if it is given some (`quiet_window`).
-/

import EntityQuery.Proofs.Quiet.Identifier
import EntityQuery.Statement.Call

namespace EntityQuery

/-- The texts that a window function writes. -/
def WindowFunction.texts : WindowFunction → List String
  | .rowNumber => []
  | .rank => []
  | .denseRank => []
  | .sum column => [column]
  | .avg column => [column]
  | .min column => [column]
  | .max column => [column]
  | .raw expression => [expression]

/-- The texts that a window writes. -/
def Window.texts (w : Window) : List String :=
  w.partitionBy ++ w.orderBy.map Prod.fst

namespace Call

open Placeholder

/-- The texts that a call by itself writes into the statement, apart from those that hold
placeholders. -/
def texts : Call → List String
  | .fromTable table => [table]
  | .model c => [c.table]
  | .select columns => columns
  | .addSelect columns => columns
  | .compare _ column _ _ => [column]
  | .compareSub _ column _ _ => [column]
  | .inList _ _ column _ => [column]
  | .nullCheck _ _ column => [column]
  | .join _ table left operator right => [table, left, operator, right]
  | .joinSub _ _ label left operator right => [label, left, operator, right]
  | .groupBy columns => columns
  | .having column _ _ => [column]
  | .orderBy column _ => [column]
  | .orderByRaw sql => [sql]
  | .orderByCase column _ _ _ => [column]
  | .unionRaw sql _ => [sql]
  | .window function w label => function.texts ++ w.texts ++ [label]
  | .jsonExtract column _ label => [column, label]
  | .jsonContains column _ => [column]
  | .jsonCompare column _ _ _ => [column]
  | .insert data => data.map Prod.fst
  | .insertOrIgnore data => data.map Prod.fst
  | .update data => data.map Prod.fst
  | .upsert data unique => data.map Prod.fst ++ unique
  | .upsertColumns columns => columns
  | _ => []

/-- Whether the texts that a call by itself writes are quiet. -/
def writesQuietly (quote : Char) (c : Call) : Bool :=
  c.texts.all fun text => decide (Quiet quote text)

mutual

/-- Whether a call, with the calls in it, is quiet. -/
def isQuiet (quote : Char) : Call → Bool
  | .group _ calls => areQuiet quote calls
  | .compareSub connector column operator sub =>
    writesQuietly quote (.compareSub connector column operator sub) && areQuiet quote sub
  | .joinSub kind sub label left operator right =>
    writesQuietly quote (.joinSub kind sub label left operator right) && areQuiet quote sub
  | .joinRaw sql values => decide (Closed quote sql ∧ count quote sql = values.length)
  | .union sub _ => areQuiet quote sub
  | call => call.writesQuietly quote

/-- Whether all calls of a list are quiet. -/
def areQuiet (quote : Char) : List Call → Bool
  | [] => true
  | call :: rest => isQuiet quote call && areQuiet quote rest

end

end Call

namespace Placeholder

variable {q : Quoting}

theorem quiet_of_writesQuietly {quote : Char} {c : Call} (h : c.writesQuietly quote = true) :
    ∀ text ∈ c.texts, Quiet quote text := by
  intro text ht
  exact of_decide_eq_true (List.all_eq_true.1 h text ht)

/-! ### Rows of texts -/

theorem quiet_eachAfter {quote : Char} {separator : String} {items : List String}
    (hs : Quiet quote separator) (h : ∀ item ∈ items, Quiet quote item) :
    Quiet quote (Text.eachAfter separator items) := by
  induction items with
  | nil => exact ⟨rfl, rfl⟩
  | cons item items ih =>
      have hrest := ih fun other hother => h other (List.mem_cons_of_mem _ hother)
      exact (hs.append (h item List.mem_cons_self)).append hrest

theorem quiet_joinWith {quote : Char} {separator : String} {items : List String}
    (hs : Quiet quote separator) (h : ∀ item ∈ items, Quiet quote item) :
    Quiet quote (Text.joinWith separator items) := by
  cases items with
  | nil => exact ⟨rfl, rfl⟩
  | cons item items =>
      have hrest := quiet_eachAfter hs fun other hother => h other (List.mem_cons_of_mem _ hother)
      exact (h item List.mem_cons_self).append hrest

theorem quiet_joinCondition (hq : Delimiter q.quote) {left operator right : String}
    (hl : Quiet q.quote left) (ho : Quiet q.quote operator) (hr : Quiet q.quote right) :
    Quiet q.quote (Statement.joinCondition q left operator right) := by
  have hon : Quiet q.quote " ON " := quiet_of_ordinary hq (by decide)
  have hblank : Quiet q.quote " " := quiet_of_ordinary hq (by decide)
  have hleft := hon.append ((hl.trim hq).column hq)
  exact (((hleft.append hblank).append (ho.trim hq)).append hblank).append ((hr.trim hq).column hq)

/-! ### Windows -/

theorem quiet_function (hq : Delimiter q.quote) {f : WindowFunction}
    (h : ∀ text ∈ f.texts, Quiet q.quote text) : Quiet q.quote (f.sql q) := by
  have hplain : ∀ text : String, text.toList.all isOrdinary = true → Quiet q.quote text :=
    fun text ht => quiet_of_ordinary hq ht
  have hcall : ∀ name column : String, name.toList.all isOrdinary = true → Quiet q.quote column →
      Quiet q.quote (name ++ q.column (Text.trim column) ++ ")") := by
    intro name column hname hcolumn
    exact ((hplain name hname).append ((hcolumn.trim hq).column hq)).append (hplain ")" (by decide))
  cases f with
  | rowNumber => exact hplain "ROW_NUMBER()" (by decide)
  | rank => exact hplain "RANK()" (by decide)
  | denseRank => exact hplain "DENSE_RANK()" (by decide)
  | sum column => exact hcall _ _ (by decide) (h column List.mem_cons_self)
  | avg column => exact hcall _ _ (by decide) (h column List.mem_cons_self)
  | min column => exact hcall _ _ (by decide) (h column List.mem_cons_self)
  | max column => exact hcall _ _ (by decide) (h column List.mem_cons_self)
  | raw expression => exact (h expression List.mem_cons_self).trim hq

theorem quiet_orderItems (hq : Delimiter q.quote) {items : List (String × String)}
    {sqls : List String} (h : ∀ item ∈ items, Quiet q.quote item.1)
    (hsqls : Window.orderItems q items = .ok sqls) : ∀ sql ∈ sqls, Quiet q.quote sql := by
  induction items generalizing sqls with
  | nil =>
      obtain rfl := Except.ok.inj hsqls
      exact fun _ hnil => absurd hnil List.not_mem_nil
  | cons item items ih =>
      rw [Window.orderItems] at hsqls
      split at hsqls
      · exact absurd hsqls (by simp)
      · rename_i first hfirst
        split at hsqls
        · exact absurd hsqls (by simp)
        · rename_i rest hrest
          obtain rfl := Except.ok.inj hsqls
          have hitem : Quiet q.quote first := by
            unfold Window.orderItem at hfirst
            split at hfirst
            · rename_i d hd
              obtain rfl := Except.ok.inj hfirst
              have hblank : Quiet q.quote " " := quiet_of_ordinary hq (by decide)
              have hdirection : Quiet q.quote d.sql := by
                cases d <;> exact quiet_of_ordinary hq (by decide)
              exact (((h item List.mem_cons_self).column hq).append hblank).append hdirection
            · exact absurd hfirst (by simp)
          intro sql hsql
          rcases List.mem_cons.1 hsql with rfl | hsql
          · exact hitem
          · exact ih (fun other hother => h other (List.mem_cons_of_mem _ hother)) hrest sql hsql

theorem quiet_over (hq : Delimiter q.quote) {w : Window} {sql : String}
    (h : ∀ text ∈ w.texts, Quiet q.quote text) (hsql : w.sql q = .ok sql) : Quiet q.quote sql := by
  have hplain : ∀ text : String, text.toList.all isOrdinary = true → Quiet q.quote text :=
    fun text ht => quiet_of_ordinary hq ht
  unfold Window.sql at hsql
  split at hsql
  · exact absurd hsql (by simp)
  · rename_i items hitems
    obtain rfl := Except.ok.inj hsql
    have hitem := quiet_orderItems hq
      (fun item hitem => h item.1 (List.mem_append_right _ (List.mem_map_of_mem hitem))) hitems
    have hcolumn : ∀ c ∈ w.partitionBy.map q.column, Quiet q.quote c := by
      intro c hc
      obtain ⟨name, hname, rfl⟩ := List.mem_map.1 hc
      exact (h name (List.mem_append_left _ hname)).column hq
    have hcomma := hplain ", " (by decide)
    refine ((hplain "OVER (" (by decide)).append
      (quiet_joinWith (hplain " " (by decide)) ?_)).append (hplain ")" (by decide))
    intro part hpart
    rcases List.mem_append.1 hpart with hpart | hpart
    · split at hpart
      · exact absurd hpart List.not_mem_nil
      · rw [List.mem_singleton.1 hpart]
        exact (hplain "PARTITION BY " (by decide)).append (quiet_joinWith hcomma hcolumn)
    · split at hpart
      · exact absurd hpart List.not_mem_nil
      · rw [List.mem_singleton.1 hpart]
        exact (hplain "ORDER BY " (by decide)).append (quiet_joinWith hcomma hitem)

/-- **A window function over quiet texts is written quietly.** -/
theorem quiet_window (hq : Delimiter q.quote) {f : WindowFunction} {w : Window}
    {label sql : String} (hf : ∀ text ∈ f.texts, Quiet q.quote text)
    (hw : ∀ text ∈ w.texts, Quiet q.quote text) (hl : Quiet q.quote label)
    (hsql : w.column q (f.sql q) (Text.trim label) = .ok sql) : Quiet q.quote sql := by
  unfold Window.column at hsql
  split at hsql
  · exact absurd hsql (by simp)
  · rename_i rows hrows
    obtain rfl := Except.ok.inj hsql
    have hblank : Quiet q.quote " " := quiet_of_ordinary hq (by decide)
    have has : Quiet q.quote " AS " := quiet_of_ordinary hq (by decide)
    exact ((((quiet_function hq hf).append hblank).append (quiet_over hq hw hrows)).append
      has).append ((hl.trim hq).label hq)

end Placeholder
end EntityQuery
