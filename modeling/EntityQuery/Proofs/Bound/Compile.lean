/-
# What quiet calls compile to

A construction of quiet calls that compiles binds by position: the placeholders
of its text stand where the calls put their values, and the values that go with
the text are these, in this order (`bindings_by_position`).  Compiling compares
nothing but two numbers, so this is not what it checks; it follows from the
invariant of `BoundClauses.Sound`.

It also follows that the two numbers are never different.  What compiling can
still refuse is told exactly (`compiles_iff`): a refused call, a missing table, or
a DELETE without a predicate.
-/

import EntityQuery.Proofs.Bound.Sound
import EntityQuery.Proofs.Built.Parts

namespace EntityQuery
namespace Statement

open Placeholder BoundClauses

section

variable {context : Context} {calls : List Call}

/-- The clauses of a construction of quiet calls are sound, as long as no call is refused. -/
theorem sound_build (hq : Delimiter context.config.quoting.quote)
    (hmark : Quiet context.config.quoting.quote context.config.softDeleteColumn)
    (hcalls : Call.areQuiet context.config.quoting.quote calls = true)
    (hs : (build context calls).buildError = none) :
    Sound (build context calls) (placeAll (new context) {} calls) :=
  (Sound.new hmark).applyAll hq calls hcalls hs

/-- The text that quiet calls emit is tight. -/
theorem tight_emitted (hq : Delimiter context.config.quoting.quote)
    (hmark : Quiet context.config.quoting.quote context.config.softDeleteColumn)
    (hcalls : Call.areQuiet context.config.quoting.quote calls = true)
    (hs : (build context calls).buildError = none) :
    (emitted context calls).Tight context.config.quoting.quote :=
  (sound_build hq hmark hcalls hs).tight_text_of_context (s := new context) hq
    (context_applyAll hs)

/-- The values that quiet calls emit are those of the statement. -/
theorem values_emitted (hq : Delimiter context.config.quoting.quote)
    (hmark : Quiet context.config.quoting.quote context.config.softDeleteColumn)
    (hcalls : Call.areQuiet context.config.quoting.quote calls = true)
    (hs : (build context calls).buildError = none) :
    (emitted context calls).values = (build context calls).values := by
  have hsound := sound_build hq hmark hcalls hs
  rw [emitted, values_text, ← hsound.bindings]
  rfl

end

/-- **Values are bound by position.**  What quiet calls compile to is the text they emit.  Its
placeholders stand where the calls put their values, its values are these in the same order, and
filling the placeholders from left to right writes every value where its call put it. -/
theorem bindings_by_position {context : Context} {calls : List Call} {query : Compiled}
    (hq : Delimiter context.config.quoting.quote)
    (hmark : Quiet context.config.quoting.quote context.config.softDeleteColumn)
    (hcalls : Call.areQuiet context.config.quoting.quote calls = true)
    (h : (build context calls).compile = .ok query) :
    query.sql = (emitted context calls).sql ∧
      positions context.config.quoting.quote query.sql =
        (emitted context calls).slots.map Prod.fst ∧
      query.bindings = (emitted context calls).slots.map Prod.snd ∧
      ∀ write : Value → String,
        fill context.config.quoting.quote (query.bindings.map write) query.sql =
          (emitted context calls).written write := by
  obtain ⟨hs, -, -, hvalues, -⟩ := compile_of_ok h
  have htight := tight_emitted hq hmark hcalls hs
  have hsql := sql_emitted h
  have hbindings : query.bindings = (emitted context calls).values := by
    rw [hvalues, values_emitted hq hmark hcalls hs]
  refine ⟨hsql.symm, ?_, ?_, fun write => ?_⟩
  · rw [← hsql]
    exact htight.positions hq
  · rw [hbindings, BoundText.map_snd_slots]
  · rw [← hsql, hbindings]
    exact htight.fill hq write

/-- A SELECT with a joined sub-statement, a group, and a ranking with a literal that holds a quote
and a question mark. -/
def layeredCalls : List Call :=
  [.orderByCase "d" [(.int 5, 1)] "it's ?" "asc",
    .group .and [.compare .and "b" "=" (.int 3), .compare .or "c" "<" (.int 4)],
    .joinSub .left [.fromTable "u", .compare .and "k" "=" (.int 2)] "v" "v.i" "=" "i",
    .fromTable "t"]

/-- What `layeredCalls` compile to. -/
def layeredQuery : Compiled where
  sql := "SELECT * FROM t LEFT JOIN (SELECT * FROM u WHERE `k` = ?) AS `v` ON `v`.`i` = `i` " ++
    "WHERE (`b` = ? OR `c` < ?) ORDER BY CASE `d` WHEN ? THEN 1 ELSE 'it''s ?' END ASC"
  bindings := [.int 2, .int 3, .int 4, .int 5]

set_option maxRecDepth 20000 in
theorem bindings_by_position_layered :
    (build {} layeredCalls).compile = .ok layeredQuery ∧
      positions '\x60' layeredQuery.sql = (emitted {} layeredCalls).slots.map Prod.fst ∧
      layeredQuery.bindings = (emitted {} layeredCalls).slots.map Prod.snd := by
  have hquery : (build {} layeredCalls).compile = .ok layeredQuery := rfl
  obtain ⟨-, hpositions, hbindings, -⟩ :=
    bindings_by_position (by decide) (by decide) (by decide) hquery
  exact ⟨hquery, hpositions, hbindings⟩

/-! ### When a statement compiles -/

/-- As many values are bound as the text of quiet calls has placeholders. -/
theorem count_of_text {context : Context} {calls : List Call} {sql : String}
    (hq : Delimiter context.config.quoting.quote)
    (hmark : Quiet context.config.quoting.quote context.config.softDeleteColumn)
    (hcalls : Call.areQuiet context.config.quoting.quote calls = true)
    (hs : (build context calls).buildError = none)
    (hsql : (build context calls).text = .ok sql) :
    count (build context calls).quoting.quote sql = (build context calls).values.length := by
  obtain ⟨hquoting, -⟩ := settings_build hs
  have hemitted : (emitted context calls).sql = sql :=
    sql_text (fragments_applyAll calls hs rfl) hsql
  rw [hquoting, ← hemitted, (tight_emitted hq hmark hcalls hs).count hq,
    values_emitted hq hmark hcalls hs]

/-- What compiling gives when no call was refused and there is a table. -/
theorem compile_of_text {s : Statement} (hs : s.buildError = none) (htable : s.table ≠ "")
    (hcount : ∀ sql, s.text = .ok sql → count s.quoting.quote sql = s.values.length) :
    s.compile = s.text.map fun sql => ⟨sql, s.values⟩ := by
  have hempty : ¬s.table.isEmpty = true := fun h => htable (String.isEmpty_iff.1 h)
  unfold compile
  rw [hs]
  simp only [if_neg hempty]
  cases hsql : s.text with
  | error e => rfl
  | ok sql =>
      simp only [if_pos (hcount sql hsql)]
      rfl

theorem compile_of_noTable {s : Statement} (hs : s.buildError = none) (htable : s.table = "") :
    s.compile = .error (.argument .noTable) := by
  unfold compile
  rw [hs]
  simp only [htable]
  rfl

/-- **When quiet calls compile.**  They compile if and only if no call was refused, there is a
table, and a DELETE has a predicate; and when they do not, the error is the one of the first of
these that fails.  The numbers of placeholders and of values are never found to differ, and no
column is found missing. -/
theorem compiles_iff {context : Context} {calls : List Call}
    (hq : Delimiter context.config.quoting.quote)
    (hmark : Quiet context.config.quoting.quote context.config.softDeleteColumn)
    (hcalls : Call.areQuiet context.config.quoting.quote calls = true) :
    ((∃ query, (build context calls).compile = .ok query) ↔
      (build context calls).buildError = none ∧ (build context calls).table ≠ "" ∧
        ((build context calls).kind = .delete →
          (build context calls).conditions ≠ [] ∨ (build context calls).jsonConditions ≠ [])) ∧
    ∀ e, (build context calls).compile = .error e →
      (build context calls).buildError = some e ∨
        (build context calls).buildError = none ∧
          (e = .argument .noTable ∨
            e = .state (.unfilteredDelete (build context calls).table)) := by
  generalize hbuild : build context calls = s
  cases hs : s.buildError with
  | some e =>
      have hcompile : s.compile = .error e := by
        unfold compile
        rw [hs]
      rw [hcompile]
      exact ⟨⟨fun h => (nomatch h), fun h => (nomatch h.1)⟩,
        fun f h => .inl (congrArg some (Except.error.inj h))⟩
  | none =>
      rw [← hbuild] at hs
      have hparts := hasParts_build hs
      have hcount := fun sql (h : (build context calls).text = .ok sql) =>
        count_of_text hq hmark hcalls hs h
      rw [hbuild] at hs hparts hcount
      by_cases htable : s.table = ""
      · rw [compile_of_noTable hs htable]
        exact ⟨⟨fun h => (nomatch h), fun h => absurd htable h.2.1⟩,
          fun f h => .inr ⟨rfl, .inl (Except.error.inj h).symm⟩⟩
      · rw [compile_of_text hs htable hcount]
        rcases text_of_hasParts hparts with ⟨sql, hsql, hdelete⟩ | ⟨hkind, hc, hj, hsql⟩
        · rw [hsql]
          exact ⟨⟨fun _ => ⟨rfl, htable, hdelete⟩, fun _ => ⟨_, rfl⟩⟩, fun f h => (nomatch h)⟩
        · rw [hsql]
          refine ⟨⟨fun h => (nomatch h), fun h => ?_⟩,
            fun f h => .inr ⟨rfl, .inr (Except.error.inj h).symm⟩⟩
          rcases h.2.2 hkind with h | h
          · exact absurd hc h
          · exact absurd hj h

theorem compiles_iff_layered :
    (∃ query, (build {} layeredCalls).compile = .ok query) ∧
      (build {} layeredCalls).buildError = none ∧ (build {} layeredCalls).table ≠ "" := by
  have hs : (build {} layeredCalls).buildError = none := rfl
  have htable : (build {} layeredCalls).table ≠ "" := by decide
  have hkind : (build {} layeredCalls).kind = .select := rfl
  have hiff : (∃ query, (build {} layeredCalls).compile = .ok query) ↔ _ :=
    (compiles_iff (by decide) (by decide) (by decide)).1
  rw [hkind] at hiff
  exact ⟨hiff.2 ⟨hs, htable, fun h => nomatch h⟩, hs, htable⟩

end Statement
end EntityQuery
