/-
# The text of a WHERE clause means what was built

The conditions of a statement are a tree, and the text after WHERE is flat.  Reading
the text gives the truth value of the tree (`where_text_means_conditions`): no
connector is lost or written twice, a BETWEEN takes no AND for its own that joins
two conditions, and parentheses stand wherever an OR would otherwise take in what
follows it, be it a JSON predicate or the test for rows that are not deleted.

The test is added to a SELECT behind all of its conditions
(`holdsList_selectConditions`), in parentheses if an OR stands between them, and
only if they do not have it yet.
-/

import EntityQuery.Proofs.Where.Plain

namespace EntityQuery

open Placeholder
open Letter (textOf)

/-! ### The test for rows that are not deleted -/

namespace BoundCondition

variable {q : Quoting} {satisfies : BoundText → Bool}

theorem levelTail_append (l : Level) (cs ds : List BoundCondition) :
    levelTail q satisfies l (cs ++ ds) =
      levelTail q satisfies (levelTail q satisfies l cs) ds := by
  induction cs generalizing l with
  | nil => rfl
  | cons c cs ih => rw [List.cons_append, levelTail, ih, levelTail]

/-- A condition that follows with AND where no OR stands between the others holds together with
them. -/
theorem holdsList_append_and {cs : List BoundCondition} {d : BoundCondition}
    (hd : d.connector = .and) (h : Condition.hasTopLevelOr (conditions cs) = false) :
    holdsList q satisfies (cs ++ [d]) = (holdsList q satisfies cs && d.holds q satisfies) := by
  have hcomplete := complete_level q satisfies h
  cases cs with
  | nil => rfl
  | cons first rest =>
      rw [level] at hcomplete
      rw [List.cons_append, holdsList, holdsList, level, level, levelTail_append, levelTail, hd,
        levelTail]
      generalize levelTail q satisfies (Level.meet {} (holds q satisfies first)) rest = l
        at hcomplete ⊢
      rw [Level.after, Level.value, Level.meet, Level.value, hcomplete, Bool.false_or,
        Bool.false_or]

end BoundCondition

/-- Whether compiling the SELECT adds the test for rows that are not deleted to its conditions: it
is to filter, and its conditions do not have the test yet. -/
def Statement.addsNotDeleted (s : Statement) : Bool :=
  s.filtersDeleted &&
    !s.conditions.any (Condition.isNullCheck s.quoting s.softDeleteColumn false .and)

/-- The conditions that stand after WHERE. -/
def Statement.whereConditions (s : Statement) : List Condition :=
  if s.kind = .select then s.selectConditions else s.conditions

namespace BoundClauses

variable {s : Statement} {k : BoundClauses}

/-- The conditions that stand after WHERE, with their values. -/
def whereConditions (k : BoundClauses) (s : Statement) : List BoundCondition :=
  if s.kind = .select then k.selectConditions s else k.conditions

/-- The letters after WHERE, if there is a predicate. -/
def whereLetters (k : BoundClauses) (s : Statement) : Option (List Letter) :=
  whereLetters? s.quoting (k.whereConditions s) k.jsonConditions

theorem holdsList_selectConditions (h : s.fragments = k.fragments) (satisfies : BoundText → Bool) :
    BoundCondition.holdsList s.quoting satisfies (k.selectConditions s) =
      (BoundCondition.holdsList s.quoting satisfies k.conditions &&
        (!s.addsNotDeleted ||
          satisfies ((BoundCondition.notDeleted s.softDeleteColumn).text s.quoting))) := by
  have hconditions := conditions_of_fragments h
  unfold selectConditions Statement.addsNotDeleted
  simp only
  rw [hconditions]
  cases s.filtersDeleted with
  | false => rw [Bool.not_false, if_pos rfl, Bool.false_and, Bool.not_false, Bool.true_or,
      Bool.and_true]
  | true =>
      rw [Bool.not_true, if_neg Bool.false_ne_true, Bool.true_and, Bool.not_not]
      split
      · rename_i hcheck
        rw [hcheck, Bool.true_or, Bool.and_true]
      · rename_i hcheck
        rw [Bool.not_eq_true] at hcheck
        rw [hcheck, Bool.false_or]
        split
        · -- In parentheses the conditions are one, so no OR stands beside the test.
          have hgroup : BoundCondition.holdsList s.quoting satisfies
              ([.group .and k.conditions] ++ [.notDeleted s.softDeleteColumn]) = _ :=
            BoundCondition.holdsList_append_and rfl rfl
          exact hgroup
        · rename_i hor
          rw [Bool.not_eq_true] at hor
          exact BoundCondition.holdsList_append_and rfl hor

theorem selectConditions_eq_nil (h : s.fragments = k.fragments) :
    k.selectConditions s = [] ↔ k.conditions = [] ∧ s.addsNotDeleted = false := by
  have hconditions := conditions_of_fragments h
  unfold selectConditions Statement.addsNotDeleted
  simp only
  rw [hconditions]
  cases s.filtersDeleted with
  | false => simp
  | true =>
      rw [Bool.not_true, if_neg Bool.false_ne_true, Bool.true_and, Bool.not_eq_false']
      split
      · rename_i hcheck
        exact ⟨fun hnil => ⟨hnil, hcheck⟩, fun hnil => hnil.1⟩
      · rename_i hcheck
        refine ⟨fun hnil => ?_, fun hnil => absurd hnil.2 hcheck⟩
        split at hnil
        · exact absurd hnil (List.cons_ne_nil _ _)
        · exact absurd hnil (List.append_ne_nil_of_right_ne_nil _ (List.cons_ne_nil _ _))

/-- The letters after WHERE spell the text that is rendered there. -/
theorem sql_whereLetters (h : s.fragments = k.fragments) :
    (k.whereLetters s).map (fun letters => BoundText.sql (textOf letters)) =
      s.whereText? s.whereConditions := by
  have hjson : s.jsonConditions = k.jsonConditions.map BoundText.sql :=
    congrArg Fragments.jsonConditions h
  have hconditions : BoundCondition.conditions (k.whereConditions s) = s.whereConditions := by
    unfold whereConditions Statement.whereConditions
    split
    · exact conditions_selectConditions h
    · exact (conditions_of_fragments h).symm
  have htext := sql_whereText? s.quoting s (k.whereConditions s) k.jsonConditions rfl hjson
  rw [hconditions, ← map_textOf_whereLetters?, Option.map_map] at htext
  exact htext

/-- The text after WHERE stands in the text of a statement whose kind has a WHERE clause. -/
theorem exists_whereClause (hkind : s.kind ∈ [Kind.select, .update, .delete]) :
    ∃ head tail, k.text s =
      head ++ .clause " WHERE " ((k.whereLetters s).map textOf) ++ tail := by
  have hclause : BoundText.clause " WHERE " ((k.whereLetters s).map textOf) =
      k.whereClause s.quoting (k.whereConditions s) := by
    rw [whereLetters, map_textOf_whereLetters?, whereClause]
  simp only [List.mem_cons, List.not_mem_nil, or_false] at hkind
  rw [hclause, whereConditions, BoundClauses.text]
  rcases hkind with hkind | hkind | hkind
  · rw [hkind, if_pos rfl]
    exact k.exists_selectText_eq s
  · rw [hkind, if_neg (by decide)]
    exact ⟨_, [], (List.append_nil _).symm⟩
  · rw [hkind, if_neg (by decide)]
    exact ⟨_, [], (List.append_nil _).symm⟩

/-- The conditions after WHERE are legible if those that were built are. -/
theorem AreLegible.whereConditions {q : Quoting} (h : k.AreLegible q)
    (hmark : ColumnRef.IsLegible ⟨s.softDeleteColumn, true⟩) :
    ∀ c ∈ k.whereConditions s, c.IsLegible := by
  have htest : (BoundCondition.notDeleted s.softDeleteColumn).IsLegible :=
    isLegible_nullCheck hmark false
  unfold BoundClauses.whereConditions
  split
  · unfold selectConditions
    simp only
    split
    · exact h.conditions
    · split
      · exact h.conditions
      · split
        · rename_i hor
          have hne : k.conditions ≠ [] := by
            intro hnil
            rw [hnil] at hor
            exact Bool.false_ne_true hor
          intro c hc
          rcases List.mem_cons.1 hc with rfl | hc
          · exact .group hne h.conditions
          · rw [List.mem_singleton.1 hc]
            exact htest
        · intro c hc
          rcases List.mem_append.1 hc with hc | hc
          · exact h.conditions c hc
          · rw [List.mem_singleton.1 hc]
            exact htest
  · exact h.conditions

theorem holdsList_whereConditions (h : s.fragments = k.fragments) (satisfies : BoundText → Bool) :
    BoundCondition.holdsList s.quoting satisfies (k.whereConditions s) =
      (BoundCondition.holdsList s.quoting satisfies k.conditions &&
        (!(s.kind == .select && s.addsNotDeleted) ||
          satisfies ((BoundCondition.notDeleted s.softDeleteColumn).text s.quoting))) := by
  unfold whereConditions
  split
  · rename_i hkind
    rw [hkind, beq_self_eq_true, Bool.true_and, holdsList_selectConditions h]
  · rename_i hkind
    rw [beq_eq_false_iff_ne.2 hkind, Bool.false_and, Bool.not_false, Bool.true_or, Bool.and_true]

theorem whereLetters_eq_none (h : s.fragments = k.fragments) :
    k.whereLetters s = none ↔ k.conditions = [] ∧ k.jsonConditions = [] ∧
      (s.kind == .select && s.addsNotDeleted) = false := by
  have hconditions : k.whereConditions s = [] ↔
      k.conditions = [] ∧ (s.kind == .select && s.addsNotDeleted) = false := by
    unfold whereConditions
    split
    · rename_i hkind
      rw [hkind, beq_self_eq_true, Bool.true_and, selectConditions_eq_nil h]
    · rename_i hkind
      rw [beq_eq_false_iff_ne.2 hkind, Bool.false_and]
      exact (and_iff_left rfl).symm
  unfold whereLetters whereLetters?
  split
  · rename_i hempty
    rw [Bool.and_eq_true, List.isEmpty_iff, List.isEmpty_iff, hconditions] at hempty
    exact ⟨fun _ => ⟨hempty.1.1, hempty.2, hempty.1.2⟩, fun _ => rfl⟩
  · rename_i hempty
    rw [Bool.and_eq_true, List.isEmpty_iff, List.isEmpty_iff, hconditions] at hempty
    exact ⟨nofun, fun hnone => absurd ⟨⟨hnone.1, hnone.2.2⟩, hnone.2.1⟩ hempty⟩

end BoundClauses

namespace Statement

open BoundClauses

/-- **The text of a WHERE clause means what was built.**  Let the columns that a construction
compares be plain identifiers, and its mark of deletion be one that is no keyword.  The text that a
statement of it compiles to has a WHERE clause unless nothing was asked for.  Under every choice of
the predicates that are satisfied, the truth value of the text after WHERE is that of the
conditions, AND binding tighter than OR and each group being a unit, of all JSON predicates, and,
where compiling a SELECT adds it, of the test for rows that are not deleted. -/
theorem where_text_means_conditions {context : Context} {calls : List Call} {query : Compiled}
    (hq : Delimiter context.config.quoting.quote)
    (hmark : ColumnRef.IsLegible ⟨context.config.softDeleteColumn, true⟩)
    (hnames : Call.namePlainly calls = true)
    (h : (build context calls).compile = .ok query) :
    let s := build context calls
    let k := placeAll (.new context) {} calls
    let q := context.config.quoting
    let addsNotDeleted := s.kind == .select && s.addsNotDeleted
    (emitted context calls).sql = query.sql ∧
    BoundCondition.conditions k.conditions = s.conditions ∧
    k.jsonConditions.map BoundText.sql = s.jsonConditions ∧
    (k.whereLetters s).map (fun letters => (textOf letters).sql) =
      s.whereText? s.whereConditions ∧
    (s.kind ∈ [Kind.select, .update, .delete] → ∃ head tail, emitted context calls =
      head ++ .clause " WHERE " ((k.whereLetters s).map textOf) ++ tail) ∧
    (k.whereLetters s = none ↔
      k.conditions = [] ∧ k.jsonConditions = [] ∧ addsNotDeleted = false) ∧
    ∀ letters ∈ k.whereLetters s, ∀ satisfies : BoundText → Bool,
      Letter.value? q.quote satisfies letters =
        some (BoundCondition.holdsList q satisfies k.conditions &&
          k.jsonConditions.all satisfies &&
          (!addsNotDeleted ||
            satisfies ((BoundCondition.notDeleted context.config.softDeleteColumn).text q))) := by
  intro s k q addsNotDeleted
  obtain ⟨haccepted, -, -, -, -⟩ := compile_of_ok h
  have hfragments : s.fragments = k.fragments := fragments_applyAll calls haccepted rfl
  obtain ⟨hquoting, hcolumn⟩ : s.quoting = q ∧
      s.softDeleteColumn = context.config.softDeleteColumn := settings_build haccepted
  have hlegible : k.AreLegible q := legible_placeAll calls haccepted hq hmark hnames .empty
  refine ⟨sql_emitted h, (conditions_of_fragments hfragments).symm,
    (congrArg Fragments.jsonConditions hfragments).symm, sql_whereLetters hfragments,
    exists_whereClause, whereLetters_eq_none hfragments, fun letters hletters satisfies => ?_⟩
  rw [← hcolumn] at hmark
  have hholds := holdsList_whereConditions hfragments satisfies
  rw [whereLetters, hquoting] at hletters
  rw [hquoting, hcolumn] at hholds
  rw [value?_whereLetters hq (hlegible.whereConditions hmark) hlegible.json hletters, hholds,
    Bool.and_right_comm]

/-- A SELECT of a class with marks of deletion: an OR between its conditions, a group with a
BETWEEN and an OR of its own, a sub-query, and a JSON predicate. -/
def searchedUsers : List Call :=
  [.model ⟨"app::models::User", "users", "id", true, []⟩, .compare .and "id" "=" (.int 1),
    .group .or
      [.compare .and "age" "between" (.array [.int 18, .int 30]), .nullCheck .or false "email"],
    .compareSub .and "team" "in" [.fromTable "teams", .select ["id"]],
    .jsonContains "tags" (.string "x")]

set_option maxRecDepth 20000 in
theorem where_text_means_conditions_searched :
    let k := placeAll (.new {}) {} searchedUsers
    (k.whereLetters (build {} searchedUsers)).map (fun letters => (textOf letters).sql) =
        some ("(\x60id\x60 = ? OR (\x60age\x60 BETWEEN ? AND ? OR \x60email\x60 IS NULL) AND " ++
          "\x60team\x60 IN (SELECT \x60id\x60 FROM teams)) AND deleted_at IS NULL AND " ++
          "JSON_CONTAINS(\x60tags\x60, ?)") ∧
      ∀ letters ∈ k.whereLetters (build {} searchedUsers), ∀ satisfies : BoundText → Bool,
        Letter.value? '\x60' satisfies letters =
          some (BoundCondition.holdsList {} satisfies k.conditions &&
            k.jsonConditions.all satisfies &&
            satisfies ((BoundCondition.notDeleted "deleted_at").text {})) := by
  have hcompile : (build {} searchedUsers).compile = .ok ⟨
      "SELECT * FROM users WHERE (\x60id\x60 = ? OR (\x60age\x60 BETWEEN ? AND ? OR " ++
        "\x60email\x60 IS NULL) AND \x60team\x60 IN (SELECT \x60id\x60 FROM teams)) AND " ++
        "deleted_at IS NULL AND JSON_CONTAINS(\x60tags\x60, ?)",
      [.int 1, .int 18, .int 30, .text "\"x\""]⟩ := rfl
  obtain ⟨-, -, -, htext, -, -, hvalue⟩ :=
    where_text_means_conditions (by decide) ⟨by decide, fun _ => rfl⟩ (by decide) hcompile
  exact ⟨htext, hvalue⟩

end Statement
end EntityQuery
