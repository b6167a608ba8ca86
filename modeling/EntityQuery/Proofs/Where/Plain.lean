/-
# Constructions with plain columns

The columns that a construction compares may be any texts: whatever is no plain
identifier is written as it stands, an OR or a parenthesis included.  A
construction names its columns plainly if all of them are plain identifiers
(`Call.namesPlainly`).  Then every condition and every JSON predicate it adds is
legible (`legible_place`), and so are all of them at its end (`legible_placeAll`).

Only calls that are accepted count: a BETWEEN without two bounds and a group
without conditions would not be legible.
-/

import EntityQuery.Proofs.Where.Tokens

namespace EntityQuery

open Placeholder
open Letter (ofBound)

/-! ### Plain names -/

namespace Text

theorem isBlank_of_isIdentifierPart {c : Char} (h : isIdentifierPart c = true) :
    isBlank c = false := by
  have hrange : c.toNat = 0x2E ∨ (0x30 ≤ c.toNat ∧ c.toNat ≤ 0x7A) := by
    delta isIdentifierPart Char.isAlphanum Char.isAlpha Char.isUpper Char.isLower Char.isDigit at h
    simp only [Bool.or_eq_true, Bool.and_eq_true, decide_eq_true_eq, beq_iff_eq,
      UInt32.le_iff_toNat_le] at h
    rcases h with (((h | h) | h) | rfl) | rfl
    · exact .inr ⟨Nat.le_trans (by decide) h.1, Nat.le_trans h.2 (by decide)⟩
    · exact .inr ⟨Nat.le_trans (by decide) h.1, Nat.le_trans h.2 (by decide)⟩
    · exact .inr ⟨Nat.le_trans (by decide) h.1, Nat.le_trans h.2 (by decide)⟩
    · exact .inr (by decide)
    · exact .inl (by decide)
  unfold isBlank
  simp only [Bool.or_eq_false_iff, Bool.and_eq_false_iff, decide_eq_false_iff_not,
    beq_eq_false_iff_ne]
  omega

/-- There are no blanks around a plain identifier. -/
theorem trim_of_isPlain {name : String} (h : isPlain name = true) : trim name = name := by
  have hblanks : ∀ cs : List Char, (∀ c ∈ cs, isIdentifierPart c = true) →
      cs.dropWhile isBlank = cs := by
    intro cs hcs
    cases cs with
    | nil => rfl
    | cons c cs =>
        rw [List.dropWhile_cons, isBlank_of_isIdentifierPart (hcs c List.mem_cons_self),
          if_neg Bool.false_ne_true]
  have hparts := isIdentifierPart_of_isPlain h
  rw [trim, trimStart, hblanks _ hparts, trimEnd,
    hblanks _ fun c hc => hparts c (List.mem_reverse.1 hc), List.reverse_reverse,
    String.ofList_toList]

end Text

mutual

/-- Whether the columns that a call compares, also in groups, are plain identifiers. -/
def Call.namesPlainly : Call → Bool
  | .compare _ column _ _ => isPlain (Text.trim column)
  | .group _ calls => Call.namePlainly calls
  | .compareSub _ column _ _ => isPlain (Text.trim column)
  | .inList _ _ column _ => isPlain (Text.trim column)
  | .nullCheck _ _ column => isPlain (Text.trim column)
  | .jsonContains column _ => isPlain (Text.trim column)
  | .jsonCompare column _ _ _ => isPlain (Text.trim column)
  | _ => true

/-- Whether the columns that the calls of a list compare are plain identifiers. -/
def Call.namePlainly : List Call → Bool
  | [] => true
  | call :: rest => call.namesPlainly && Call.namePlainly rest

end

theorem ColumnRef.IsLegible.of_isPlain {name : String} (h : isPlain name = true) :
    ColumnRef.IsLegible ⟨name, false⟩ :=
  ⟨h, fun hraw => absurd hraw Bool.false_ne_true⟩

namespace BoundClauses

/-- Every condition and every JSON predicate is read as it is meant. -/
structure AreLegible (q : Quoting) (k : BoundClauses) : Prop where
  conditions : ∀ c ∈ k.conditions, c.IsLegible
  json : ∀ t ∈ k.jsonConditions, Scanner.Legible q.quote (ofBound t)

variable {s : Statement} {k : BoundClauses} {q : Quoting}

theorem AreLegible.empty : AreLegible q {} :=
  ⟨fun _ hc => absurd hc List.not_mem_nil, fun _ ht => absurd ht List.not_mem_nil⟩

theorem AreLegible.addCondition (h : k.AreLegible q) {c : BoundCondition} (hc : c.IsLegible) :
    (k.addCondition c).AreLegible q := by
  refine ⟨fun d hd => ?_, h.json⟩
  rcases List.mem_append.1 hd with hd | hd
  · exact h.conditions d hd
  · rw [List.mem_singleton.1 hd]
    exact hc

theorem AreLegible.addJson (h : k.AreLegible q) {t : BoundText}
    (ht : Scanner.Legible q.quote (ofBound t)) : (k.addJson t).AreLegible q := by
  refine ⟨h.conditions, fun u hu => ?_⟩
  rcases List.mem_append.1 hu with hu | hu
  · exact h.json u hu
  · rw [List.mem_singleton.1 hu]
    exact ht

/-! ### One call -/

theorem AreLegible.compare (h : k.AreLegible q) {connector : Connector} {column operator : String}
    {value : Value} (ha : (s.compare connector column operator value).buildError = none)
    (hcolumn : isPlain (Text.trim column) = true) :
    (k.compare connector column operator value).AreLegible q := by
  obtain ⟨-, -, op, operand, values, hop, hoperand, -⟩ := Statement.compare_of_accepted ha
  rw [BoundClauses.compare, hop]
  exact h.addCondition
    (.compare (.of_isPlain hcolumn) (BoundOperand.fits_ofValue hoperand))

theorem AreLegible.addGroup (h : k.AreLegible q) (connector : Connector) {g : BoundClauses}
    (hg : g.AreLegible q) : (k.addGroup connector g).AreLegible q := by
  unfold BoundClauses.addGroup
  split
  · exact h
  · rename_i hempty
    have hne : g.conditions ≠ [] := fun hnil => hempty (List.isEmpty_iff.2 hnil)
    exact h.addCondition (.group hne hg.conditions)

theorem AreLegible.compareSub (h : k.AreLegible q) {connector : Connector}
    {column operator : String} {sub : Statement} (query : BoundText)
    (ha : (s.compareSub connector column operator sub).buildError = none)
    (hcolumn : isPlain (Text.trim column) = true) :
    (k.compareSub connector column operator query).AreLegible q := by
  obtain ⟨-, -, op, -, hop, hspecial, -, -, -⟩ := Statement.compareSub_of_accepted ha
  rw [BoundClauses.compareSub, hop]
  exact h.addCondition
    (.subquery (.of_isPlain hcolumn) fun hbetween => hspecial (.inl hbetween))

theorem isLegible_nullCheck {connector : Connector} {name : String} {raw : Bool}
    (h : ColumnRef.IsLegible ⟨name, raw⟩) (notNull : Bool) :
    (BoundCondition.compare connector ⟨name, raw⟩ (Condition.nullOperator notNull)
      .null).IsLegible := by
  refine .compare h ?_
  cases notNull with
  | false => exact .inl rfl
  | true => exact .inr rfl

theorem isLegible_putNullCheck {name : String} {raw : Bool} (h : ColumnRef.IsLegible ⟨name, raw⟩)
    (notNull : Bool) (connector : Connector) {cs : List BoundCondition}
    (hcs : ∀ c ∈ cs, c.IsLegible) :
    ∀ c ∈ putNullCheck q name raw notNull connector cs, c.IsLegible := by
  unfold putNullCheck
  split
  · exact hcs
  · intro c hc
    rcases List.mem_append.1 hc with hc | hc
    · exact hcs c hc
    · rw [List.mem_singleton.1 hc]
      exact isLegible_nullCheck h notNull

/-- A test of a plain column is legible: it is written without quotes only if it is the mark. -/
theorem AreLegible.nullCheck (h : k.AreLegible q) (hq : Delimiter s.quoting.quote)
    (hmark : ColumnRef.IsLegible ⟨s.softDeleteColumn, true⟩) (connector : Connector)
    (notNull : Bool) {column : String} (hcolumn : isPlain (Text.trim column) = true) :
    (nullCheck s k connector notNull column).AreLegible q := by
  have hlegible : ColumnRef.IsLegible ⟨Text.trim column,
      s.quoting.unwrap (Text.trim column) == s.quoting.unwrap s.softDeleteColumn⟩ := by
    refine ⟨hcolumn, fun hraw => ?_⟩
    have hname : s.quoting.unwrap (Text.trim column) = s.quoting.unwrap s.softDeleteColumn :=
      beq_iff_eq.1 hraw
    rw [Scanner.unwrap_of_isPlain hq hcolumn, Scanner.unwrap_of_isPlain hq hmark.plain] at hname
    rw [hname]
    exact hmark.raw rfl
  unfold BoundClauses.nullCheck
  simp only
  split
  · exact h
  · refine ⟨isLegible_putNullCheck hlegible notNull connector fun c hc => ?_, h.json⟩
    exact h.conditions c (List.mem_filter.1 hc).1

theorem AreLegible.dropMarkChecks (h : k.AreLegible q) (s : Statement) (notNull : Bool) :
    (dropMarkChecks s k notNull).AreLegible q :=
  ⟨fun c hc => h.conditions c (List.mem_filter.1 hc).1, h.json⟩

theorem AreLegible.jsonCompare (h : k.AreLegible s.quoting) (hq : Delimiter s.quoting.quote)
    {column path operator : String} {value : Value}
    (ha : (s.jsonCompare column path operator value).buildError = none)
    (hcolumn : isPlain (Text.trim column) = true) :
    (jsonCompare s.quoting s.jsonDialect k column path operator value).AreLegible s.quoting := by
  obtain ⟨-, sql, values, hpredicate, -⟩ := Statement.jsonCompare_of_accepted ha
  obtain ⟨op, hop, -, -⟩ := pathText_of_ok hpredicate
  have hbetween : op ≠ .between := by
    rintro rfl
    rw [Dialect.pathPredicate, hop] at hpredicate
    exact nomatch hpredicate
  rw [BoundClauses.jsonCompare, hop]
  exact h.addJson (Scanner.legible_pathText hq _ hcolumn _ hbetween value)

mutual

/-- **An accepted call that names its columns plainly adds nothing illegible.** -/
theorem legible_place {s : Statement} {k : BoundClauses} (c : Call)
    (ha : (s.apply c).buildError = none) (hq : Delimiter s.quoting.quote)
    (hmark : ColumnRef.IsLegible ⟨s.softDeleteColumn, true⟩) (hnames : c.namesPlainly = true)
    (h : k.AreLegible s.quoting) : (place s k c).AreLegible s.quoting := by
  cases c with
  | compare connector column operator value =>
      rw [Statement.apply] at ha
      rw [place]
      exact h.compare ha hnames
  | group connector calls =>
      rw [Statement.apply] at ha
      rw [place]
      have hg := (Statement.addGroup_of_accepted ha).2.1
      exact h.addGroup connector (legible_placeAll calls hg hq hmark hnames .empty)
  | compareSub connector column operator sub =>
      rw [Statement.apply] at ha
      rw [place]
      exact h.compareSub _ ha hnames
  | inList connector negated column values =>
      rw [place]
      exact h.addCondition (.list (.of_isPlain hnames))
  | nullCheck connector notNull column =>
      rw [place]
      exact h.nullCheck hq hmark connector notNull hnames
  | withTrashed =>
      rw [place]
      exact h.dropMarkChecks s false
  | onlyTrashed =>
      have hplain : isPlain (Text.trim s.softDeleteColumn) = true := by
        rw [Text.trim_of_isPlain hmark.plain]
        exact hmark.plain
      rw [place]
      exact (h.dropMarkChecks s false).nullCheck hq hmark .and true hplain
  | withoutTrashed =>
      rw [place]
      exact ⟨isLegible_putNullCheck hmark false .and (h.dropMarkChecks s true).conditions, h.json⟩
  | restore =>
      rw [place]
      exact ⟨(h.dropMarkChecks s false).conditions, h.json⟩
  | having column operator value =>
      rw [place, setHaving]
      split
      · exact h
      · exact ⟨h.conditions, h.json⟩
  | orderBy column direction =>
      rw [place, orderBy]
      split
      · exact h
      · exact ⟨h.conditions, h.json⟩
  | orderByCase column ranks otherwise direction =>
      rw [place, orderByCase]
      split
      · exact h
      · exact ⟨h.conditions, h.json⟩
  | window function w label =>
      rw [place, window]
      split
      · exact h
      · exact ⟨h.conditions, h.json⟩
  | jsonContains column value =>
      rw [place]
      exact h.addJson (Scanner.legible_containsText hq _ hnames value)
  | jsonCompare column path operator value =>
      rw [Statement.apply] at ha
      rw [place]
      exact h.jsonCompare hq ha hnames
  | _ =>
      rw [place]
      exact ⟨h.conditions, h.json⟩

/-- **A construction that names its columns plainly has legible conditions.** -/
theorem legible_placeAll {s : Statement} {k : BoundClauses} (calls : List Call)
    (ha : (s.applyAll calls).buildError = none) (hq : Delimiter s.quoting.quote)
    (hmark : ColumnRef.IsLegible ⟨s.softDeleteColumn, true⟩)
    (hnames : Call.namePlainly calls = true) (h : k.AreLegible s.quoting) :
    (placeAll s k calls).AreLegible s.quoting := by
  cases calls with
  | nil => exact h
  | cons c rest =>
      rw [Statement.applyAll] at ha
      rw [Call.namePlainly, Bool.and_eq_true] at hnames
      have haccepted := Statement.accepted_of_applyAll ha
      have hstep := legible_place c haccepted hq hmark hnames.1 h
      have hcontext := Statement.context_apply haccepted
      have hquoting : (s.apply c).quoting = s.quoting :=
        congrArg (fun context : Context => context.config.quoting) hcontext
      have hcolumn : (s.apply c).softDeleteColumn = s.softDeleteColumn :=
        congrArg (fun context : Context => context.config.softDeleteColumn) hcontext
      rw [← hquoting] at hstep hq ⊢
      rw [← hcolumn] at hmark
      rw [placeAll]
      exact legible_placeAll rest ha hq hmark hnames.2 hstep

end

end BoundClauses
end EntityQuery
