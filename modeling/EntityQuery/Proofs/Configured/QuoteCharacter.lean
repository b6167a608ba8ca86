/-
# Which quote characters a configuration can be used with

`Config.validate` refuses letters, digits and the question mark as quotes.  Five
characters that it accepts disturb what they are to quote.  The underscore and the
dot stand in plain identifiers, so that quoting cannot be told from the name; and
those two, the blank, the star and the equals sign stand in the text of a statement
around its columns, where the scanner takes them for quotes that open.

`isUsable_iff` says that these are all: with any other accepted character, quotes can
be taken off again, quoting twice is quoting once, and a comparison compiles with the
one value that it binds.  Such a character stands in no plain name
(`ne_quoteChar_of_isIdentifierPart`) and nowhere in the text around it, so that the
scanner meets it in the quoted column only (`count_comparisonSql`).
-/

import EntityQuery.Proofs.Where.Plain
import EntityQuery.Proofs.Where.Rows

namespace EntityQuery

/-! ### Characters that may be accepted -/

namespace Text

/-- The letters and digits of ASCII are the first runs of the table. -/
theorem isAlphanumeric_of_isAlphanum {c : Char} (h : c.isAlphanum = true) :
    isAlphanumeric c = true := by
  have hrange : (0x30 ≤ c.toNat ∧ c.toNat ≤ 0x39) ∨ (0x41 ≤ c.toNat ∧ c.toNat ≤ 0x5A) ∨
      (0x61 ≤ c.toNat ∧ c.toNat ≤ 0x7A) := by
    delta Char.isAlphanum Char.isAlpha Char.isUpper Char.isLower Char.isDigit at h
    simp only [Bool.or_eq_true, Bool.and_eq_true, decide_eq_true_eq, UInt32.le_iff_toNat_le] at h
    rcases h with (h | h) | h
    · exact .inr (.inl h)
    · exact .inr (.inr h)
    · exact .inl h
  have hholds : ∀ first last, first ≤ c.toNat ∧ c.toNat ≤ last →
      (Run.mk first last 1).holds c.toNat = true := by
    intro first last hc
    simp [Run.holds, hc.1, hc.2, Nat.mod_one]
  rw [isAlphanumeric, inRuns, List.any_eq_true]
  rcases hrange with hc | hc | hc
  · exact ⟨⟨0x30, 0x39, 1⟩, .head _, hholds _ _ hc⟩
  · exact ⟨⟨0x41, 0x5A, 1⟩, .tail _ (.head _), hholds _ _ hc⟩
  · exact ⟨⟨0x61, 0x7A, 1⟩, .tail _ (.tail _ (.head _)), hholds _ _ hc⟩

end Text

namespace Config

theorem validate_eq_ok_iff {cfg : Config} : cfg.validate = .ok () ↔ cfg.fault? = none := by
  unfold validate
  split
  · rename_i hfault
    rw [hfault]
    exact ⟨nofun, nofun⟩
  · rename_i hfault
    exact ⟨fun _ => hfault, fun _ => rfl⟩

/-- An accepted quote is neither an ASCII letter or digit nor a question mark. -/
theorem quoteChar_of_validate {cfg : Config} (h : cfg.validate = .ok ()) :
    cfg.quoteChar.isAlphanum = false ∧ cfg.quoteChar ≠ '?' := by
  have hfault := validate_eq_ok_iff.1 h
  unfold fault? at hfault
  split at hfault
  · exact nomatch hfault
  · split at hfault
    · exact nomatch hfault
    · split at hfault
      · exact nomatch hfault
      · rename_i hquote
        rw [Bool.or_eq_true, not_or, beq_iff_eq] at hquote
        refine ⟨?_, hquote.2⟩
        rw [← Bool.not_eq_true]
        exact fun halnum => hquote.1 (Text.isAlphanumeric_of_isAlphanum halnum)

end Config

/-! ### A comparison of plain names -/

theorem ne_empty_of_isPlain {name : String} (h : isPlain name = true) : name ≠ "" := by
  rintro rfl
  exact nomatch h

namespace Statement

/-- A SELECT with one comparison of plain names. -/
def comparison (context : Context) (table column : String) (value : Value) : Statement :=
  { context := context
    table := table
    conditions := [.compare .and ⟨column, false⟩ .eq .one]
    bindings := { whereTree := [value] } }

/-- The text of a SELECT with one comparison of plain names. -/
def comparisonSql (q : Quoting) (table column : String) : String :=
  "SELECT * FROM " ++ table ++ " WHERE " ++ q.column column ++ " = ?"

variable {context : Context} {table column : String} {value : Value}

theorem build_comparison (htable : isPlain table = true) (hcolumn : isPlain column = true)
    (hvalue : value.isArray = false) :
    build context [.fromTable table, .compare .and column "=" value] =
      comparison context table column value := by
  have hoperator : Operator.parse? "=" = some .eq := by decide
  have hoperand : operandOf .eq column value = .ok (.one, [value]) := by
    simp only [operandOf, hvalue, Bool.false_eq_true, if_false]
  have hname : column.isEmpty = false := by
    rw [Bool.eq_false_iff, Ne, String.isEmpty_iff]
    exact ne_empty_of_isPlain hcolumn
  rw [build, applyAll, applyAll, applyAll, apply, apply, fromTable, compare]
  simp only [Text.trim_of_isPlain htable, Text.trim_of_isPlain hcolumn, hname, hoperator, hoperand]
  rfl

theorem selectSql_comparison :
    (comparison context table column value).selectSql =
      comparisonSql context.config.quoting table column := by
  have hclauses : (comparison context table column value).selectSql =
      "SELECT " ++ "" ++ ("*" ++ "") ++ " FROM " ++ (table ++ "" ++ (" WHERE " ++
        (context.config.quoting.column column ++ " " ++ "=" ++ " " ++ "?" ++ "" ++ ""))) ++
        "" ++ "" ++ "" ++ "" ++ "" ++ "" := rfl
  have hhead : "SELECT " ++ "*" ++ " FROM " = "SELECT * FROM " := by decide
  have htail : " " ++ "=" ++ " " ++ "?" = " = ?" := by decide
  rw [hclauses]
  -- Not by its equation, which Lean is slow to make for texts in a row.
  delta comparisonSql
  rw [← hhead, ← htail]
  simp only [String.append_empty, String.append_assoc]

/-- A comparison of plain names compiles if the scanner finds its one placeholder. -/
theorem compile_comparison (htable : isPlain table = true) (hcolumn : isPlain column = true)
    (hvalue : value.isArray = false) :
    (build context [.fromTable table, .compare .and column "=" value]).compile =
      let sql := comparisonSql context.config.quoting table column
      let found := Placeholder.count context.config.quoteChar sql
      if found = 1 then .ok ⟨sql, [value]⟩
      else .error (.state (.placeholderCount found 1 sql)) := by
  rw [build_comparison htable hcolumn hvalue]
  have hname : (comparison context table column value).table.isEmpty = false := by
    rw [Bool.eq_false_iff, Ne, String.isEmpty_iff]
    exact ne_empty_of_isPlain htable
  have hvalues : (comparison context table column value).values = [value] := rfl
  have htext : (comparison context table column value).text =
      .ok (comparisonSql context.config.quoting table column) :=
    congrArg Except.ok selectSql_comparison
  rw [compile, hname, htext, hvalues]
  rfl

end Statement

/-! ### Quoting twice -/

/-- A quoted name begins with the quote. -/
theorem Quoting.exists_column_eq (q : Quoting) {name : String} (h : isPlain name = true) :
    ∃ rest, (q.column name).toList = q.quote :: rest := by
  rw [column, if_pos h, String.toList_ofList]
  unfold isPlain at h
  split at h
  · exact absurd h Bool.false_ne_true
  · rename_i c cs hname
    have hdot : c ≠ '.' := by
      rintro rfl
      exact absurd (Bool.and_eq_true_iff.1 h).1 (by decide)
    rw [hname, Text.splitOn, if_neg hdot]
    -- The first segment holds the first character, so it is not left empty.
    split
    · exact ⟨[c, q.quote], rfl⟩
    · rename_i piece pieces _
      cases pieces with
      | nil => exact ⟨c :: piece ++ [q.quote], by simp [Quoting.segment, List.intercalate]⟩
      | cons next pieces =>
          exact ⟨c :: piece ++ [q.quote] ++
            '.' :: List.intercalate ['.'] ((next :: pieces).map q.segment),
            by simp [Quoting.segment, List.intercalate]⟩

/-! ### Usable quotes -/

namespace Config

variable {cfg : Config}

/-- What quotes are for: they can be taken off again, a quoted name is not quoted again, and a
comparison of plain names compiles with the one value that it binds. -/
structure IsUsable (cfg : Config) : Prop where
  unwrap_column : ∀ name, isPlain name = true →
    cfg.quoting.unwrap (cfg.quoting.column name) = name
  column_column : ∀ name, isPlain name = true →
    cfg.quoting.column (cfg.quoting.column name) = cfg.quoting.column name
  compile : ∀ resolver table column value, isPlain table = true → isPlain column = true →
    value.isArray = false → ∃ sql,
      (Statement.build ⟨cfg, resolver⟩
        [.fromTable table, .compare .and column "=" value]).compile = .ok ⟨sql, [value]⟩

/-- The characters of plain names and of the text around them, apart from letters and digits. -/
def writtenMarks : List Char :=
  ['_', '.', ' ', '*', '=']

/-- An accepted character that is none of the marks stands in no plain name. -/
theorem ne_quoteChar_of_isIdentifierPart (haccepted : cfg.validate = .ok ())
    (hmarks : cfg.quoteChar ∉ writtenMarks) {c : Char} (hc : isIdentifierPart c = true) :
    c ≠ cfg.quoteChar := by
  rintro rfl
  simp only [isIdentifierPart, Bool.or_eq_true, beq_iff_eq] at hc
  rcases hc with (hc | hc) | hc
  · rw [(quoteChar_of_validate haccepted).1] at hc
    exact absurd hc Bool.false_ne_true
  · exact hmarks (by rw [hc]; decide)
  · exact hmarks (by rw [hc]; decide)

theorem opensQuote_of_isIdentifierPart (haccepted : cfg.validate = .ok ())
    (hmarks : cfg.quoteChar ∉ writtenMarks) {c : Char} (hc : isIdentifierPart c = true) :
    Placeholder.opensQuote cfg.quoteChar c = false := by
  have hliteral : c ≠ '\x27' := by
    rintro rfl
    exact absurd hc (by decide)
  simp [Placeholder.opensQuote, hliteral, ne_quoteChar_of_isIdentifierPart haccepted hmarks hc]

/-- With such a quote a text of the characters of plain names and of marks is quiet. -/
theorem quiet_of_isWritten (haccepted : cfg.validate = .ok ())
    (hmarks : cfg.quoteChar ∉ writtenMarks) {text : String}
    (h : text.toList.all (fun c => isIdentifierPart c || writtenMarks.contains c) = true) :
    Placeholder.Quiet cfg.quoteChar text := by
  have hwritten := List.all_eq_true.1 h
  have hordinary : ∀ c ∈ text.toList, Placeholder.isOrdinary c = true := fun c hc =>
    Placeholder.isOrdinary_of_class (p := fun c => isIdentifierPart c || writtenMarks.contains c)
      (by decide) (hwritten c hc)
  refine Placeholder.quiet_of_not_opens (fun c hc => ?_) (List.all_eq_true.2 hordinary)
  rcases Bool.or_eq_true_iff.1 (hwritten c hc) with hpart | hmark
  · exact opensQuote_of_isIdentifierPart haccepted hmarks hpart
  · have hne : c ≠ cfg.quoteChar := fun heq => hmarks (heq ▸ List.contains_iff_mem.1 hmark)
    have hliteral : c ≠ '\x27' := by
      rintro rfl
      exact absurd hmark (by decide)
    simp [Placeholder.opensQuote, hne, hliteral]

/-- The one placeholder of a comparison is found, if the quote is none of the marks. -/
theorem count_comparisonSql (haccepted : cfg.validate = .ok ())
    (hmarks : cfg.quoteChar ∉ writtenMarks) {table column : String}
    (htable : isPlain table = true) (hcolumn : isPlain column = true) :
    Placeholder.count cfg.quoteChar (Statement.comparisonSql cfg.quoting table column) = 1 := by
  have hhead : Placeholder.Quiet cfg.quoteChar "SELECT * FROM " :=
    quiet_of_isWritten haccepted hmarks (by decide)
  have hname : Placeholder.Quiet cfg.quoteChar table :=
    quiet_of_isWritten haccepted hmarks (List.all_eq_true.2 fun c hc => by
      rw [Placeholder.isIdentifierPart_of_isPlain htable c hc, Bool.true_or])
  have hwhere : Placeholder.Quiet cfg.quoteChar " WHERE " :=
    quiet_of_isWritten haccepted hmarks (by decide)
  have hquoted : Placeholder.Quiet cfg.quoteChar (cfg.quoting.column column) :=
    Placeholder.quiet_column_of_not_opens (q := cfg.quoting)
      (fun _ hc => opensQuote_of_isIdentifierPart haccepted hmarks hc) hcolumn
  have hequals : Placeholder.Quiet cfg.quoteChar " = " :=
    quiet_of_isWritten haccepted hmarks (by decide)
  have hmark : Placeholder.count cfg.quoteChar "?" = 1 := by
    have hopens : Placeholder.opensQuote cfg.quoteChar '?' = false := by
      simp [Placeholder.opensQuote, Ne.symm (quoteChar_of_validate haccepted).2]
    show (if Placeholder.isMark _ none '?' then 1 else 0) + 0 = 1
    rw [Placeholder.isMark, hopens]
    rfl
  have hquiet := (((hhead.append hname).append hwhere).append hquoted).append hequals
  have hsplit : Statement.comparisonSql cfg.quoting table column =
      "SELECT * FROM " ++ table ++ " WHERE " ++ cfg.quoting.column column ++ " = " ++ "?" := by
    have htail : " = " ++ "?" = " = ?" := by decide
    delta Statement.comparisonSql
    rw [← htail]
    simp only [String.append_assoc]
  rw [hsplit, Placeholder.count_append hquiet.1, hquiet.2, hmark]

theorem isUsable_of_not_mem (haccepted : cfg.validate = .ok ())
    (hmarks : cfg.quoteChar ∉ writtenMarks) : cfg.IsUsable where
  unwrap_column name hname := by
    rw [Quoting.unwrap_column, Quoting.unwrap, List.filter_eq_self.2, String.ofList_toList]
    intro c hc
    exact bne_iff_ne.2 (ne_quoteChar_of_isIdentifierPart haccepted hmarks
      (Placeholder.isIdentifierPart_of_isPlain hname c hc))
  column_column name hname := by
    obtain ⟨rest, hrest⟩ := cfg.quoting.exists_column_eq hname
    rw [Quoting.column, if_neg]
    intro hplain
    have hpart := Placeholder.isIdentifierPart_of_isPlain hplain cfg.quoteChar
      (hrest ▸ List.mem_cons_self)
    exact ne_quoteChar_of_isIdentifierPart haccepted hmarks hpart rfl
  compile resolver table column value htable hcolumn hvalue := by
    rw [Statement.compile_comparison htable hcolumn hvalue]
    simp only
    rw [if_pos (count_comparisonSql haccepted hmarks htable hcolumn)]
    exact ⟨_, rfl⟩

/-- Each of the marks is unusable already on a name or a statement of one letter or two. -/
theorem not_mem_of_isUsable (h : cfg.IsUsable) : cfg.quoteChar ∉ writtenMarks := by
  have hquoting : ∀ c, cfg.quoteChar = c → cfg.quoting = ⟨c⟩ := fun _ => congrArg Quoting.mk
  have hfound : Placeholder.count cfg.quoteChar
      (Statement.comparisonSql cfg.quoting "t" "c") = 1 := by
    obtain ⟨sql, hcompile⟩ := h.compile .unknown "t" "c" .null (by decide) (by decide) rfl
    rw [Statement.compile_comparison (by decide) (by decide) rfl] at hcompile
    by_contra hne
    simp only at hcompile
    rw [if_neg hne] at hcompile
    exact nomatch hcompile
  simp only [writtenMarks, List.mem_cons, List.not_mem_nil, or_false]
  rintro (hq | hq | hq | hq | hq)
  · -- The quoted name is a plain name again.
    have htwice := h.column_column "a" (by decide)
    rw [hquoting _ hq] at htwice
    exact absurd htwice (by decide)
  · -- The dot of the name is taken off with the quotes.
    have hdotted := h.unwrap_column "a.b" (by decide)
    rw [hquoting _ hq] at hdotted
    exact absurd hdotted (by decide)
  -- The other three leave the placeholder between quotes.
  · rw [hquoting _ hq, hq] at hfound
    exact absurd hfound (by decide)
  · rw [hquoting _ hq, hq] at hfound
    exact absurd hfound (by decide)
  · rw [hquoting _ hq, hq] at hfound
    exact absurd hfound (by decide)

/-- **An accepted configuration is usable exactly if its quote is none of the marks.** -/
theorem isUsable_iff (haccepted : cfg.validate = .ok ()) :
    cfg.IsUsable ↔ cfg.quoteChar ∉ writtenMarks :=
  ⟨not_mem_of_isUsable, isUsable_of_not_mem haccepted⟩

/-- The double quote of PostgreSQL is usable. -/
theorem isUsable_iff_doubleQuote :
    ({ quoteChar := '\x22' } : Config).validate = .ok () ∧
      ({ quoteChar := '\x22' } : Config).IsUsable := by
  have haccepted : ({ quoteChar := '\x22' } : Config).validate = .ok () :=
    validate_eq_ok_iff.2 (by decide +kernel)
  exact ⟨haccepted, (isUsable_iff haccepted).2 (by decide)⟩

/-- The underscore is accepted, but it opens a quote in the name of the table that the quote of
the column closes, and the placeholder of the comparison is not found. -/
theorem underscore_unusable :
    ({ quoteChar := '_' } : Config).validate = .ok () ∧
      (Statement.build ⟨{ quoteChar := '_' }, .unknown⟩
        [.fromTable "blog_posts", .compare .and "id" "=" (.int 1)]).compile =
          .error (.state (.placeholderCount 0 1 "SELECT * FROM blog_posts WHERE _id_ = ?")) := by
  have hcount : Placeholder.count '_' "SELECT * FROM blog_posts WHERE _id_ = ?" = 0 := by decide
  have hsql : Statement.comparisonSql ⟨'_'⟩ "blog_posts" "id" =
      "SELECT * FROM blog_posts WHERE _id_ = ?" := by
    decide
  refine ⟨validate_eq_ok_iff.2 (by decide +kernel), ?_⟩
  rw [Statement.compile_comparison (by decide) (by decide) rfl]
  simp only [quoting, hsql, hcount]
  rfl

end Config
end EntityQuery
