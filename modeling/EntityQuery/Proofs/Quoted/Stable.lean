/-
# Quoting twice is quoting once

What was quoted is recognized when it is to be quoted again: a quoted column begins with the
quote and is no plain name, and a quoted alias stands between quotes.  Quoting adds nothing
but quotes, so taking them off leaves what taking them off before would have left
(`unwrap_column`, `unwrap_label`).

An entry of a SELECT list is read by its words, and so is what is written for it.  A column
that is written alone has no blank, and `source AS alias` has three words again, its source
and alias being quoted already (`words_aliased`).  Nor does what is written look like a call
of a function if the entry does not: it has no other characters than quotes besides those of
the entry, and it begins with a quote or as the entry does (`isFunctionLike_aliased`).

`quoting_stable` puts this together, with what a scanner finds in a quoted column: it ends
outside of quotes, has met no placeholder, and outside of quotes has seen nothing but the
dots of the name (`bareFrom`).
-/

import EntityQuery.Proofs.Configured.QuoteCharacter
import EntityQuery.Proofs.Quoted.Words

namespace EntityQuery

/-! ### What stands outside of quotes -/

namespace Placeholder

/-- Whether a character read in a state stands outside of quotes and opens none. -/
def isBare (opens : Char → Bool) : Scan → Char → Bool
  | none, c => !opens c
  | some _, _ => false

/-- The characters of a text that stand outside of quotes, without the quotes themselves. -/
def bareFrom (opens : Char → Bool) : Scan → List Char → List Char
  | _, [] => []
  | state, c :: rest =>
    if isBare opens state c then c :: bareFrom opens (step opens state c) rest
    else bareFrom opens (step opens state c) rest

theorem bareFrom_append (opens : Char → Bool) (state : Scan) (xs ys : List Char) :
    bareFrom opens state (xs ++ ys) =
      bareFrom opens state xs ++ bareFrom opens (run opens state xs) ys := by
  induction xs generalizing state with
  | nil => rfl
  | cons c xs ih =>
      rw [List.cons_append, bareFrom, bareFrom, run_cons, ih]
      split
      · rfl
      · rfl

/-- Up to the closing quote nothing stands outside of quotes. -/
theorem bareFrom_inside (opens : Char → Bool) {quote : Char} {cs : List Char}
    (h : ∀ c ∈ cs, c ≠ quote) :
    bareFrom opens (some quote) cs = [] ∧ run opens (some quote) cs = some quote := by
  induction cs with
  | nil => exact ⟨rfl, rfl⟩
  | cons c cs ih =>
      have hstep : step opens (some quote) c = some quote := by
        rw [step, if_neg (h c List.mem_cons_self)]
      rw [bareFrom, run_cons, hstep, isBare, if_neg Bool.false_ne_true]
      exact ih fun d hd => h d (List.mem_cons_of_mem _ hd)

variable {q : Quoting}

theorem bareFrom_segment {cs : List Char} (h : ∀ c ∈ cs, c ≠ q.quote) :
    bareFrom (opensQuote q.quote) none (q.segment cs) = [] ∧
      run (opensQuote q.quote) none (q.segment cs) = none := by
  unfold Quoting.segment
  split
  · exact ⟨rfl, rfl⟩
  · have hopen : opensQuote q.quote q.quote = true := by simp [opensQuote]
    have hstep : step (opensQuote q.quote) none q.quote = some q.quote := by simp [step, hopen]
    have hclose : step (opensQuote q.quote) (some q.quote) q.quote = none := by simp [step]
    obtain ⟨hbare, hrun⟩ := bareFrom_inside (opensQuote q.quote) h
    refine ⟨?_, ?_⟩
    · rw [List.cons_append, bareFrom, hstep, bareFrom_append, hbare, hrun]
      simp [isBare, hopen, bareFrom]
    · rw [List.cons_append, run_cons, hstep, run_append, hrun, run_cons, hclose]
      rfl

/-- Outside of quotes stand the dots between the segments. -/
theorem bareFrom_intercalate (hdot : opensQuote q.quote '.' = false) {pieces : List (List Char)}
    (h : ∀ piece ∈ pieces, ∀ c ∈ piece, c ≠ q.quote ∧ c ≠ '.') :
    bareFrom (opensQuote q.quote) none (List.intercalate ['.'] (pieces.map q.segment)) =
      (List.intercalate ['.'] pieces).filter (· == '.') := by
  have hnone : ∀ piece ∈ pieces, piece.filter (· == '.') = [] := fun piece hp =>
    List.filter_eq_nil_iff.2 fun c hc heq => (h piece hp c hc).2 (beq_iff_eq.1 heq)
  induction pieces with
  | nil => rfl
  | cons first pieces ih =>
      have hfirst := hnone first List.mem_cons_self
      obtain ⟨hbare, hrun⟩ :=
        bareFrom_segment fun c hc => (h first List.mem_cons_self c hc).1
      cases pieces with
      | nil =>
          rw [List.map_singleton, List.intercalate_singleton, List.intercalate_singleton, hfirst]
          exact hbare
      | cons second pieces =>
          have hrest := ih (fun piece hp => h piece (List.mem_cons_of_mem _ hp))
            fun piece hp => hnone piece (List.mem_cons_of_mem _ hp)
          have hbetween : bareFrom (opensQuote q.quote) none ['.'] = ['.'] := by
            rw [bareFrom, isBare, hdot, Bool.not_false, if_pos rfl, bareFrom]
          have hstep : run (opensQuote q.quote) none ['.'] = none := by
            rw [run_cons, step, hdot, if_neg Bool.false_ne_true]
            rfl
          have hfilter : ['.'].filter (· == '.') = ['.'] := by decide
          rw [List.map_cons, List.map_cons, List.intercalate_cons_cons, ← List.map_cons,
            List.intercalate_cons_cons, bareFrom_append, bareFrom_append, run_append, hbare, hrun,
            hbetween, hstep, hrest, List.filter_append, List.filter_append, hfirst, hfilter]

end Placeholder

theorem Text.ne_of_mem_splitOn {separator : Char} {cs piece : List Char} {c : Char}
    (hp : piece ∈ Text.splitOn separator cs) (hc : c ∈ piece) : c ≠ separator := by
  induction cs generalizing piece with
  | nil =>
      rw [Text.splitOn, List.mem_singleton] at hp
      rw [hp] at hc
      exact absurd hc List.not_mem_nil
  | cons d cs ih =>
      rw [Text.splitOn] at hp
      split at hp
      · rcases List.mem_cons.1 hp with rfl | hp
        · exact absurd hc List.not_mem_nil
        · exact ih hp hc
      · rename_i hd
        split at hp
        · rw [List.mem_singleton] at hp
          subst hp
          rw [List.mem_singleton.1 hc]
          exact hd
        · rename_i first pieces hsplit
          rcases List.mem_cons.1 hp with rfl | hp
          · rcases List.mem_cons.1 hc with rfl | hc
            · exact hd
            · exact ih (hsplit ▸ List.mem_cons_self) hc
          · exact ih (hsplit ▸ List.mem_cons_of_mem _ hp) hc

namespace Quoting

open Placeholder

variable {q : Quoting} {x : String}

/-! ### Columns and aliases -/

/-- The quotes of this library stand in no plain name and are no blanks. -/
theorem ne_quote_of_isIdentifierPart (hq : Delimiter q.quote) {c : Char}
    (hc : isIdentifierPart c = true) : c ≠ q.quote := by
  rintro rfl
  refine absurd (isOrdinary_of_isIdentifierPart hc) ?_
  rcases hq with hq | hq <;> rw [hq] <;> decide

/-- The dots of a plain name are what stands outside of its quotes. -/
theorem bareFrom_column (hq : Delimiter q.quote) (hx : isPlain x = true) :
    bareFrom (opensQuote q.quote) none (q.column x).toList = x.toList.filter (· == '.') := by
  have hdot : opensQuote q.quote '.' = false := by rcases hq with hq | hq <;> rw [hq] <;> decide
  rw [column, if_pos hx, String.toList_ofList,
    bareFrom_intercalate hdot fun piece hp c hc => ⟨?_, Text.ne_of_mem_splitOn hp hc⟩,
    Text.intercalate_splitOn]
  exact ne_quote_of_isIdentifierPart hq
    (isIdentifierPart_of_isPlain hx c (mem_of_mem_splitOn hp hc))

theorem column_column (hq : Delimiter q.quote) (x : String) :
    q.column (q.column x) = q.column x := by
  by_cases hx : isPlain x = true
  · obtain ⟨rest, hrest⟩ := q.exists_column_eq hx
    have hplain : ¬isPlain (q.column x) = true := fun hplain =>
      ne_quote_of_isIdentifierPart hq
        (isIdentifierPart_of_isPlain hplain q.quote (hrest ▸ List.mem_cons_self)) rfl
    rw [column, if_neg hplain]
  · have hsame : q.column x = x := by rw [column, if_neg hx]
    rw [hsame, hsame]

theorem ne_nil_of_isPlain (hx : isPlain x = true) : x.toList ≠ [] := by
  intro hnil
  rw [isPlain, hnil] at hx
  exact Bool.false_ne_true hx

/-- What stands between quotes is quoted. -/
theorem isQuoted_segment {cs : List Char} (h : cs ≠ []) :
    q.isQuoted (String.ofList (q.segment cs)) = true := by
  rw [isQuoted, String.toList_ofList, segment, if_neg (by simpa using h)]
  obtain ⟨c, rest, rfl⟩ := List.exists_cons_of_ne_nil h
  have hlast : (c :: rest ++ [q.quote]).getLast? = some q.quote := List.getLast?_concat
  show (q.quote == q.quote && (c :: rest ++ [q.quote]).getLast? == some q.quote) = true
  rw [hlast, beq_self_eq_true, beq_self_eq_true, Bool.true_and]

theorem label_label (q : Quoting) (x : String) : q.label (q.label x) = q.label x := by
  rcases label_eq_or q x with hsame | ⟨hx, hlabel⟩
  · rw [hsame, hsame]
  · rw [hlabel, label, if_pos (isQuoted_segment (ne_nil_of_isPlain hx))]

/-- Quoting an alias adds nothing but quotes. -/
theorem unwrap_label (q : Quoting) (x : String) : q.unwrap (q.label x) = q.unwrap x := by
  rcases label_eq_or q x with hsame | ⟨-, hlabel⟩
  · rw [hsame]
  · rw [hlabel, unwrap, String.toList_ofList, filter_segment, unwrap]

/-- A character of a text that is the same without quotes is the quote, or it was there before. -/
theorem mem_of_unwrap {y : String} (h : q.unwrap y = q.unwrap x) {c : Char} (hc : c ∈ y.toList) :
    c = q.quote ∨ c ∈ x.toList := by
  by_cases hquote : c = q.quote
  · exact .inl hquote
  · have hkept : c ∈ (q.unwrap y).toList := by
      rw [unwrap, String.toList_ofList, List.mem_filter]
      exact ⟨hc, bne_iff_ne.2 hquote⟩
    rw [h, unwrap, String.toList_ofList, List.mem_filter] at hkept
    exact .inr hkept.1

/-! ### Entries of a SELECT list -/

/-- The words that are taken for the name of a function at the beginning of an expression. -/
def functionWords : List (List Char) :=
  ["COUNT".toList, "NOW".toList]

theorem isFunctionLike_eq_false_iff {e : String} :
    isFunctionLike e = false ↔ '(' ∉ e.toList ∧
      ∀ k ∈ functionWords, ¬k <+: Text.asciiUpper (Text.trimStart e.toList) := by
  rw [isFunctionLike, Bool.or_eq_false_iff, Bool.or_eq_false_iff, ← Bool.not_eq_true,
    ← Bool.not_eq_true, ← Bool.not_eq_true, List.contains_iff_mem, List.isPrefixOf_iff_prefix,
    List.isPrefixOf_iff_prefix, functionWords, List.forall_mem_cons, List.forall_mem_singleton,
    and_assoc]

theorem isPrefix_of_isPrefix_append_cons {k cs rest : List Char} {c : Char}
    (h : k <+: cs ++ c :: rest) (hc : c ∉ k) : k <+: cs := by
  rcases List.prefix_or_prefix_of_prefix h (List.prefix_append cs _) with hk | ⟨more, rfl⟩
  · exact hk
  · rw [List.prefix_append_right_inj] at h
    cases more with
    | nil => exact ⟨[], by rw [List.append_nil, List.append_nil]⟩
    | cons d more =>
        rw [List.cons_prefix_cons] at h
        exact absurd (List.mem_append_right _ (h.1 ▸ List.mem_cons_self)) hc

/-- What is read as a column and an alias. -/
def IsAliased (x source target : String) : Prop :=
  ∃ word, Text.words x = [source.toList, word, target.toList] ∧ isAs word = true

theorem selectColumn_of_isFunctionLike (q : Quoting) (h : isFunctionLike x = true) :
    q.selectColumn x = x := by
  rw [selectColumn, if_pos h]

theorem selectColumn_of_isAliased (q : Quoting) (h : isFunctionLike x = false)
    {source target : String} (halias : IsAliased x source target) :
    q.selectColumn x = q.column source ++ " AS " ++ q.label target := by
  obtain ⟨word, hwords, has⟩ := halias
  rw [selectColumn, h, if_neg Bool.false_ne_true, hwords]
  simp only [has, if_true, String.ofList_toList]

theorem selectColumn_of_not_isAliased (q : Quoting) (h : isFunctionLike x = false)
    (halias : ∀ source target, ¬IsAliased x source target) :
    q.selectColumn x = q.column (Text.trim x) := by
  rw [selectColumn, h, if_neg Bool.false_ne_true]
  split
  · rename_i source word target hwords
    rw [if_neg fun has => halias (String.ofList source) (String.ofList target) ⟨word, ?_, has⟩]
    rw [String.toList_ofList, String.toList_ofList, hwords]
  · rfl

/-! ### What is written for an entry -/

open Text (Solid)

variable {source target : String}

theorem isBlank_quote (hq : Delimiter q.quote) : Text.isBlank q.quote = false := by
  rcases hq with hq | hq <;> rw [hq] <;> decide

/-- A run without blanks that was quoted is one still. -/
theorem solid_column (hq : Delimiter q.quote) (h : Solid x.toList) :
    Solid (q.column x).toList where
  ne_nil := by
    by_cases hx : isPlain x = true
    · obtain ⟨rest, hrest⟩ := q.exists_column_eq hx
      rw [hrest]
      exact List.cons_ne_nil _ _
    · rw [column, if_neg hx]
      exact h.ne_nil
  isBlank c hc := by
    rcases mem_of_unwrap (q.unwrap_column x) hc with rfl | hc
    · exact isBlank_quote hq
    · exact h.isBlank c hc

theorem solid_label (hq : Delimiter q.quote) (h : Solid x.toList) :
    Solid (q.label x).toList where
  ne_nil := by
    rcases label_eq_or q x with hsame | ⟨-, hlabel⟩
    · rw [hsame]
      exact h.ne_nil
    · rw [hlabel, String.toList_ofList, segment, if_neg (by simpa using h.ne_nil)]
      exact List.cons_ne_nil _ _
  isBlank c hc := by
    rcases mem_of_unwrap (q.unwrap_label x) hc with rfl | hc
    · exact isBlank_quote hq
    · exact h.isBlank c hc

theorem toList_aliased (a b : String) :
    (a ++ " AS " ++ b).toList = a.toList ++ ' ' :: (['A', 'S'] ++ ' ' :: b.toList) := by
  rw [String.toList_append, String.toList_append, List.append_assoc]
  rfl

/-- The words of a column with an alias. -/
theorem words_aliased {a b : String} (ha : Solid a.toList) (hb : Solid b.toList) :
    Text.words (a ++ " AS " ++ b) = [a.toList, ['A', 'S'], b.toList] := by
  have has : Solid ['A', 'S'] := ⟨List.cons_ne_nil _ _,
    List.forall_mem_cons.2 ⟨by decide, List.forall_mem_singleton.2 (by decide)⟩⟩
  have hblank : Text.isBlank ' ' = true := by decide
  rw [Text.words, toList_aliased, ha.wordsFrom_append_cons hblank,
    has.wordsFrom_append_cons hblank, hb.wordsFrom]

/-- A text that begins with the quote does not begin with the name of a function. -/
theorem not_isPrefix_quote (hq : Delimiter q.quote) {k : List Char} (hk : k ∈ functionWords)
    (rest : List Char) : ¬k <+: Text.asciiUpper (q.quote :: rest) := by
  have hupper : q.quote.toUpper = q.quote := by rcases hq with hq | hq <;> rw [hq] <;> decide
  have hhead : q.quote ≠ 'C' ∧ q.quote ≠ 'N' := by
    rcases hq with hq | hq <;> rw [hq] <;> decide
  rw [Text.asciiUpper, List.map_cons, hupper]
  intro h
  rcases List.mem_pair.1 hk with rfl | rfl
  · exact hhead.1 (List.cons_prefix_cons.1 h).1.symm
  · exact hhead.2 (List.cons_prefix_cons.1 h).1.symm

theorem not_mem_quoted (hq : Delimiter q.quote) {y : String} (h : q.unwrap y = q.unwrap x)
    (hx : '(' ∉ x.toList) : '(' ∉ y.toList := by
  intro hy
  have hquote : '(' ≠ q.quote := by rcases hq with hq | hq <;> rw [hq] <;> decide
  exact (mem_of_unwrap h hy).elim hquote hx

/-- What is written for a column with an alias looks like a call only if the entry does. -/
theorem isFunctionLike_aliased (hq : Delimiter q.quote) (h : isFunctionLike x = false)
    (halias : IsAliased x source target) :
    isFunctionLike (q.column source ++ " AS " ++ q.label target) = false := by
  obtain ⟨word, hwords, -⟩ := halias
  obtain ⟨hopen, hnames⟩ := isFunctionLike_eq_false_iff.1 h
  have hmem : ∀ w ∈ Text.words x, Solid w ∧ '(' ∉ w := fun w hw =>
    ⟨(Text.solid_of_mem_words hw).1, fun hc => hopen ((Text.solid_of_mem_words hw).2 _ hc)⟩
  rw [hwords] at hmem
  obtain ⟨hsource, hopenSource⟩ := hmem source.toList (by simp)
  obtain ⟨-, hopenTarget⟩ := hmem target.toList (by simp)
  rw [isFunctionLike_eq_false_iff, toList_aliased, (solid_column hq hsource).trimStart_append]
  refine ⟨fun hc => ?_, fun k hk hprefix => ?_⟩
  · have hcolumn := not_mem_quoted hq (q.unwrap_column source) hopenSource
    have hlabel := not_mem_quoted hq (q.unwrap_label target) hopenTarget
    simp [hcolumn, hlabel] at hc
  · -- The name of a function would stand at the beginning of the column, which is quoted, or is
    -- the source as the entry begins with it.
    have hblank : ' '.toUpper ∉ k := by rcases List.mem_pair.1 hk with rfl | rfl <;> decide
    rw [Text.asciiUpper, List.map_append, List.map_cons] at hprefix
    have hcolumn := isPrefix_of_isPrefix_append_cons hprefix hblank
    by_cases hx : isPlain source = true
    · obtain ⟨rest, hrest⟩ := q.exists_column_eq hx
      rw [hrest] at hcolumn
      exact not_isPrefix_quote hq hk rest hcolumn
    · rw [column, if_neg hx] at hcolumn
      exact hnames k hk (hcolumn.trans ((Text.isPrefix_of_words hwords).map _))

/-- A column that is written alone is one word, and does not look like a call. -/
theorem selectColumn_column (hq : Delimiter q.quote) (hx : isPlain x = true) :
    q.selectColumn (q.column x) = q.column x := by
  have hsolid : Solid (q.column x).toList := solid_column hq ⟨ne_nil_of_isPlain hx, fun c hc =>
    Text.isBlank_of_isIdentifierPart (isIdentifierPart_of_isPlain hx c hc)⟩
  obtain ⟨rest, hrest⟩ := q.exists_column_eq hx
  have hcall : isFunctionLike (q.column x) = false := by
    have hstart := hsolid.trimStart_append []
    rw [List.append_nil] at hstart
    rw [isFunctionLike_eq_false_iff, hstart]
    refine ⟨not_mem_quoted hq (q.unwrap_column x) fun hc => ?_,
      fun k hk => hrest ▸ not_isPrefix_quote hq hk rest⟩
    exact absurd (isIdentifierPart_of_isPlain hx _ hc) (by decide)
  have hwords : Text.words (q.column x) = [(q.column x).toList] := hsolid.wordsFrom
  rw [selectColumn_of_not_isAliased q hcall, hsolid.trim, column_column hq]
  rintro source target ⟨word, heq, -⟩
  rw [hwords] at heq
  exact absurd (List.cons.inj heq).2 (List.cons_ne_nil _ _).symm

/-- **An entry that was quoted is not quoted again.** -/
theorem selectColumn_selectColumn (hq : Delimiter q.quote) (x : String) :
    q.selectColumn (q.selectColumn x) = q.selectColumn x := by
  cases hcall : isFunctionLike x with
  | true =>
      have hsame := selectColumn_of_isFunctionLike q hcall
      rw [hsame, hsame]
  | false =>
      by_cases halias : ∃ source target, IsAliased x source target
      · obtain ⟨source, target, halias⟩ := halias
        have hwritten := isFunctionLike_aliased hq hcall halias
        rw [selectColumn_of_isAliased q hcall halias]
        obtain ⟨word, hwords, -⟩ := halias
        have hsolid : ∀ w ∈ Text.words x, Solid w := fun w hw => (Text.solid_of_mem_words hw).1
        rw [hwords] at hsolid
        have hsource := hsolid source.toList (by simp)
        have htarget := hsolid target.toList (by simp)
        rw [selectColumn_of_isAliased q hwritten
          ⟨_, words_aliased (solid_column hq hsource) (solid_label hq htarget), rfl⟩,
          column_column hq, label_label]
      · simp only [not_exists] at halias
        rw [selectColumn_of_not_isAliased q hcall halias]
        by_cases hx : isPlain (Text.trim x) = true
        · exact selectColumn_column hq hx
        · -- Nothing was quoted, and the trimmed entry is read as the entry was.
          have hsame : q.column (Text.trim x) = Text.trim x := by rw [column, if_neg hx]
          rw [hsame]
          cases hcall' : isFunctionLike (Text.trim x) with
          | true => exact selectColumn_of_isFunctionLike q hcall'
          | false =>
              rw [selectColumn_of_not_isAliased q hcall', Text.trim_trim, hsame]
              rintro source target ⟨word, hwords, has⟩
              rw [Text.words_trim] at hwords
              exact halias source target ⟨word, hwords, has⟩

/-- **Quoting is stable and can be taken back.**  Columns, aliases and entries of a SELECT list that
were quoted are not quoted again.  Without quotes a quoted column or alias is what it was without
quotes, for a plain name the name itself.  In a quoted plain name the scanner ends outside of
quotes, has counted no placeholder, and has met nothing outside of quotes but the dots. -/
theorem quoting_stable (hq : Delimiter q.quote) (x : String) :
    (q.column (q.column x) = q.column x ∧ q.label (q.label x) = q.label x ∧
      q.selectColumn (q.selectColumn x) = q.selectColumn x) ∧
    (q.unwrap (q.column x) = q.unwrap x ∧ q.unwrap (q.label x) = q.unwrap x) ∧
    (isPlain x = true →
      q.unwrap (q.column x) = x ∧
      run (opensQuote q.quote) none (q.column x).toList = none ∧
      count q.quote (q.column x) = 0 ∧
      bareFrom (opensQuote q.quote) none (q.column x).toList =
        x.toList.filter (· == '.')) := by
  refine ⟨⟨column_column hq x, label_label q x, selectColumn_selectColumn hq x⟩,
    ⟨q.unwrap_column x, unwrap_label q x⟩, fun hx => ?_⟩
  obtain ⟨hclosed, hcount⟩ := quiet_column_of_isPlain hq hx
  have hname : q.unwrap (q.column x) = x := by
    rw [unwrap_column, Scanner.unwrap_of_isPlain hq hx]
  exact ⟨hname, hclosed, hcount, bareFrom_column hq hx⟩

/-- A name with an empty segment, quoted for PostgreSQL, and an alias behind AS with the long s. -/
theorem quoting_stable_segments :
    Delimiter '\x22' ∧
      bareFrom (opensQuote '\x22') none (column ⟨'\x22'⟩ "users..id").toList = ['.', '.'] ∧
      selectColumn ⟨'\x22'⟩ (selectColumn ⟨'\x22'⟩ " u.name aſ n") =
        "\x22u\x22.\x22name\x22 AS \x22n\x22" := by
  have hq : Delimiter (Quoting.mk '\x22').quote := by decide
  refine ⟨hq, (((quoting_stable hq "users..id").2.2 (by decide)).2.2.2).trans (by decide), ?_⟩
  exact ((quoting_stable hq " u.name aſ n").1.2.2).trans (by decide)

end Quoting
end EntityQuery
