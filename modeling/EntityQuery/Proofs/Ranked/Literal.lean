/-
# Literals in SQL text

A ranking orders by the values of a column, and the value for all other rows is
written into the text as a literal: the only text of a caller that is not bound.
`readLiteral?` reads a literal back from the front of a text, a doubled quote
being one quote of its text and a single one the end.  It accepts exactly what
writing produces (`readLiteral?_eq_some_iff`): whatever the text that is written, it
is read back, and what stands behind the literal is left.

To the scanners of placeholders a doubled quote closes the literal and opens it
again.  A ranking by a plain column is tight, whichever of the two quote characters
its column is written with and whichever of them the scanner knows (`tight_ranking`):
the scanner comes out of it outside of quotes, and has met one placeholder for each
ranked value, where the value belongs.  `ranking_literal_safe` puts this together.
-/

import EntityQuery.Proofs.Bound.Sound

namespace EntityQuery
namespace Placeholder

/-! ### Reading a literal -/

/-- The text of a literal from behind its opening quote on, and what stands behind its closing one;
a literal that is not closed is none. -/
def readLiteralBody? : List Char → Option (List Char × List Char)
  | [] => none
  | '\x27' :: '\x27' :: rest => (readLiteralBody? rest).map fun read => ('\x27' :: read.1, read.2)
  | '\x27' :: rest => some ([], rest)
  | c :: rest => (readLiteralBody? rest).map fun read => (c :: read.1, read.2)

/-- The text that the literal at the front of a text denotes, and what stands behind the literal. -/
def readLiteral? : List Char → Option (List Char × List Char)
  | '\x27' :: rest => readLiteralBody? rest
  | _ => none

/-- A text with its quotes doubled. -/
def doubled (cs : List Char) : List Char :=
  cs.flatMap fun c => if c = '\x27' then [c, c] else [c]

theorem toList_literal (text : String) :
    (Statement.literal text).toList = '\x27' :: doubled text.toList ++ ['\x27'] := by
  rw [Statement.literal, String.toList_ofList]
  rfl

/-- What is written as a literal is read back, unless one more quote follows it directly. -/
theorem readLiteralBody?_doubled (text : List Char) {rest : List Char}
    (hrest : rest.head? ≠ some '\x27') :
    readLiteralBody? (doubled text ++ '\x27' :: rest) = some (text, rest) := by
  induction text with
  | nil =>
      cases rest with
      | nil => rfl
      | cons c rest =>
          have hc : c ≠ '\x27' := fun h => hrest (h ▸ rfl)
          simp [doubled, readLiteralBody?, hc]
  | cons c text ih =>
      by_cases hc : c = '\x27'
      · have hread : doubled (c :: text) ++ '\x27' :: rest =
            '\x27' :: '\x27' :: (doubled text ++ '\x27' :: rest) := by
          simp [doubled, hc]
        rw [hread, readLiteralBody?, ih, hc]
        rfl
      · have hread : doubled (c :: text) ++ '\x27' :: rest =
            c :: (doubled text ++ '\x27' :: rest) := by
          simp [doubled, hc]
        rw [hread, readLiteralBody?, ih]
        · rfl
        · exact fun _ h _ => hc h
        · exact hc

/-- Only what is written as a literal is read as one. -/
theorem eq_of_readLiteralBody? {cs text rest : List Char}
    (h : readLiteralBody? cs = some (text, rest)) :
    cs = doubled text ++ '\x27' :: rest ∧ rest.head? ≠ some '\x27' := by
  fun_induction readLiteralBody? cs generalizing text with
  | case1 => exact nomatch h
  | case2 cs ih =>
      obtain ⟨read, hread, heq⟩ := Option.map_eq_some_iff.1 h
      obtain ⟨rfl, rfl⟩ := Prod.mk.inj heq
      obtain ⟨hcs, hrest⟩ := ih hread
      refine ⟨?_, hrest⟩
      rw [hcs]
      simp [doubled]
  | case3 cs hcs =>
      obtain ⟨rfl, rfl⟩ := Prod.mk.inj (Option.some.inj h)
      refine ⟨rfl, fun hhead => ?_⟩
      obtain ⟨rest, rfl⟩ := List.head?_eq_some_iff.1 hhead
      exact hcs rest rfl
  | case4 c cs _ hc ih =>
      obtain ⟨read, hread, heq⟩ := Option.map_eq_some_iff.1 h
      obtain ⟨rfl, rfl⟩ := Prod.mk.inj heq
      obtain ⟨hcs, hrest⟩ := ih hread
      refine ⟨?_, hrest⟩
      rw [hcs]
      have hc : c ≠ '\x27' := hc
      simp [doubled, hc]

/-- **Reading accepts exactly what writing produces**, as long as no further quote follows. -/
theorem readLiteral?_eq_some_iff {cs text rest : List Char} :
    readLiteral? cs = some (text, rest) ↔
      cs = (Statement.literal (String.ofList text)).toList ++ rest ∧ rest.head? ≠ some '\x27' := by
  have hwritten : (Statement.literal (String.ofList text)).toList ++ rest =
      '\x27' :: (doubled text ++ '\x27' :: rest) := by
    rw [toList_literal, String.toList_ofList, List.cons_append, List.cons_append, List.append_assoc]
    rfl
  rw [hwritten]
  constructor
  · intro h
    unfold readLiteral? at h
    split at h
    · obtain ⟨hcs, hrest⟩ := eq_of_readLiteralBody? h
      exact ⟨congrArg _ hcs, hrest⟩
    · exact nomatch h
  · rintro ⟨rfl, hrest⟩
    exact readLiteralBody?_doubled text hrest

/-- **A literal is read back**, whatever its text and whatever follows but a further quote. -/
theorem readLiteral?_literal (text : String) (rest : List Char)
    (hrest : rest.head? ≠ some '\x27') :
    readLiteral? ((Statement.literal text).toList ++ rest) = some (text.toList, rest) := by
  rw [readLiteral?_eq_some_iff, String.ofList_toList]
  exact ⟨rfl, hrest⟩

/-! ### Scanners of either quote -/

/-- A text is quiet if no character of it opens a quote and none is a question mark. -/
theorem quiet_of_not_mark {quote : Char} {text : String}
    (h : ∀ c ∈ text.toList, opensQuote quote c = false ∧ c ≠ '?') : Quiet quote text := by
  refine ⟨run_of_not_opens (known_none quote) fun c hc => (h c hc).1, ?_⟩
  have hcount : ∀ cs : List Char, (∀ c ∈ cs, opensQuote quote c = false ∧ c ≠ '?') →
      countFrom (opensQuote quote) none cs = 0 := by
    intro cs
    induction cs with
    | nil => exact fun _ => rfl
    | cons c cs ih =>
        intro hcs
        obtain ⟨hopens, hmark⟩ := hcs c List.mem_cons_self
        rw [countFrom, step_of_not_opens (known_none quote) hopens,
          ih fun d hd => hcs d (List.mem_cons_of_mem c hd)]
        simp [isMark, hmark]
  exact hcount _ h

/-- A plain column is quiet to a scanner of either quote, whichever it is written with. -/
theorem quiet_column_of_delimiter {q : Quoting} {quote : Char} (hq : Delimiter q.quote)
    (hquote : Delimiter quote) {name : String} (h : isPlain name = true) :
    Quiet quote (q.column name) := by
  by_cases hsame : quote = q.quote
  · rw [hsame]
    exact quiet_column_of_isPlain hq h
  · -- The quote of the column is an ordinary character to the other scanner.
    have hopens : opensQuote quote q.quote = false ∧ q.quote ≠ '?' := by
      rcases hq with hq | hq <;> rcases hquote with rfl | rfl
      · exact absurd hq.symm hsame
      · rw [hq]
        decide
      · rw [hq]
        decide
      · exact absurd hq.symm hsame
    rw [Quoting.column, if_pos h]
    refine quiet_intercalate (quiet_of_ordinary hquote (by decide)) fun piece hpiece => ?_
    obtain ⟨cs, hcs, rfl⟩ := List.mem_map.1 hpiece
    refine quiet_of_not_mark fun c hc => ?_
    have hmem : c = q.quote ∨ c ∈ cs := by
      rw [String.toList_ofList, Quoting.segment] at hc
      split at hc
      · exact absurd hc List.not_mem_nil
      · simpa [or_comm, or_assoc] using hc
    rcases hmem with rfl | hc
    · exact hopens
    · have hordinary := isOrdinary_of_isPlain h c (mem_of_mem_splitOn hcs hc)
      refine ⟨opensQuote_of_ordinary hquote hordinary, ?_⟩
      rintro rfl
      exact absurd hordinary (by decide)

/-- Numbering two texts in a row is numbering the second on from where the first ends. -/
theorem numberFrom_append (opens : Char → Bool) (state : Scan) (n : Nat) (xs ys : List Char) :
    numberFrom opens state n (xs ++ ys) =
      numberFrom opens state n xs ++
        numberFrom opens (run opens state xs) (n + countFrom opens state xs) ys := by
  induction xs generalizing state n with
  | nil => rfl
  | cons c xs ih =>
      rw [List.cons_append, numberFrom, numberFrom, countFrom, run_cons]
      split
      · rw [ih, List.cons_append, List.append_assoc, Nat.add_assoc]
        rfl
      · rw [ih, Nat.zero_add]
        rfl

end Placeholder

namespace BoundText

open Placeholder

variable {write : Value → String}

/-! ### Values in their places -/

theorem sql_eq_written (t : BoundText) : t.sql = t.written fun _ => "?" := by
  have hmark : "?".toList = ['?'] := by decide
  rw [sql, written, hmark]

theorem written_append (a b : BoundText) :
    (a ++ b).written write = a.written write ++ b.written write := by
  simp [written, writtenChars, String.ofList_append]

theorem written_ofText (text : String) : (ofText text).written write = text := by
  rw [written, writtenChars_ofText, String.ofList_toList]

theorem written_ofValue (v : Value) : (ofValue v).written write = write v := by
  simp [written, writtenChars, ofValue]

theorem written_eachAfter (separator : String) (ts : List BoundText) :
    (eachAfter separator ts).written write =
      Text.eachAfter separator (ts.map fun t => t.written write) := by
  induction ts with
  | nil => rfl
  | cons t ts ih =>
      rw [eachAfter, written_append, written_append, written_ofText, ih]
      rfl

/-- A scanner comes out of a bound text in the state that its reading ends with. -/
theorem Reads.run {quote : Char} (hq : Delimiter quote) {state final : Scan} {t : BoundText}
    (h : Reads quote state t final) :
    run (opensQuote quote) state (t.writtenChars fun _ => ['?']) = final := by
  induction t generalizing state with
  | nil => exact h.symm
  | cons place t ih =>
      cases place with
      | char c => exact ih h.2
      | slot v =>
          obtain ⟨rfl, hrest⟩ : state = none ∧ _ := h
          have hmark := step_question hq
          simpa [writtenChars, run_cons, hmark] using ih hrest

theorem Tight.closed {quote : Char} (hq : Delimiter quote) {t : BoundText} (h : Tight quote t) :
    Closed quote t.sql := by
  rw [Closed, sql, String.toList_ofList]
  exact Reads.run hq h.reads

end BoundText

namespace Statement

open Placeholder

variable {s : Statement} {q : Quoting} {column otherwise direction : String}
  {ranks : List (Value × Int)} {d : Direction}

/-! ### Rankings -/

/-- The branches of a ranking by a column, each ranked value being written by `write`. -/
def rankingBranches (q : Quoting) (column : String) (ranks : List (Value × Int))
    (write : Value → String) : String :=
  "CASE " ++ q.column (Text.trim column) ++
    Text.eachAfter "" (ranks.map fun r =>
      " WHEN " ++ write r.1 ++ " THEN " ++ Text.signedDecimal r.2)

/-- The text of a ranking, each ranked value being written by `write`. -/
def rankingText (q : Quoting) (column : String) (ranks : List (Value × Int)) (otherwise : String)
    (d : Direction) (write : Value → String) : String :=
  rankingBranches q column ranks write ++ " ELSE " ++ literal otherwise ++ " END " ++ d.sql

/-- A ranking with the ranked values in their places. -/
def boundRanking (q : Quoting) (column : String) (ranks : List (Value × Int)) (otherwise : String)
    (d : Direction) : BoundText :=
  .ofText ("CASE " ++ q.column (Text.trim column)) ++
    .eachAfter "" (ranks.map BoundClauses.rankBranch) ++
    .ofText (" ELSE " ++ literal otherwise ++ " END " ++ d.sql)

theorem values_boundRanking : (boundRanking q column ranks otherwise d).values =
    ranks.map Prod.fst := by
  simp [boundRanking, BoundClauses.values_rankBranches]

theorem written_boundRanking (write : Value → String) :
    (boundRanking q column ranks otherwise d).written write =
      rankingText q column ranks otherwise d write := by
  have hbranch : ∀ r : Value × Int, (BoundClauses.rankBranch r).written write =
      " WHEN " ++ write r.1 ++ " THEN " ++ Text.signedDecimal r.2 := by
    intro r
    rw [BoundClauses.rankBranch, BoundText.written_append, BoundText.written_append,
      BoundText.written_ofText, BoundText.written_ofText, BoundText.written_ofValue]
    simp only [String.append_assoc]
  rw [boundRanking, BoundText.written_append, BoundText.written_append, BoundText.written_ofText,
    BoundText.written_ofText, BoundText.written_eachAfter, List.map_map]
  simp only [rankingText, rankingBranches, Function.comp_def, hbranch, String.append_assoc]

/-- **A ranking by a plain column is tight**, whatever the text of its literal. -/
theorem tight_ranking {quote : Char} (hq : Delimiter q.quote) (hquote : Delimiter quote)
    (hcolumn : isPlain (Text.trim column) = true) :
    (boundRanking q column ranks otherwise d).Tight quote := by
  have hordinary : ∀ text : String, text.toList.all isOrdinary = true → Quiet quote text :=
    fun text htext => quiet_of_ordinary hquote htext
  have hcase : Quiet quote ("CASE " ++ q.column (Text.trim column)) :=
    (hordinary "CASE " (by decide)).append (quiet_column_of_delimiter hq hquote hcolumn)
  have hdirection : Quiet quote d.sql := by cases d <;> exact hordinary _ (by decide)
  have helse : Quiet quote (" ELSE " ++ literal otherwise ++ " END " ++ d.sql) :=
    (((hordinary " ELSE " (by decide)).append (quiet_literal quote otherwise)).append
      (hordinary " END " (by decide))).append hdirection
  have hbranches : ∀ t ∈ ranks.map BoundClauses.rankBranch, t.Tight quote := by
    intro t ht
    obtain ⟨r, -, rfl⟩ := List.mem_map.1 ht
    exact BoundClauses.tight_rankBranch (q := ⟨quote⟩) hquote r
  exact ((BoundText.tight_ofText hcase).append
    (BoundText.tight_eachAfter (hordinary "" (by decide)) hbranches)).append
      (BoundText.tight_ofText helse)

/-- The text and the values that a ranking adds to a statement. -/
theorem orderByCase_eq (hdirection : Direction.parse? direction = some d) (hranks : ranks ≠ []) :
    s.orderByCase column ranks otherwise direction =
      { s with
        orders := s.orders ++ [rankingText s.quoting column ranks otherwise d fun _ => "?"]
        bindings := s.bindings.extend .order (ranks.map Prod.fst) } := by
  have hbranch : ∀ r : Value × Int,
      " WHEN " ++ "?" ++ " THEN " ++ Text.signedDecimal r.2 = rankBranch r.2 := by
    intro r
    have hwhen : " WHEN " ++ "?" ++ " THEN " = " WHEN ? THEN " := by decide
    rw [rankBranch, hwhen]
  have hempty : ¬ranks.isEmpty = true := fun h => hranks (List.isEmpty_iff.1 h)
  rw [orderByCase, hdirection, rankingText, rankingBranches,
    List.map_congr_left fun r _ => hbranch r]
  exact if_neg hempty

/-- **The literal of a ranking is safe.**  For every column and every text, what stands between ELSE
and END is one literal, which denotes the text; read where it stands, it ends in front of END.  To
a scanner of either quote, a ranking by a plain column begins and ends outside of quotes and has
one placeholder for each ranked value, in the order in which the values are bound and in the branch
of its value; and numbering goes on behind it from so many more. -/
theorem ranking_literal_safe (s : Statement) (column : String) {ranks : List (Value × Int)}
    (otherwise : String) {direction : String} {d : Direction}
    (hdirection : Direction.parse? direction = some d) (hranks : ranks ≠ []) :
    (s.orderByCase column ranks otherwise direction =
      { s with
        orders := s.orders ++ [rankingText s.quoting column ranks otherwise d fun _ => "?"]
        bindings := s.bindings.extend .order (ranks.map Prod.fst) }) ∧
    readLiteral? (literal otherwise).toList = some (otherwise.toList, []) ∧
    readLiteral? (literal otherwise ++ " END " ++ d.sql).toList =
      some (otherwise.toList, (" END " ++ d.sql).toList) ∧
    (isPlain (Text.trim column) = true → Delimiter s.quoting.quote →
      ∀ sql, sql = (rankingText s.quoting column ranks otherwise d fun _ => "?") →
        (∀ quote, Delimiter quote → Closed quote sql ∧ count quote sql = ranks.length ∧
          ∀ write : Value → String, fill quote ((ranks.map Prod.fst).map write) sql =
            rankingText s.quoting column ranks otherwise d write) ∧
        ∀ n rest, numberFrom (opensQuote '\x22') none n (sql.toList ++ rest) =
          numberFrom (opensQuote '\x22') none n sql.toList ++
            numberFrom (opensQuote '\x22') none (n + ranks.length) rest) := by
  have hliteral : readLiteral? (literal otherwise).toList = some (otherwise.toList, []) := by
    have hread := readLiteral?_literal otherwise [] (by decide)
    rwa [List.append_nil] at hread
  have hplace : readLiteral? (literal otherwise ++ " END " ++ d.sql).toList =
      some (otherwise.toList, (" END " ++ d.sql).toList) := by
    rw [String.append_assoc, String.toList_append]
    exact readLiteral?_literal otherwise _ (by simp)
  refine ⟨orderByCase_eq hdirection hranks, hliteral, hplace, ?_⟩
  rintro hplain hq sql rfl
  have hwritten := @written_boundRanking s.quoting column otherwise ranks d
  have hvalues := @values_boundRanking s.quoting column otherwise ranks d
  have htight : ∀ quote, Delimiter quote →
      (boundRanking s.quoting column ranks otherwise d).Tight quote :=
    fun quote hquote => tight_ranking hq hquote hplain
  have hcount : ∀ quote, Delimiter quote →
      count quote (boundRanking s.quoting column ranks otherwise d).sql = ranks.length := by
    intro quote hquote
    rw [(htight quote hquote).count hquote, hvalues, List.length_map]
  rw [← hwritten, ← BoundText.sql_eq_written]
  refine ⟨fun quote hquote => ⟨(htight quote hquote).closed hquote, hcount quote hquote, ?_⟩, ?_⟩
  · intro write
    rw [← hvalues, (htight quote hquote).fill hquote write, hwritten]
  · intro n rest
    have hserver : Delimiter '\x22' := .inr rfl
    have hclosed := (htight _ hserver).closed hserver
    have hserverCount := hcount _ hserver
    rw [Closed] at hclosed
    rw [count] at hserverCount
    rw [numberFrom_append, hclosed, hserverCount]

/-- A literal with both quotes and question marks inside, behind values that are told apart. -/
theorem ranking_literal_safe_quoted :
    Direction.parse? " desc " = some .desc ∧ isPlain "status" = true ∧
      ((build {} [.fromTable "users"]).orderByCase "status" [(.text "it's ?", 1), (.int 7, -2)]
          "it's `?` \"x\"" " desc ").orders =
        ["CASE `status` WHEN ? THEN 1 WHEN ? THEN -2 ELSE 'it''s `?` \"x\"' END DESC"] ∧
      readLiteral? "'it''s `?` \"x\"' END DESC".toList =
        some ("it's `?` \"x\"".toList, " END DESC".toList) ∧
      Closed '\x22'
        "CASE `status` WHEN ? THEN 1 WHEN ? THEN -2 ELSE 'it''s `?` \"x\"' END DESC" ∧
      count '\x22'
        "CASE `status` WHEN ? THEN 1 WHEN ? THEN -2 ELSE 'it''s `?` \"x\"' END DESC" = 2 := by
  obtain ⟨horders, -, hliteral, hscanned⟩ := @ranking_literal_safe (build {} [.fromTable "users"])
    "status" [(.text "it's ?", 1), (.int 7, -2)] "it's `?` \"x\"" " desc " .desc (by decide)
    (by simp)
  obtain ⟨hclosed, hcount, -⟩ := (hscanned (by decide) (by decide) _ rfl).1 '\x22' (by decide)
  refine ⟨by decide, by decide, ?_, hliteral, hclosed, hcount⟩
  rw [horders]
  rfl

end Statement
end EntityQuery
