/-
# Conditions as they are read

The text of a WHERE clause once more, as a sequence of tokens
(`BoundClauses.whereTokens`): the conditions and the JSON predicates, letter by
letter.  A sub-query is spelled out where its quotes and parentheses are closed,
and is one letter where they are not.

Legible conditions are what the reader needs (`BoundCondition.IsLegible`): plain
columns, operands that fit their operators, and no empty groups.  Then it finds the
tokens in the text (`Scanner.tokens?_flatMap`), and the truth value of the text is
that of the conditions and the JSON predicates (`value?_whereLetters`).
-/

import EntityQuery.Proofs.Where.Legible

namespace EntityQuery

open Placeholder
open Letter (ofText ofBound textOf)

/-! ### Sub-queries -/

/-- The letters of a sub-query: its own, if it closes what it opens, and itself otherwise. -/
def BoundText.letters (quote : Char) (t : BoundText) : List Letter :=
  if Scanner.Balanced quote (ofBound t) then ofBound t else [.query t]

theorem BoundText.textOf_letters (quote : Char) (t : BoundText) :
    textOf (t.letters quote) = t := by
  unfold letters
  split
  · exact Letter.textOf_ofBound t
  · exact List.append_nil t

theorem BoundText.balanced_letters (quote : Char) (t : BoundText) :
    Scanner.Balanced quote (t.letters quote) := by
  unfold letters
  split
  · assumption
  · rfl

/-! ### Tokens -/

namespace BoundCondition

mutual

/-- The tokens of a condition without its connector. -/
def tokens (q : Quoting) : BoundCondition → List Token
  | .compare connector column op operand =>
    [.test (ofBound ((BoundCondition.compare connector column op operand).text q))]
  | .list connector column negated vs =>
    [.test (ofBound ((BoundCondition.list connector column negated vs).text q))]
  | .subquery _ column op query =>
    [.test (ofText (column.sql q ++ " " ++ op.sql ++ " (") ++ query.letters q.quote ++ ofText ")")]
  | .group _ members => .opening :: tokensList q members ++ [.closing]

/-- The tokens of a list of conditions, the first connector left out. -/
def tokensList (q : Quoting) : List BoundCondition → List Token
  | [] => []
  | first :: rest => tokens q first ++ tokensTail q rest

/-- The tokens of conditions that follow others, each with its connector in front. -/
def tokensTail (q : Quoting) : List BoundCondition → List Token
  | [] => []
  | c :: rest => .connector c.connector :: tokens q c ++ tokensTail q rest

end

variable (q : Quoting)

mutual

/-- The tokens of a condition stand for its words. -/
theorem map_word_tokens (c : BoundCondition) : (c.tokens q).map Token.word = c.words q := by
  cases c with
  | compare connector column op operand =>
      rw [tokens, List.map_singleton, Token.word, Letter.textOf_ofBound, text, words,
        List.flatMap_singleton, Word.text]
  | list connector column negated vs =>
      rw [tokens, List.map_singleton, Token.word, Letter.textOf_ofBound, text, words,
        List.flatMap_singleton, Word.text]
  | subquery connector column op query =>
      rw [tokens, List.map_singleton, Token.word, Letter.textOf_append, Letter.textOf_append,
        BoundText.textOf_letters, Letter.textOf_ofText, Letter.textOf_ofText, words]
  | group connector members =>
      rw [tokens, List.map_append, List.map_cons, map_word_tokensList members, words]
      rfl

theorem map_word_tokensList (cs : List BoundCondition) :
    (tokensList q cs).map Token.word = wordsList q cs := by
  cases cs with
  | nil => rfl
  | cons first rest =>
      rw [tokensList, List.map_append, map_word_tokens first, map_word_tokensTail rest, wordsList]

theorem map_word_tokensTail (cs : List BoundCondition) :
    (tokensTail q cs).map Token.word = wordsTail q cs := by
  cases cs with
  | nil => rfl
  | cons c rest =>
      rw [tokensTail, List.map_append, List.map_cons, map_word_tokens c, map_word_tokensTail rest,
        wordsTail]
      rfl

end

/-! ### Legible conditions -/

/-- A condition whose text the reader reads as it is meant. -/
inductive IsLegible : BoundCondition → Prop where
  | compare {connector : Connector} {column : ColumnRef} {op : Operator} {operand : BoundOperand}
      (hcolumn : column.IsLegible) (hfits : operand.Fits op) :
      IsLegible (.compare connector column op operand)
  | list {connector : Connector} {column : ColumnRef} {negated : Bool} {vs : List Value}
      (hcolumn : column.IsLegible) : IsLegible (.list connector column negated vs)
  | subquery {connector : Connector} {column : ColumnRef} {op : Operator} {query : BoundText}
      (hcolumn : column.IsLegible) (hop : op ≠ .between) :
      IsLegible (.subquery connector column op query)
  | group {connector : Connector} {members : List BoundCondition} (hne : members ≠ [])
      (hmembers : ∀ c ∈ members, IsLegible c) : IsLegible (.group connector members)

variable {q}

mutual

theorem legible_of_mem_tokens (hq : Delimiter q.quote) {c : BoundCondition} (h : c.IsLegible)
    {letters : List Letter} (hmem : .test letters ∈ c.tokens q) :
    Scanner.Legible q.quote letters := by
  cases c with
  | compare connector column op operand =>
      cases h with
      | compare hcolumn hfits =>
          rw [tokens, List.mem_singleton, Token.test.injEq] at hmem
          exact hmem ▸ Scanner.legible_compare hq hcolumn connector hfits
  | list connector column negated vs =>
      cases h with
      | list hcolumn =>
          rw [tokens, List.mem_singleton, Token.test.injEq] at hmem
          exact hmem ▸ Scanner.legible_list hq hcolumn connector negated vs
  | subquery connector column op query =>
      cases h with
      | subquery hcolumn hop =>
          rw [tokens, List.mem_singleton, Token.test.injEq] at hmem
          exact hmem ▸ Scanner.legible_subquery hq hcolumn hop (query.balanced_letters q.quote)
  | group connector members =>
      cases h with
      | group hne hmembers =>
          rw [tokens, List.mem_append, List.mem_cons, List.mem_singleton] at hmem
          rcases hmem with (hmem | hmem) | hmem
          · exact nomatch hmem
          · exact legible_of_mem_tokensList hq hmembers hmem
          · exact nomatch hmem

theorem legible_of_mem_tokensList (hq : Delimiter q.quote) {cs : List BoundCondition}
    (h : ∀ c ∈ cs, c.IsLegible) {letters : List Letter} (hmem : .test letters ∈ tokensList q cs) :
    Scanner.Legible q.quote letters := by
  cases cs with
  | nil => exact absurd hmem List.not_mem_nil
  | cons first rest =>
      rw [tokensList, List.mem_append] at hmem
      rcases hmem with hmem | hmem
      · exact legible_of_mem_tokens hq (h first List.mem_cons_self) hmem
      · exact legible_of_mem_tokensTail hq (fun c hc => h c (List.mem_cons_of_mem _ hc)) hmem

theorem legible_of_mem_tokensTail (hq : Delimiter q.quote) {cs : List BoundCondition}
    (h : ∀ c ∈ cs, c.IsLegible) {letters : List Letter} (hmem : .test letters ∈ tokensTail q cs) :
    Scanner.Legible q.quote letters := by
  cases cs with
  | nil => exact absurd hmem List.not_mem_nil
  | cons c rest =>
      rw [tokensTail, List.mem_append, List.mem_cons] at hmem
      rcases hmem with (hmem | hmem) | hmem
      · exact nomatch hmem
      · exact legible_of_mem_tokens hq (h c List.mem_cons_self) hmem
      · exact legible_of_mem_tokensTail hq (fun d hd => h d (List.mem_cons_of_mem _ hd)) hmem

end

mutual

/-- The words of a legible condition stand where a predicate is expected. -/
theorem orderedFrom_words {c : BoundCondition} (h : c.IsLegible) (depth : Nat) (rest : List Word) :
    Word.orderedFrom depth true (c.words q ++ rest) = Word.orderedFrom depth false rest := by
  cases c with
  | compare connector column op operand => rfl
  | list connector column negated vs => rfl
  | subquery connector column op query => rfl
  | group connector members =>
      cases h with
      | group hne hmembers =>
          have hlist := orderedFrom_wordsList hne hmembers (depth + 1) (.closing :: rest)
          rw [words, List.append_assoc, List.cons_append]
          exact hlist

theorem orderedFrom_wordsList {cs : List BoundCondition} (hne : cs ≠ [])
    (h : ∀ c ∈ cs, c.IsLegible) (depth : Nat) (rest : List Word) :
    Word.orderedFrom depth true (wordsList q cs ++ rest) = Word.orderedFrom depth false rest := by
  cases cs with
  | nil => exact absurd rfl hne
  | cons first others =>
      rw [wordsList, List.append_assoc, orderedFrom_words (h first List.mem_cons_self),
        orderedFrom_wordsTail fun c hc => h c (List.mem_cons_of_mem _ hc)]

theorem orderedFrom_wordsTail {cs : List BoundCondition} (h : ∀ c ∈ cs, c.IsLegible) (depth : Nat)
    (rest : List Word) :
    Word.orderedFrom depth false (wordsTail q cs ++ rest) = Word.orderedFrom depth false rest := by
  cases cs with
  | nil => rfl
  | cons c others =>
      have hconnector : ∀ words : List Word, Word.orderedFrom depth false
          (c.connector.word :: words) = Word.orderedFrom depth true words := by
        cases c.connector <;> exact fun _ => rfl
      rw [wordsTail, List.append_assoc, List.cons_append, hconnector,
        orderedFrom_words (h c List.mem_cons_self),
        orderedFrom_wordsTail fun d hd => h d (List.mem_cons_of_mem _ hd)]

end

end BoundCondition

/-! ### The whole clause -/

/-- Parts of a WHERE clause, all of which must hold. -/
def Token.allOf : List (List Token) → List Token
  | [] => []
  | part :: rest => part ++ rest.flatMap (.connector .and :: ·)

theorem Token.map_word_allOf (parts : List (List Token)) :
    (allOf parts).map word = Word.allOf (parts.map (List.map word)) := by
  cases parts with
  | nil => rfl
  | cons part rest =>
      rw [allOf, List.map_append, List.map_flatMap, List.map_cons, Word.allOf, List.flatMap_map]
      rfl

theorem Token.mem_allOf {parts : List (List Token)} {letters : List Letter}
    (h : .test letters ∈ allOf parts) : ∃ part ∈ parts, .test letters ∈ part := by
  cases parts with
  | nil => exact absurd h List.not_mem_nil
  | cons part rest =>
      rw [allOf, List.mem_append, List.mem_flatMap] at h
      rcases h with h | ⟨other, hother, h⟩
      · exact ⟨part, List.mem_cons_self, h⟩
      · rcases List.mem_cons.1 h with h | h
        · exact nomatch h
        · exact ⟨other, List.mem_cons_of_mem _ hother, h⟩

/-- The text of tokens is that of the words they stand for. -/
theorem Token.textOf_letters (tokens : List Token) :
    textOf (tokens.flatMap letters) = Word.textOf (tokens.map word) := by
  have htoken : ∀ token : Token, textOf token.letters = token.word.text := by
    intro token
    cases token with
    | test letters => rfl
    | connector c => cases c <;> exact Letter.textOf_ofText _
    | opening => exact Letter.textOf_ofText _
    | closing => exact Letter.textOf_ofText _
  induction tokens with
  | nil => rfl
  | cons token tokens ih =>
      rw [List.flatMap_cons, Letter.textOf_append, htoken, ih, List.map_cons, Word.textOf,
        Word.textOf, List.flatMap_cons]

/-- Words that stand where a predicate is expected. -/
def Word.IsPredicate (words : List Word) : Prop :=
  ∀ depth rest, orderedFrom depth true (words ++ rest) = orderedFrom depth false rest

/-- Predicates that must all hold stand in an order that has a meaning. -/
theorem Word.orderedFrom_allOf {parts : List (List Word)} (hne : parts ≠ [])
    (h : ∀ part ∈ parts, IsPredicate part) : orderedFrom 0 true (allOf parts) = true := by
  have htail : ∀ rest : List (List Word), (∀ part ∈ rest, IsPredicate part) →
      orderedFrom 0 false (rest.flatMap (.and :: ·)) = true := by
    intro rest hrest
    induction rest with
    | nil => rfl
    | cons part rest ih =>
        rw [List.flatMap_cons, List.cons_append, orderedFrom, hrest part List.mem_cons_self]
        exact ih fun other hother => hrest other (List.mem_cons_of_mem _ hother)
  cases parts with
  | nil => exact absurd rfl hne
  | cons part rest =>
      rw [allOf, h part List.mem_cons_self]
      exact htail rest fun other hother => h other (List.mem_cons_of_mem _ hother)

namespace BoundClauses

/-- The tokens of a WHERE clause: the conditions, in parentheses where they need them, and the JSON
predicates. -/
def whereTokens (q : Quoting) (conditions : List BoundCondition) (json : List BoundText) :
    List Token :=
  let structured :=
    if conditions.isEmpty then []
    else if !json.isEmpty && Condition.hasTopLevelOr (BoundCondition.conditions conditions) then
      [.opening :: BoundCondition.tokensList q conditions ++ [.closing]]
    else [BoundCondition.tokensList q conditions]
  Token.allOf (structured ++ json.map fun t => [.test (ofBound t)])

/-- The letters after WHERE, if there is a predicate. -/
def whereLetters? (q : Quoting) (conditions : List BoundCondition) (json : List BoundText) :
    Option (List Letter) :=
  if conditions.isEmpty && json.isEmpty then none
  else some ((whereTokens q conditions json).flatMap Token.letters)

variable {q : Quoting} {conditions : List BoundCondition} {json : List BoundText}

theorem map_word_whereTokens :
    (whereTokens q conditions json).map Token.word =
      Word.allOf (whereParts q conditions json) := by
  have hlist := BoundCondition.map_word_tokensList q conditions
  have hjson : (json.map fun t => [Token.test (ofBound t)]).map (List.map Token.word) =
      json.map fun t => [Word.test t] := by
    rw [List.map_map]
    refine List.map_congr_left fun t _ => ?_
    exact congrArg (fun u => [Word.test u]) (Letter.textOf_ofBound t)
  unfold whereTokens whereParts
  simp only
  rw [Token.map_word_allOf, List.map_append, hjson]
  congr 2
  split
  · rfl
  · split
    · rw [List.map_singleton, List.map_append, List.map_cons, hlist]
      rfl
    · rw [List.map_singleton, hlist]

theorem isEmpty_whereParts :
    (whereParts q conditions json).isEmpty = (conditions.isEmpty && json.isEmpty) := by
  unfold whereParts
  cases conditions with
  | nil => exact List.isEmpty_map
  | cons c cs =>
      simp only [List.isEmpty_cons, Bool.false_and]
      rw [if_neg Bool.false_ne_true]
      split <;> rfl

/-- **The letters after WHERE spell the text after WHERE.** -/
theorem map_textOf_whereLetters? :
    (whereLetters? q conditions json).map textOf = whereText? q conditions json := by
  unfold whereLetters? whereText?
  simp only
  rw [isEmpty_whereParts]
  split
  · rfl
  · rw [Option.map_some, Token.textOf_letters, map_word_whereTokens]

theorem isPredicate_of_mem_whereParts (hconditions : ∀ c ∈ conditions, c.IsLegible)
    {part : List Word} (hpart : part ∈ whereParts q conditions json) : Word.IsPredicate part := by
  unfold whereParts at hpart
  simp only at hpart
  rcases List.mem_append.1 hpart with hpart | hpart
  · split at hpart
    · exact absurd hpart List.not_mem_nil
    · rename_i hempty
      have hne : conditions ≠ [] := fun hnil => hempty (List.isEmpty_iff.2 hnil)
      split at hpart
      · have hgroup : (BoundCondition.group .and conditions).IsLegible := .group hne hconditions
        rw [List.mem_singleton.1 hpart]
        exact BoundCondition.orderedFrom_words hgroup
      · rw [List.mem_singleton.1 hpart]
        exact BoundCondition.orderedFrom_wordsList hne hconditions
  · obtain ⟨t, -, rfl⟩ := List.mem_map.1 hpart
    exact fun _ _ => rfl

theorem legible_of_mem_whereTokens (hq : Delimiter q.quote)
    (hconditions : ∀ c ∈ conditions, c.IsLegible)
    (hjson : ∀ t ∈ json, Scanner.Legible q.quote (ofBound t)) {letters : List Letter}
    (h : .test letters ∈ whereTokens q conditions json) : Scanner.Legible q.quote letters := by
  obtain ⟨part, hpart, hmem⟩ := Token.mem_allOf h
  rcases List.mem_append.1 hpart with hpart | hpart
  · split at hpart
    · exact absurd hpart List.not_mem_nil
    · split at hpart
      · rw [List.mem_singleton.1 hpart, List.mem_append, List.mem_cons, List.mem_singleton] at hmem
        rcases hmem with (hmem | hmem) | hmem
        · exact nomatch hmem
        · exact BoundCondition.legible_of_mem_tokensList hq hconditions hmem
        · exact nomatch hmem
      · rw [List.mem_singleton.1 hpart] at hmem
        exact BoundCondition.legible_of_mem_tokensList hq hconditions hmem
  · obtain ⟨t, ht, rfl⟩ := List.mem_map.1 hpart
    rw [List.mem_singleton, Token.test.injEq] at hmem
    exact hmem ▸ hjson t ht

/-- **The text of legible conditions means what they mean.**  Its truth value is that of the
conditions and all of the JSON predicates. -/
theorem value?_whereLetters (hq : Delimiter q.quote) (hconditions : ∀ c ∈ conditions, c.IsLegible)
    (hjson : ∀ t ∈ json, Scanner.Legible q.quote (ofBound t)) {letters : List Letter}
    (h : letters ∈ whereLetters? q conditions json) (satisfies : BoundText → Bool) :
    Letter.value? q.quote satisfies letters =
      some (BoundCondition.holdsList q satisfies conditions && json.all satisfies) := by
  unfold whereLetters? at h
  split at h
  · exact nomatch h
  · rename_i hempty
    obtain rfl := Option.some.inj h
    have hne : whereParts q conditions json ≠ [] := by
      intro hnil
      rw [← isEmpty_whereParts (q := q), hnil] at hempty
      exact hempty rfl
    have hordered : Word.orderedFrom 0 true ((whereTokens q conditions json).map Token.word) =
        true := by
      rw [map_word_whereTokens]
      exact Word.orderedFrom_allOf hne fun part => isPredicate_of_mem_whereParts hconditions
    rw [Letter.value?, Scanner.tokens?_flatMap hq hordered fun letters =>
      legible_of_mem_whereTokens hq hconditions hjson]
    simp only
    rw [if_pos hordered, map_word_whereTokens, satisfied_allOf_whereParts]

end BoundClauses
end EntityQuery
