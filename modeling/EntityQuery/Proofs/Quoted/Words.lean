/-
# The words of a text

A text is split at its runs of blanks.  So blanks around it do not matter (`words_trim`),
a run of other characters in front of a blank is its first word
(`wordsFrom_append_blank_cons`), and each word is such a run (`solid_of_mem_words`), the first
one standing at the beginning of the text once its blanks in front are dropped
(`isPrefix_of_words`).
-/

import EntityQuery.Proofs.Quiet.Text

namespace EntityQuery
namespace Text

/-- A run of characters without blanks that is not empty. -/
structure Solid (cs : List Char) : Prop where
  ne_nil : cs ≠ []
  isBlank : ∀ c ∈ cs, isBlank c = false

variable {cs front back rest : List Char}

/-! ### Blanks that make no difference -/

theorem wordsFrom_blank_append (hfront : ∀ c ∈ front, isBlank c = true) (cs : List Char) :
    wordsFrom [] (front ++ cs) = wordsFrom [] cs := by
  induction front with
  | nil => rfl
  | cons c front ih =>
      rw [List.cons_append, wordsFrom, hfront c List.mem_cons_self]
      exact ih fun d hd => hfront d (List.mem_cons_of_mem _ hd)

theorem wordsFrom_of_blank (hback : ∀ c ∈ back, isBlank c = true) (word : List Char) :
    wordsFrom word back = wordsFrom word [] := by
  cases back with
  | nil => rfl
  | cons c back =>
      have hrest : wordsFrom [] back = [] := by
        have hblank := wordsFrom_blank_append
          (fun d hd => hback d (List.mem_cons_of_mem _ hd)) []
        rwa [List.append_nil] at hblank
      rw [wordsFrom, wordsFrom, hback c List.mem_cons_self, hrest, if_pos rfl]

theorem wordsFrom_append_blank (hback : ∀ c ∈ back, isBlank c = true) (word cs : List Char) :
    wordsFrom word (cs ++ back) = wordsFrom word cs := by
  induction cs generalizing word with
  | nil => exact wordsFrom_of_blank hback word
  | cons c cs ih =>
      rw [List.cons_append, wordsFrom, wordsFrom, ih, ih]

/-- A trimmed text has the words it had before. -/
theorem words_trim (s : String) : words (trim s) = words s := by
  obtain ⟨front, back, hs, hfront, hback⟩ := Placeholder.exists_trim s
  rw [words, words, hs, List.append_assoc, wordsFrom_blank_append hfront,
    wordsFrom_append_blank hback]

theorem wordsFrom_trimStart (cs : List Char) : wordsFrom [] (trimStart cs) = wordsFrom [] cs := by
  have hsplit := List.takeWhile_append_dropWhile (p := isBlank) (l := cs)
  have hblank : ∀ c ∈ cs.takeWhile isBlank, isBlank c = true := fun _ => List.mem_takeWhile_imp
  have hwords := wordsFrom_blank_append hblank (trimStart cs)
  rw [trimStart, hsplit] at hwords
  exact hwords.symm

/-! ### Reading words -/

theorem wordsFrom_append_solid (hcs : ∀ c ∈ cs, isBlank c = false) (word rest : List Char) :
    wordsFrom word (cs ++ rest) = wordsFrom (cs.reverse ++ word) rest := by
  induction cs generalizing word with
  | nil => rfl
  | cons c cs ih =>
      rw [List.cons_append, wordsFrom, hcs c List.mem_cons_self, if_neg Bool.false_ne_true,
        ih fun d hd => hcs d (List.mem_cons_of_mem _ hd), List.reverse_cons, List.append_assoc]
      rfl

/-- A run without blanks is one word. -/
theorem Solid.wordsFrom (h : Solid cs) : wordsFrom [] cs = [cs] := by
  have hread := wordsFrom_append_solid h.isBlank [] []
  rw [List.append_nil, List.append_nil] at hread
  rw [hread, Text.wordsFrom, if_neg (by simpa using h.ne_nil), List.reverse_reverse]

/-- A run in front of a blank is the first word. -/
theorem Solid.wordsFrom_append_cons (h : Solid cs) {c : Char} (hc : Text.isBlank c = true)
    (rest : List Char) : Text.wordsFrom [] (cs ++ c :: rest) = cs :: Text.wordsFrom [] rest := by
  rw [wordsFrom_append_solid h.isBlank, List.append_nil, Text.wordsFrom, if_pos hc,
    if_neg (by simpa using h.ne_nil), List.reverse_reverse]

/-- No blanks are dropped in front of a run without them. -/
theorem Solid.trimStart_append (h : Solid cs) (rest : List Char) :
    trimStart (cs ++ rest) = cs ++ rest := by
  obtain ⟨c, more, rfl⟩ := List.exists_cons_of_ne_nil h.ne_nil
  rw [trimStart, List.cons_append, List.dropWhile_cons, h.isBlank c List.mem_cons_self,
    if_neg Bool.false_ne_true]

theorem Solid.trim {s : String} (h : Solid s.toList) : trim s = s := by
  have hreverse : Solid s.toList.reverse :=
    ⟨by simpa using h.ne_nil, fun c hc => h.isBlank c (List.mem_reverse.1 hc)⟩
  have hstart := h.trimStart_append []
  have hend := hreverse.trimStart_append []
  rw [List.append_nil] at hstart hend
  rw [trimStart] at hend
  rw [Text.trim, hstart, trimEnd, hend, List.reverse_reverse, String.ofList_toList]

/-- Every word is a run of characters of the text. -/
theorem solid_of_mem_wordsFrom {word w : List Char} (hword : ∀ c ∈ word, isBlank c = false)
    (hw : w ∈ wordsFrom word cs) : Solid w ∧ ∀ c ∈ w, c ∈ word ∨ c ∈ cs := by
  have hdone : ∀ word' : List Char, word'.isEmpty = false → (∀ c ∈ word', isBlank c = false) →
      w = word'.reverse → Solid w ∧ ∀ c ∈ w, c ∈ word' := by
    rintro word' hne hsolid rfl
    refine ⟨⟨?_, fun c hc => hsolid c (List.mem_reverse.1 hc)⟩, fun c => List.mem_reverse.1⟩
    rw [Ne, List.reverse_eq_nil_iff, ← List.isEmpty_iff, hne]
    exact Bool.false_ne_true
  induction cs generalizing word with
  | nil =>
      rw [wordsFrom] at hw
      split at hw
      · exact absurd hw List.not_mem_nil
      · rename_i hne
        obtain ⟨hsolid, hmem⟩ :=
          hdone word (Bool.eq_false_iff.2 hne) hword (List.mem_singleton.1 hw)
        exact ⟨hsolid, fun c hc => .inl (hmem c hc)⟩
  | cons c cs ih =>
      rw [wordsFrom] at hw
      have hnil : ∀ d ∈ ([] : List Char), isBlank d = false := List.forall_mem_nil _
      have hlater : w ∈ wordsFrom [] cs → Solid w ∧ ∀ d ∈ w, d ∈ word ∨ d ∈ c :: cs := by
        intro hrest
        obtain ⟨hsolid, hmem⟩ := ih hnil hrest
        exact ⟨hsolid, fun d hd => .inr (List.mem_cons_of_mem _
          ((hmem d hd).resolve_left List.not_mem_nil))⟩
      split at hw
      · split at hw
        · exact hlater hw
        · rename_i hne
          rcases List.mem_cons.1 hw with heq | hrest
          · obtain ⟨hsolid, hmem⟩ := hdone word (Bool.eq_false_iff.2 hne) hword heq
            exact ⟨hsolid, fun d hd => .inl (hmem d hd)⟩
          · exact hlater hrest
      · rename_i hc
        obtain ⟨hsolid, hmem⟩ :=
          ih (List.forall_mem_cons.2 ⟨Bool.eq_false_iff.2 hc, hword⟩) hw
        refine ⟨hsolid, fun d hd => ?_⟩
        rcases hmem d hd with hd | hd
        · rcases List.mem_cons.1 hd with rfl | hd
          · exact .inr List.mem_cons_self
          · exact .inl hd
        · exact .inr (List.mem_cons_of_mem _ hd)

theorem solid_of_mem_words {s : String} {w : List Char} (hw : w ∈ words s) :
    Solid w ∧ ∀ c ∈ w, c ∈ s.toList := by
  obtain ⟨hsolid, hmem⟩ :=
    solid_of_mem_wordsFrom (fun c hc => absurd hc List.not_mem_nil) hw
  exact ⟨hsolid, fun c hc => (hmem c hc).resolve_left List.not_mem_nil⟩

theorem isPrefix_of_wordsFrom {word w : List Char} {ws : List (List Char)} (hword : word ≠ [])
    (h : wordsFrom word cs = w :: ws) : w <+: word.reverse ++ cs := by
  have hne : word.isEmpty = false := by simpa using hword
  induction cs generalizing word with
  | nil =>
      rw [wordsFrom, hne, if_neg Bool.false_ne_true] at h
      rw [← (List.cons.inj h).1]
      exact List.prefix_append _ _
  | cons c cs ih =>
      rw [wordsFrom, hne, if_neg Bool.false_ne_true] at h
      split at h
      · rw [← (List.cons.inj h).1]
        exact List.prefix_append _ _
      · have hlonger := ih (List.cons_ne_nil c word) h rfl
        rw [List.reverse_cons, List.append_assoc] at hlonger
        exact hlonger

/-- A text begins with its first word, the blanks in front aside. -/
theorem isPrefix_of_words {s : String} {w : List Char} {ws : List (List Char)}
    (h : words s = w :: ws) : w <+: trimStart s.toList := by
  rw [words, ← wordsFrom_trimStart] at h
  cases hstart : trimStart s.toList with
  | nil =>
      rw [hstart, wordsFrom] at h
      exact absurd h.symm (List.cons_ne_nil w ws)
  | cons c rest =>
      rw [hstart] at h
      have hc : isBlank c = false := by
        have hhead := List.head?_dropWhile_not isBlank s.toList
        rw [← trimStart, hstart] at hhead
        simpa using hhead
      rw [wordsFrom, hc, if_neg Bool.false_ne_true] at h
      exact isPrefix_of_wordsFrom (List.cons_ne_nil c []) h

end Text
end EntityQuery
