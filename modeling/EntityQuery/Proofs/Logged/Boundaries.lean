/-
# Where a text can be cut

A text is cut at a number of its bytes, and a character may take up to four of them.
The place to cut is found on the bytes: every byte of a character but the first is a
continuation, and the search goes back from the limit until the byte after it is
none (`boundaryFrom`).  Cutting anywhere else has no result (`slice?`).

`isBoundary_iff` says what is found in this way: the boundaries are the lengths of the
beginnings of the text in whole characters.  The longest of these within a limit is
`cut` (`prefix_cut_iff`), so the search ends there, the slice is the text of `cut`, and
a text is always shortened (`logged?_some`).
-/

import EntityQuery.Proofs.Encoded.Formats

namespace EntityQuery
namespace Text

variable {s : String} {cs kept : List Char} {bytes : List UInt8} {limit n : Nat}

/-! ### Bytes -/

theorem utf8_ofList (cs : List Char) :
    utf8 (String.ofList cs) = cs.flatMap String.utf8EncodeChar := by
  rw [utf8, String.toUTF8_eq_toByteArray, ByteArray.toList, toList_loop, List.reverse_nil,
    List.nil_append, List.drop_zero, String.toByteArray_ofList, List.utf8Encode,
    List.data_toByteArray]

theorem utf8_eq_flatMap (s : String) : utf8 s = s.toList.flatMap String.utf8EncodeChar := by
  rw [← utf8_ofList, String.ofList_toList]

theorem length_utf8 (s : String) : (utf8 s).length = byteLength s.toList := by
  rw [utf8_eq_flatMap]
  induction s.toList with
  | nil => rfl
  | cons c cs ih =>
      rw [List.flatMap_cons, List.length_append, String.length_utf8EncodeChar, ih, byteLength]

theorem byteLength_append (cs ds : List Char) :
    byteLength (cs ++ ds) = byteLength cs + byteLength ds := by
  induction cs with
  | nil => exact (Nat.zero_add _).symm
  | cons c cs ih => rw [List.cons_append, byteLength, byteLength, ih, Nat.add_assoc]

theorem byteLength_le_of_prefix (h : kept <+: cs) : byteLength kept ≤ byteLength cs := by
  obtain ⟨rest, rfl⟩ := h
  rw [byteLength_append]
  exact Nat.le_add_right _ _

/-- Whether a byte stands inside of a character. -/
def isContinuation (byte : UInt8) : Bool :=
  0x80 ≤ byte && byte < 0xC0

/-- A character is one byte that starts it and continuations. -/
theorem exists_utf8EncodeChar (c : Char) :
    ∃ first others, String.utf8EncodeChar c = first :: others ∧ isContinuation first = false ∧
      ∀ byte ∈ others, isContinuation byte = true := by
  have hcontinues : ∀ k, isContinuation (UInt8.ofNat (k % 64 + 128)) = true := by
    intro k
    simp [isContinuation, UInt8.le_iff_toNat_le, UInt8.lt_iff_toNat_lt]
    omega
  have hstarts : ∀ k, k < 128 ∨ 192 ≤ k ∧ k < 256 → isContinuation (UInt8.ofNat k) = false := by
    intro k hk
    simp [isContinuation, UInt8.le_iff_toNat_le, UInt8.lt_iff_toNat_lt]
    omega
  unfold String.utf8EncodeChar
  dsimp only
  split
  · rename_i hv
    exact ⟨_, _, rfl, hstarts _ (.inl (by omega)), List.forall_mem_nil _⟩
  · split
    · refine ⟨_, _, rfl, hstarts _ (.inr (by omega)), ?_⟩
      exact List.forall_mem_singleton.2 (hcontinues _)
    · split
      · refine ⟨_, _, rfl, hstarts _ (.inr (by omega)), ?_⟩
        exact List.forall_mem_cons.2 ⟨hcontinues _, List.forall_mem_singleton.2 (hcontinues _)⟩
      · refine ⟨_, _, rfl, hstarts _ (.inr (by omega)), ?_⟩
        exact List.forall_mem_cons.2 ⟨hcontinues _, List.forall_mem_cons.2
          ⟨hcontinues _, List.forall_mem_singleton.2 (hcontinues _)⟩⟩

/-- The bytes of characters do not begin inside of one. -/
theorem isContinuation_of_head? {byte : UInt8}
    (h : (cs.flatMap String.utf8EncodeChar).head? = some byte) : isContinuation byte = false := by
  cases cs with
  | nil => exact nomatch h
  | cons c cs =>
      obtain ⟨first, others, heq, hfirst, -⟩ := exists_utf8EncodeChar c
      rw [List.flatMap_cons, heq, List.cons_append, List.head?_cons] at h
      exact Option.some.inj h ▸ hfirst

/-! ### Boundaries -/

/-- Whether a text can be cut at a number of its bytes. -/
def isBoundary (bytes : List UInt8) (n : Nat) : Bool :=
  n == 0 ||
    match bytes[n]? with
    | none => n == bytes.length
    | some byte => !isContinuation byte

/-- The search for a boundary, back from a number of bytes. -/
def boundaryFrom (bytes : List UInt8) : Nat → Nat
  | 0 => 0
  | n + 1 => if isBoundary bytes (n + 1) then n + 1 else boundaryFrom bytes n

theorem boundaryFrom_le (bytes : List UInt8) (n : Nat) : boundaryFrom bytes n ≤ n := by
  induction n with
  | zero => exact Nat.le_refl 0
  | succ n ih =>
      rw [boundaryFrom]
      split
      · exact Nat.le_refl _
      · exact Nat.le_succ_of_le ih

/-- **The search ends at a boundary.** -/
theorem isBoundary_boundaryFrom (bytes : List UInt8) (n : Nat) :
    isBoundary bytes (boundaryFrom bytes n) = true := by
  induction n with
  | zero => rfl
  | succ n ih =>
      rw [boundaryFrom]
      split
      · assumption
      · exact ih

/-- It goes past none. -/
theorem le_boundaryFrom {m : Nat} (hm : isBoundary bytes m = true) (hle : m ≤ n) :
    m ≤ boundaryFrom bytes n := by
  induction n with
  | zero => exact hle
  | succ n ih =>
      rw [boundaryFrom]
      split
      · exact hle
      · rename_i hn
        refine ih (Nat.lt_succ_iff.1 (Nat.lt_of_le_of_ne hle ?_))
        rintro rfl
        exact hn hm

/-- Inside of a character there is no boundary. -/
theorem isBoundary_inside {c : Char} (hpos : n ≠ 0) (hlt : n < c.utf8Size) :
    isBoundary ((c :: cs).flatMap String.utf8EncodeChar) n = false := by
  obtain ⟨first, others, heq, -, hothers⟩ := exists_utf8EncodeChar c
  have hlength : others.length + 1 = c.utf8Size := by
    rw [← String.length_utf8EncodeChar, heq, List.length_cons]
  obtain ⟨m, rfl⟩ := Nat.exists_eq_succ_of_ne_zero hpos
  have hm : m < others.length := by omega
  have hbyte : ((c :: cs).flatMap String.utf8EncodeChar)[m + 1]? = some others[m] := by
    rw [List.flatMap_cons, heq, List.cons_append, List.getElem?_cons_succ,
      List.getElem?_append_left hm, List.getElem?_eq_getElem hm]
  rw [isBoundary, hbyte]
  simp [hothers _ (List.getElem_mem hm)]

/-- Behind a character there are the boundaries of what follows it. -/
theorem isBoundary_behind (c : Char) (cs : List Char) (n : Nat) :
    isBoundary ((c :: cs).flatMap String.utf8EncodeChar) (c.utf8Size + n) =
      isBoundary (cs.flatMap String.utf8EncodeChar) n := by
  have hpos := c.utf8Size_pos
  have hbyte : ((c :: cs).flatMap String.utf8EncodeChar)[c.utf8Size + n]? =
      (cs.flatMap String.utf8EncodeChar)[n]? := by
    rw [List.flatMap_cons, List.getElem?_append_right (by simp), String.length_utf8EncodeChar,
      Nat.add_sub_cancel_left]
  have hlength : ((c :: cs).flatMap String.utf8EncodeChar).length =
      c.utf8Size + (cs.flatMap String.utf8EncodeChar).length := by
    rw [List.flatMap_cons, List.length_append, String.length_utf8EncodeChar]
  have hzero : (c.utf8Size + n == 0) = false := by
    rw [beq_eq_false_iff_ne]
    omega
  rw [isBoundary, isBoundary, hbyte, hlength, hzero, Bool.false_or]
  -- Directly behind the character the text ends or the next character starts.
  cases hnext : (cs.flatMap String.utf8EncodeChar)[n]? with
  | none =>
      have hend := List.getElem?_eq_none_iff.1 hnext
      rw [Bool.eq_iff_iff]
      simp only [Bool.or_eq_true, beq_iff_eq]
      omega
  | some byte =>
      cases n with
      | zero =>
          rw [← List.head?_eq_getElem?] at hnext
          simp only [isContinuation_of_head? hnext]
          rfl
      | succ n => rfl

/-- **Boundaries are the ends of whole characters.** -/
theorem isBoundary_iff : isBoundary (cs.flatMap String.utf8EncodeChar) n = true ↔
    ∃ kept, kept <+: cs ∧ byteLength kept = n := by
  induction cs generalizing n with
  | nil =>
      have hnil : isBoundary ([].flatMap String.utf8EncodeChar) n = true ↔ n = 0 := by
        simp [isBoundary]
      rw [hnil]
      constructor
      · rintro rfl
        exact ⟨[], List.nil_prefix, rfl⟩
      · rintro ⟨kept, hkept, rfl⟩
        rw [List.prefix_nil.1 hkept, byteLength]
  | cons c cs ih =>
      rcases Nat.lt_or_ge n c.utf8Size with hlt | hge
      · by_cases hzero : n = 0
        · subst hzero
          exact iff_of_true rfl ⟨[], List.nil_prefix, rfl⟩
        · rw [isBoundary_inside hzero hlt]
          refine iff_of_false Bool.false_ne_true ?_
          rintro ⟨kept, hkept, rfl⟩
          cases kept with
          | nil => exact hzero rfl
          | cons d kept =>
              obtain ⟨rfl, -⟩ := List.cons_prefix_cons.1 hkept
              rw [byteLength] at hlt
              omega
      · obtain ⟨m, rfl⟩ := Nat.exists_eq_add_of_le hge
        rw [isBoundary_behind, ih]
        constructor
        · rintro ⟨kept, hkept, rfl⟩
          exact ⟨c :: kept, List.cons_prefix_cons.2 ⟨rfl, hkept⟩, rfl⟩
        · rintro ⟨kept, hkept, hlength⟩
          cases kept with
          | nil =>
              have hpos := c.utf8Size_pos
              rw [byteLength] at hlength
              omega
          | cons d kept =>
              obtain ⟨rfl, hrest⟩ := List.cons_prefix_cons.1 hkept
              exact ⟨kept, hrest, Nat.add_left_cancel hlength⟩

/-! ### The longest beginning within a limit -/

/-- **What is cut off does not fit.**  The beginnings within the limit are those of the cut. -/
theorem prefix_cut_iff : kept <+: cut limit cs ↔ kept <+: cs ∧ byteLength kept ≤ limit := by
  induction cs generalizing kept limit with
  | nil =>
      rw [cut]
      refine ⟨fun h => ⟨h, ?_⟩, And.left⟩
      rw [List.prefix_nil.1 h, byteLength]
      exact Nat.zero_le limit
  | cons c cs ih =>
      cases kept with
      | nil => exact iff_of_true List.nil_prefix ⟨List.nil_prefix, Nat.zero_le limit⟩
      | cons d kept =>
          rw [cut, List.cons_prefix_cons, byteLength]
          split
          · rename_i hfits
            rw [List.cons_prefix_cons, ih, and_assoc]
            refine and_congr_right fun heq => and_congr_right fun _ => ?_
            subst heq
            omega
          · rename_i hfits
            refine iff_of_false (fun h => List.cons_ne_nil d kept (List.prefix_nil.1 h)) ?_
            rintro ⟨⟨rfl, -⟩, hlength⟩
            omega

theorem isPrefix_cut (limit : Nat) (cs : List Char) : cut limit cs <+: cs :=
  (prefix_cut_iff.1 (List.prefix_refl _)).1

/-- **The search finds the end of the cut.** -/
theorem boundaryFrom_utf8 (limit : Nat) (s : String) :
    boundaryFrom (utf8 s) limit = byteLength (cut limit s.toList) := by
  rw [utf8_eq_flatMap]
  refine Nat.le_antisymm ?_ (le_boundaryFrom ?_ (byteLength_cut_le limit _))
  · obtain ⟨kept, hkept, hlength⟩ := isBoundary_iff.1 (isBoundary_boundaryFrom _ limit)
    have hle : byteLength kept ≤ limit := hlength ▸ boundaryFrom_le _ limit
    exact hlength ▸ byteLength_le_of_prefix (prefix_cut_iff.2 ⟨hkept, hle⟩)
  · exact isBoundary_iff.2 ⟨_, isPrefix_cut limit _, rfl⟩

/-! ### Shortening -/

/-- The text of the first bytes of a text; there is none if they do not end at a boundary. -/
def slice? (s : String) (n : Nat) : Option String :=
  if isBoundary (utf8 s) n then ofUtf8? ((utf8 s).take n) else none

/-- The beginning of a text within a number of bytes, cut where the search ends. -/
def truncate? (limit : Nat) (s : String) : Option String :=
  if (utf8 s).length ≤ limit then some s else slice? s (boundaryFrom (utf8 s) limit)

/-- The text that is logged: the whole text, or its beginning and three dots. -/
def logged? (limit : Option Nat) (s : String) : Option String :=
  match limit with
  | some limit =>
    if limit < (utf8 s).length then (truncate? limit s).map (· ++ "...") else some s
  | none => some s

/-- **A slice at the end of whole characters is their text.** -/
theorem slice?_of_prefix (h : kept <+: s.toList) :
    slice? s (byteLength kept) = some (String.ofList kept) := by
  obtain ⟨rest, hrest⟩ := h
  have hbytes : utf8 s = utf8 (String.ofList kept) ++ rest.flatMap String.utf8EncodeChar := by
    rw [utf8_eq_flatMap, utf8_ofList, ← hrest, List.flatMap_append]
  have hlength : (utf8 (String.ofList kept)).length = byteLength kept := by
    rw [length_utf8, String.toList_ofList]
  have hboundary : isBoundary (utf8 s) (byteLength kept) = true := by
    rw [utf8_eq_flatMap]
    exact isBoundary_iff.2 ⟨kept, ⟨rest, hrest⟩, rfl⟩
  rw [slice?, if_pos hboundary, hbytes, ← hlength, List.take_left, ofUtf8?_utf8]

/-- **A text is always shortened.**  Cutting at the place that is found has a result, the longest
beginning of whole characters within the limit. -/
theorem logged?_some (limit : Nat) (s : String) :
    logged? (some limit) s = some (shorten limit s) := by
  rw [logged?, shorten, ← length_utf8]
  rcases Nat.lt_or_ge limit (utf8 s).length with hlong | hfits
  · rw [if_pos hlong, if_neg (Nat.not_le.2 hlong), truncate?, if_neg (Nat.not_le.2 hlong),
      boundaryFrom_utf8, slice?_of_prefix (isPrefix_cut limit _), Option.map_some]
  · rw [if_neg (Nat.not_lt.2 hfits), if_pos hfits]

theorem shorten_of_le (h : (utf8 s).length ≤ limit) : shorten limit s = s :=
  if_pos (length_utf8 s ▸ h)

/-- **What is kept of a long text** is its longest beginning in whole characters that fits. -/
theorem exists_shorten_of_lt (h : limit < (utf8 s).length) :
    ∃ kept : String, shorten limit s = kept ++ "..." ∧ kept.toList <+: s.toList ∧
      (utf8 kept).length ≤ limit ∧
      ∀ other : String, other.toList <+: s.toList → (utf8 other).length ≤ limit →
        other.toList <+: kept.toList := by
  have hlong : ¬byteLength s.toList ≤ limit := Nat.not_le.2 (length_utf8 s ▸ h)
  refine ⟨String.ofList (cut limit s.toList), if_neg hlong, ?_, ?_, fun other hother hfits => ?_⟩
  · rw [String.toList_ofList]
    exact isPrefix_cut limit s.toList
  · rw [length_utf8, String.toList_ofList]
    exact byteLength_cut_le limit s.toList
  · rw [String.toList_ofList]
    exact prefix_cut_iff.2 ⟨hother, length_utf8 other ▸ hfits⟩

/-- The limit lies inside of the last character. -/
example : shorten 8 "SELECT é" = "SELECT ..." := by
  decide

end Text
end EntityQuery
