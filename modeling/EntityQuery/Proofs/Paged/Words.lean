/-
# The numbers of a page

A page is computed in words of 64 bits.  Here its words are read as numbers: the size
(`toNat_perPage`), the last page (`toNat_last`) and the page that is shown
(`toNat_current`) are those of unbounded arithmetic, for every request.

Only the rows before a page can be too many for a word (`Page.Fits`).  They are not as
long as there are rows, since the page then starts within them (`offset_lt_total`).
-/

import EntityQuery.Page

namespace EntityQuery

theorem toNat_max (a b : UInt64) : (max a b).toNat = max a.toNat b.toNat := by
  have hmax : max a b = if a ≤ b then b else a := rfl
  rw [hmax]
  split
  · rename_i h
    exact (Nat.max_eq_right (UInt64.le_iff_toNat_le.1 h)).symm
  · rename_i h
    rw [UInt64.le_iff_toNat_le] at h
    omega

namespace Page

/-! ### The last page -/

theorem toNat_mod_eq_zero_iff (a b : UInt64) : a.toNat % b.toNat = 0 ↔ a % b = 0 := by
  rw [← UInt64.toNat_mod, ← UInt64.toNat_inj]
  rfl

/-- One more than a quotient that leaves a rest is a word: the divisor is at least two, so the
quotient is not the greatest word. -/
theorem toNat_succ_quotient {a b : UInt64} (hb : b ≠ 0) (h : a % b ≠ 0) :
    (a / b + 1).toNat = (a / b).toNat + 1 := by
  have hpos : 0 < b.toNat := UInt64.lt_iff_toNat_lt.1 (UInt64.pos_iff_ne_zero.2 hb)
  have hrem : a.toNat % b.toNat ≠ 0 := fun hrem => h ((toNat_mod_eq_zero_iff a b).1 hrem)
  have hmod := Nat.mod_lt a.toNat hpos
  have htwo : a.toNat / b.toNat ≤ a.toNat / 2 := Nat.div_le_div_left (by omega) (by decide)
  have ha := a.toNat_lt
  rw [UInt64.toNat_add, UInt64.toNat_div]
  exact Nat.mod_eq_of_lt (by show a.toNat / b.toNat + 1 < 2 ^ 64; omega)

theorem toNat_ceilDiv (a : UInt64) {b : UInt64} (hb : b ≠ 0) :
    (ceilDiv a b).toNat = (a.toNat + b.toNat - 1) / b.toNat := by
  have hpos : 0 < b.toNat := UInt64.lt_iff_toNat_lt.1 (UInt64.pos_iff_ne_zero.2 hb)
  have hdiv := Nat.div_add_mod a.toNat b.toNat
  have hmod := Nat.mod_lt a.toNat hpos
  rw [ceilDiv]
  split
  · rename_i hrem
    rw [← toNat_mod_eq_zero_iff] at hrem
    rw [UInt64.toNat_div]
    refine (Nat.div_eq_of_lt_le ?_ ?_).symm
    · rw [Nat.mul_comm]
      omega
    · rw [Nat.add_mul, Nat.mul_comm]
      omega
  · rename_i hrem
    rw [toNat_succ_quotient hb hrem, UInt64.toNat_div]
    rw [← toNat_mod_eq_zero_iff] at hrem
    refine (Nat.div_eq_of_lt_le ?_ ?_).symm
    · rw [Nat.add_mul, Nat.mul_comm]
      omega
    · rw [Nat.add_mul, Nat.add_mul, Nat.mul_comm (a.toNat / b.toNat)]
      omega

variable {total perPage page : UInt64}

theorem max_one_ne_zero (n : UInt64) : max n 1 ≠ 0 := by
  intro h
  have hmax : max n.toNat 1 = 0 := (toNat_max n 1).symm.trans (congrArg UInt64.toNat h)
  omega

/-- The full size of a page; a size of zero counts as one. -/
theorem toNat_perPage (total perPage page : UInt64) :
    (ofWords total perPage page).perPage.toNat = max perPage.toNat 1 :=
  toNat_max perPage 1

theorem toNat_last (total perPage page : UInt64) :
    (ofWords total perPage page).last.toNat =
      max ((total.toNat + max perPage.toNat 1 - 1) / max perPage.toNat 1) 1 := by
  have hlast : (ofWords total perPage page).last = max (ceilDiv total (max perPage 1)) 1 := rfl
  rw [hlast, toNat_max, toNat_ceilDiv total (max_one_ne_zero perPage), toNat_max]
  rfl

/-- **Which pages come before the last one**: those that, full, do not reach the end of the rows. -/
theorem lt_last_iff (htotal : 0 < total) (perPage page : UInt64) {k : Nat} :
    k < (ofWords total perPage page).last.toNat ↔ k * max perPage.toNat 1 < total.toNat := by
  have htotal' : 0 < total.toNat := UInt64.lt_iff_toNat_lt.1 htotal
  rw [toNat_last]
  generalize hsize : max perPage.toNat 1 = size
  have hpos : 0 < size := by omega
  have hfirst : 1 ≤ (total.toNat + size - 1) / size := by
    rw [Nat.le_div_iff_mul_le hpos]
    omega
  rw [Nat.max_eq_left hfirst, ← Nat.succ_le_iff, Nat.le_div_iff_mul_le hpos, Nat.succ_mul]
  omega

/-! ### The page that is shown -/

/-- Without rows every page can be shown. -/
theorem toNat_current (total perPage page : UInt64) :
    (ofWords total perPage page).current.toNat =
      if total.toNat = 0 then max page.toNat 1
      else min (max page.toNat 1) (ofWords total perPage page).last.toNat := by
  have hcurrent : (ofWords total perPage page).current =
      if 0 < total ∧ (ofWords total perPage page).last < max page 1 then
        (ofWords total perPage page).last
      else max page 1 := rfl
  have hpage : (max page 1).toNat = max page.toNat 1 := toNat_max page 1
  have hzero : (0 : UInt64).toNat = 0 := rfl
  rw [hcurrent]
  generalize (ofWords total perPage page).last = last
  simp only [UInt64.lt_iff_toNat_lt, hpage, hzero]
  split
  · split
    · omega
    · omega
  · split
    · exact hpage
    · omega

theorem one_le_current (total perPage page : UInt64) :
    1 ≤ (ofWords total perPage page).current.toNat := by
  have hlast := toNat_last total perPage page
  rw [toNat_current]
  split
  · omega
  · omega

/-! ### The rows before it -/

/-- Whether a word can say how many rows are before a page. -/
def Fits (p : Page) : Prop :=
  (p.current.toNat - 1) * p.perPage.toNat < UInt64.size

theorem toNat_sub_one {page : UInt64} (hpage : 1 ≤ page.toNat) :
    (page - 1).toNat = page.toNat - 1 :=
  UInt64.toNat_sub_of_le _ _ (UInt64.le_iff_toNat_le.2 hpage)

theorem toNat_rowsBefore {page perPage : UInt64} (hpage : 1 ≤ page.toNat) :
    (rowsBefore page perPage).toNat = (page.toNat - 1) * perPage.toNat % UInt64.size := by
  rw [rowsBefore, UInt64.toNat_mul, toNat_sub_one hpage]

/-- **The rows before a page are counted exactly if a word can say how many they are.** -/
theorem offset_eq_iff_fits {p : Page} (hp : 1 ≤ p.current.toNat) :
    p.offset = (p.current.toNat - 1) * p.perPage.toNat ↔ p.Fits := by
  rw [offset, toNat_rowsBefore hp]
  exact Nat.mod_eq_iff_lt (by decide)

/-- **A page starts within the rows,** if there are rows. -/
theorem mul_lt_total (htotal : 0 < total) (perPage page : UInt64) :
    ((ofWords total perPage page).current.toNat - 1) *
      (ofWords total perPage page).perPage.toNat < total.toNat := by
  have htotal' : 0 < total.toNat := UInt64.lt_iff_toNat_lt.1 htotal
  have hcurrent := toNat_current total perPage page
  rw [if_neg (Nat.ne_of_gt htotal')] at hcurrent
  rw [toNat_perPage, ← lt_last_iff htotal perPage page]
  have hlast : 0 < (ofWords total perPage page).last.toNat :=
    (lt_last_iff htotal perPage page).2 (by omega)
  omega

theorem fits_of_pos (htotal : 0 < total) (perPage page : UInt64) :
    (ofWords total perPage page).Fits :=
  Nat.lt_trans (mul_lt_total htotal perPage page) total.toNat_lt_size

theorem offset_of_pos (htotal : 0 < total) (perPage page : UInt64) :
    (ofWords total perPage page).offset = ((ofWords total perPage page).current.toNat - 1) *
      (ofWords total perPage page).perPage.toNat :=
  (offset_eq_iff_fits (one_le_current ..)).2 (fits_of_pos htotal perPage page)

theorem offset_lt_total (htotal : 0 < total) (perPage page : UInt64) :
    (ofWords total perPage page).offset < total.toNat := by
  rw [offset_of_pos htotal]
  exact mul_lt_total htotal perPage page

end Page
end EntityQuery
