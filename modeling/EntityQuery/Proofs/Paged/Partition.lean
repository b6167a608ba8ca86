/-
# Pages partition a result

The pages of a result with rows are numbered from one to the last one.  One
equation carries everything that is said of them: a number is below that of the
last page exactly if so many full pages do not reach the end of the rows
(`Page.lt_last_iff`).  So more pages follow exactly if more rows do, and the row at a
position is on the page that the position divided by the page size names
(`covers_iff`).  The pages therefore partition the rows (`partition_last`).

As long as there are rows, no step from the words of a request to those of its page
and to the rows before it leaves the words (`Page.IsExact`).
`pages_partition_result` puts this together with the limit and the offset that a
statement gets for a page.
-/

import EntityQuery.Proofs.Paged.Words
import EntityQuery.Proofs.Run.Action
import EntityQuery.Statement.Execute

namespace EntityQuery
namespace Page

variable {total perPage page : UInt64}

/-! ### Pages that exist -/

/-- No step to the page for a request leaves the words: each operation on words comes to what it
comes to on numbers. -/
structure IsExact (total perPage page : UInt64) (p : Page) : Prop where
  /-- The size of a page divides. -/
  divisor_ne : max perPage 1 ≠ 0
  /-- One is added to a quotient only if a rest is left. -/
  quotient_eq : total % max perPage 1 ≠ 0 →
    (total / max perPage 1 + 1).toNat = (total / max perPage 1).toNat + 1
  total_eq : p.total = total
  perPage_eq : p.perPage.toNat = max perPage.toNat 1
  last_eq : p.last.toNat = max ((total.toNat + p.perPage.toNat - 1) / p.perPage.toNat) 1
  current_eq : p.current.toNat = min (max page.toNat 1) p.last.toNat
  /-- The page that is shown has a number to take one from. -/
  before_eq : (p.current - 1).toNat + 1 = p.current.toNat
  /-- The product. -/
  offset_eq : p.offset = (p.current - 1).toNat * p.perPage.toNat

theorem toNat_current_of_pos (htotal : 0 < total) (perPage page : UInt64) :
    (ofWords total perPage page).current.toNat =
      min (max page.toNat 1) (ofWords total perPage page).last.toNat := by
  have htotal' : 0 < total.toNat := UInt64.lt_iff_toNat_lt.1 htotal
  rw [toNat_current, if_neg (Nat.ne_of_gt htotal')]

/-- **The arithmetic of pages stays within the words.** -/
theorem isExact_ofWords (htotal : 0 < total) (perPage page : UInt64) :
    IsExact total perPage page (ofWords total perPage page) := by
  have hcurrent : 1 ≤ (ofWords total perPage page).current.toNat := one_le_current ..
  have hsub := toNat_sub_one hcurrent
  exact {
    divisor_ne := max_one_ne_zero perPage
    quotient_eq := toNat_succ_quotient (max_one_ne_zero perPage)
    total_eq := rfl
    perPage_eq := toNat_perPage ..
    last_eq := by rw [toNat_perPage, toNat_last]
    current_eq := toNat_current_of_pos htotal perPage page
    before_eq := by rw [hsub, Nat.sub_add_cancel hcurrent]
    offset_eq := by rw [hsub, offset_of_pos htotal] }

/-- A page that exists is the one that is shown. -/
theorem current_of_le_last (htotal : 0 < total) (hpage : 1 ≤ page)
    (hlast : page ≤ (ofWords total perPage page).last) :
    (ofWords total perPage page).current = page := by
  rw [UInt64.le_iff_toNat_le] at hpage hlast
  have hone : (1 : UInt64).toNat = 1 := rfl
  rw [← UInt64.toNat_inj, toNat_current_of_pos htotal]
  omega

theorem current_le_last (htotal : 0 < total) (perPage page : UInt64) :
    (ofWords total perPage page).current ≤ (ofWords total perPage page).last := by
  rw [UInt64.le_iff_toNat_le, toNat_current_of_pos htotal]
  exact Nat.min_le_right _ _

theorem offset_of_le_last (htotal : 0 < total) (hpage : 1 ≤ page)
    (hlast : page ≤ (ofWords total perPage page).last) :
    (ofWords total perPage page).offset = (page.toNat - 1) * max perPage.toNat 1 := by
  rw [offset_of_pos htotal, current_of_le_last htotal hpage hlast, toNat_perPage]

/-- More pages follow exactly if more rows do. -/
theorem hasMore_iff (htotal : 0 < total) :
    (ofWords total perPage page).hasMore = true ↔
      (ofWords total perPage page).offset + max perPage.toNat 1 < total.toNat := by
  have hcurrent : 1 ≤ (ofWords total perPage page).current.toNat := one_le_current ..
  rw [hasMore, decide_eq_true_iff, UInt64.lt_iff_toNat_lt, lt_last_iff htotal perPage page,
    offset_of_pos htotal, toNat_perPage]
  generalize (ofWords total perPage page).current.toNat = current at hcurrent
  obtain ⟨before, rfl⟩ := Nat.exists_eq_add_of_le' hcurrent
  rw [Nat.add_sub_cancel, Nat.succ_mul]

/-! ### The rows of a page -/

/-- Whether a position is in the range that a page asks for. -/
def Covers (p : Page) (i : Nat) : Prop :=
  p.offset ≤ i ∧ i < p.offset + p.perPage.toNat

/-- The rows that a page cuts from all rows. -/
def cut {α : Type} (p : Page) (rows : List α) : List α :=
  (rows.drop p.offset).take p.perPage.toNat

/-- **The page of a position.** -/
theorem covers_iff (htotal : 0 < total) {i : Nat} (hpage : 1 ≤ page)
    (hlast : page ≤ (ofWords total perPage page).last) :
    (ofWords total perPage page).Covers i ↔ i / max perPage.toNat 1 + 1 = page.toNat := by
  have hpos : 0 < max perPage.toNat 1 := by omega
  rw [Covers, offset_of_le_last htotal hpage hlast, toNat_perPage]
  obtain ⟨k, hk⟩ := Nat.exists_eq_add_of_le' (UInt64.le_iff_toNat_le.1 hpage)
  have hone : (1 : UInt64).toNat = 1 := rfl
  rw [hk, hone, Nat.add_sub_cancel, Nat.add_right_cancel_iff, Nat.div_eq_iff hpos, Nat.mul_comm]
  omega

/-- The number after one that comes before a word is a word. -/
theorem toNat_ofNat_succ {k : Nat} {last : UInt64} (hk : k < last.toNat) :
    (UInt64.ofNat (k + 1)).toNat = k + 1 ∧ 1 ≤ UInt64.ofNat (k + 1) ∧
      UInt64.ofNat (k + 1) ≤ last := by
  have hword : (UInt64.ofNat (k + 1)).toNat = k + 1 :=
    UInt64.toNat_ofNat_of_lt' (Nat.lt_of_le_of_lt hk last.toNat_lt)
  refine ⟨hword, ?_, ?_⟩
  · rw [UInt64.le_iff_toNat_le, hword]
    exact Nat.le_add_left 1 k
  · rw [UInt64.le_iff_toNat_le, hword]
    exact hk

/-- The first pages, cut one after the other, are the first rows. -/
theorem flatMap_cut_range (htotal : 0 < total) {α : Type} (rows : List α) {n : Nat}
    (hn : n ≤ (ofWords total perPage page).last.toNat) :
    (List.range n).flatMap (fun k => (ofWords total perPage (UInt64.ofNat (k + 1))).cut rows) =
      rows.take (n * max perPage.toNat 1) := by
  induction n with
  | zero => simp
  | succ n ih =>
      obtain ⟨hword, hone, hlast⟩ := toNat_ofNat_succ hn
      have hcut : (ofWords total perPage (UInt64.ofNat (n + 1))).cut rows =
          (rows.drop (n * max perPage.toNat 1)).take (max perPage.toNat 1) := by
        rw [cut, offset_of_le_last htotal hone hlast, hword, Nat.add_sub_cancel, toNat_perPage]
      rw [List.range_succ, List.flatMap_append, ih (Nat.le_of_succ_le hn), List.flatMap_singleton,
        hcut, Nat.succ_mul, List.take_add]

/-- **What a partition into pages is**: the pages up to the last one, each with the range of
positions from its offset on, share the rows of a result out among themselves. -/
structure Partition (total perPage last : UInt64) : Prop where
  /-- No position is in the ranges of two pages. -/
  disjoint : ∀ {j k i}, 1 ≤ j → j ≤ last → 1 ≤ k → k ≤ last →
    (ofWords total perPage j).Covers i → (ofWords total perPage k).Covers i → j = k
  /-- The position of every row is in the range of a page. -/
  covered : ∀ i < total.toNat, ∃ k, 1 ≤ k ∧ k ≤ last ∧ (ofWords total perPage k).Covers i
  /-- No page is without rows. -/
  inhabited : ∀ k, 1 ≤ k → k ≤ last → ∃ i < total.toNat, (ofWords total perPage k).Covers i
  /-- What is cut for the pages, one after the other, are the rows. -/
  flatMap_cut : ∀ {α : Type} (rows : List α), rows.length = total.toNat →
    (List.range last.toNat).flatMap
      (fun k => (ofWords total perPage (UInt64.ofNat (k + 1))).cut rows) = rows

theorem partition_last (htotal : 0 < total) (perPage page : UInt64) :
    Partition total perPage (ofWords total perPage page).last where
  disjoint := by
    intro j k i hj hjlast hk hklast hjcovers hkcovers
    rw [← UInt64.toNat_inj, ← (covers_iff htotal hj hjlast).1 hjcovers,
      ← (covers_iff htotal hk hklast).1 hkcovers]
  covered := by
    intro i hi
    have hlast : i / max perPage.toNat 1 < (ofWords total perPage page).last.toNat :=
      (lt_last_iff htotal ..).2 (Nat.lt_of_le_of_lt (Nat.div_mul_le_self ..) hi)
    obtain ⟨hword, hone, hle⟩ := toNat_ofNat_succ hlast
    exact ⟨_, hone, hle, (covers_iff htotal hone hle).2 hword.symm⟩
  inhabited := by
    intro k hk hklast
    have hperPage : 0 < (ofWords total perPage k).perPage.toNat := by
      rw [toNat_perPage]
      omega
    exact ⟨(ofWords total perPage k).offset, offset_lt_total htotal perPage k, Nat.le_refl _,
      Nat.lt_add_of_pos_right hperPage⟩
  flatMap_cut := by
    intro α rows hrows
    have hend : total.toNat ≤ (ofWords total perPage page).last.toNat * max perPage.toNat 1 :=
      Nat.not_lt.1 fun h => Nat.lt_irrefl _ ((lt_last_iff htotal perPage page).2 h)
    rw [flatMap_cut_range htotal rows (Nat.le_refl _), List.take_of_length_le (hrows ▸ hend)]

end Page

namespace Statement

variable {s : Statement} {connection : Connection} {session session₁ : Session}

/-- The clauses for a page that exists are those of the page. -/
theorem forPage_eq_onPage {total perPage page : UInt64} (htotal : 0 < total)
    (hperPage : 1 ≤ perPage) (hpage : 1 ≤ page)
    (hlast : page ≤ (Page.ofWords total perPage page).last) :
    s.forPage page.toNat perPage.toNat = s.onPage (Page.ofWords total perPage page) := by
  have hmax : ∀ {n : UInt64}, 1 ≤ n → max n 1 = n := fun {n} hn => by
    rw [← UInt64.toNat_inj, toNat_max]
    exact Nat.max_eq_left (UInt64.le_iff_toNat_le.1 hn)
  have hsize : (Page.ofWords total perPage page).perPage = perPage := hmax hperPage
  rw [forPage, onPage, Page.offset, UInt64.ofNat_toNat, UInt64.ofNat_toNat, hmax hpage, hsize,
    Page.current_of_le_last htotal hpage hlast]

/-- Once the rows were counted, what is fetched is the page. -/
theorem perform_paginateWith {α : Type} {fetch : Statement → Action (List α)} {total : Nat}
    (hcount : s.count.perform connection session = (.ok total, session₁)) (page : Nat)
    (choice : Option Nat) :
    (paginateWith fetch s page choice).perform connection session =
      ((fun data => ⟨data, s.pageOf total page choice⟩) <$>
        fetch (s.onPage (s.pageOf total page choice))).perform connection session₁ := by
  rw [paginateWith, Action.perform_bind_ok _ hcount, map_eq_pure_bind]

/-- **Pages partition a result.**  For a result with rows, the page for a request is computed without
leaving the words of 64 bits.  The page exists and starts within the rows, more pages follow exactly
if more rows do, and a page that exists is shown when it is asked for.  The pages up to the last one
partition the rows.  A statement that is limited to a page that exists counts the rows before it
without leaving the words either, and it is the one that is fetched for the page once the rows were
counted. -/
theorem pages_partition_result (total perPage page : UInt64) (htotal : 0 < total) (p : Page)
    (hp : p = Page.ofWords total perPage page) :
    Page.IsExact total perPage page p ∧
    1 ≤ p.current ∧ p.current ≤ p.last ∧ p.offset < total.toNat ∧
    (p.hasMore = true ↔ p.offset + max perPage.toNat 1 < total.toNat) ∧
    (1 ≤ page → page ≤ p.last → p.current = page) ∧
    Page.Partition total perPage p.last ∧
    (1 ≤ perPage → 1 ≤ page → page ≤ p.last →
      (max page 1 - 1).toNat + 1 = page.toNat ∧
      (Page.rowsBefore (max page 1) perPage).toNat = (max page 1 - 1).toNat * perPage.toNat ∧
      ∀ s : Statement, s.forPage page.toNat perPage.toNat = s.onPage p ∧
        ∀ (α : Type) (fetch : Statement → Action (List α)) (choice : Option Nat) connection session
          session₁, choice.getD s.context.config.defaultPerPage = perPage.toNat →
          s.count.perform connection session = (.ok total.toNat, session₁) →
          (paginateWith fetch s page.toNat choice).perform connection session =
            ((fun data => ⟨data, p⟩) <$> fetch (s.forPage page.toNat perPage.toNat)).perform
              connection session₁) := by
  subst hp
  refine ⟨Page.isExact_ofWords htotal perPage page,
    UInt64.le_iff_toNat_le.2 (Page.one_le_current ..), Page.current_le_last htotal ..,
    Page.offset_lt_total htotal .., Page.hasMore_iff htotal, Page.current_of_le_last htotal,
    Page.partition_last htotal .., ?_⟩
  intro hperPage hpage hlast
  have hmax : (max page 1).toNat = page.toNat :=
    (toNat_max ..).trans (Nat.max_eq_left (UInt64.le_iff_toNat_le.1 hpage))
  have hone : 1 ≤ (max page 1).toNat := hmax.symm ▸ UInt64.le_iff_toNat_le.1 hpage
  have hsub := Page.toNat_sub_one hone
  refine ⟨by omega, ?_, fun s => ⟨forPage_eq_onPage htotal hperPage hpage hlast, ?_⟩⟩
  · have hfits := Page.mul_lt_total htotal perPage page
    have hsize : max perPage.toNat 1 = perPage.toNat :=
      Nat.max_eq_left (UInt64.le_iff_toNat_le.1 hperPage)
    rw [Page.current_of_le_last htotal hpage hlast, Page.toNat_perPage, hsize] at hfits
    rw [Page.toNat_rowsBefore hone, hsub, hmax]
    exact Nat.mod_eq_of_lt (Nat.lt_trans hfits total.toNat_lt)
  · intro α fetch choice connection session session₁ hchoice hcount
    have hpageOf : s.pageOf total.toNat page.toNat choice = Page.ofWords total perPage page := by
      rw [pageOf, hchoice, Page.of, UInt64.ofNat_toNat, UInt64.ofNat_toNat, UInt64.ofNat_toNat]
    rw [perform_paginateWith hcount, hpageOf, forPage_eq_onPage htotal hperPage hpage hlast]

/-- A database that counts as many rows as an answer can say, and has none. -/
def fullConnection : Connection where
  driver := .ok "mysql"
  execute _ _ _ := .ok 0
  fetchOne _ _ _ := .ok (some ⟨[("aggregate", .int 9223372036854775807)]⟩)
  fetchAll _ _ _ := .ok []

/-- The last page of the greatest count holds one row, of the two that it has room for. -/
theorem pages_partition_result_greatest :
    (0 : UInt64) < 9223372036854775807 ∧
      Page.ofWords 9223372036854775807 2 4611686018427387904 =
        ⟨9223372036854775807, 2, 4611686018427387904, 4611686018427387904⟩ ∧
      Page.Partition 9223372036854775807 2 4611686018427387904 ∧
      ((build {} [.fromTable "users"]).forPage 4611686018427387904 2).toSql =
        .ok "SELECT * FROM users LIMIT 2 OFFSET 9223372036854775806" ∧
      ∃ session, (build {} [.fromTable "users"]).count.perform fullConnection {} =
          (.ok 9223372036854775807, session) ∧
        (paginateWith fetchRows (build {} [.fromTable "users"]) 4611686018427387904
            (some 2)).perform fullConnection {} =
          ((fun data => ⟨data, ⟨9223372036854775807, 2, 4611686018427387904,
              4611686018427387904⟩⟩) <$>
            fetchRows ((build {} [.fromTable "users"]).forPage 4611686018427387904 2)).perform
              fullConnection session := by
  have hcount : (build {} [.fromTable "users"]).count.perform fullConnection {} =
      (.ok 9223372036854775807, _) := rfl
  obtain ⟨-, -, -, -, -, -, hpartition, hstatement⟩ :=
    pages_partition_result 9223372036854775807 2 4611686018427387904 (by decide) _ rfl
  obtain ⟨-, -, hstatement⟩ := hstatement (by decide) (by decide) (by decide)
  exact ⟨by decide, rfl, hpartition, rfl, _, hcount,
    (hstatement _).2 Row fetchRows (some 2) _ _ _ rfl hcount⟩

end Statement
end EntityQuery
