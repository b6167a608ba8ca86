/-
# Leaving out order, limit and offset

`Statement.unordered` takes the order, the limit and the offset out of a statement
together with the values of the order.  This is as if they had never been asked
for: an accepted construction without its calls of these three families builds
just that statement (`unordered_build`).

A call of one of the three families is lost (`unordered_apply_of_ordersRows`), and
every other call may be made before or after the three are taken out
(`unordered_apply`); a run is by induction on the calls.
-/

import EntityQuery.Proofs.Order.Family

namespace EntityQuery

/-- Whether a family is the order, the limit or the offset. -/
def Family.ordersRows : Family → Bool
  | .orders | .limit | .offset => true
  | _ => false

/-- Whether a call is about the order, the limit or the offset. -/
def Call.ordersRows (c : Call) : Bool :=
  c.families.any Family.ordersRows

namespace Statement

variable {f : Family} {s t : Statement} {c : Call} {calls : List Call}

/-- Order, limit and offset are taken out of a graft of these families. -/
theorem unordered_graft_of_ordersRows (hf : f.ordersRows = true)
    (h : t.buildError = s.buildError) : (graft f s t).unordered = s.unordered := by
  cases f <;> first | exact absurd hf (by decide) | (simp only [graft, h]; rfl)

theorem graft_unordered (hf : f.ordersRows = false) :
    graft f s.unordered t = (graft f s t).unordered := by
  cases f <;> first | rfl | exact absurd hf (by decide)

theorem only_unordered (hf : f.ordersRows = false) : s.unordered.only f = s.only f := by
  cases f <;> first | rfl | exact absurd hf (by decide)

/-- An operation on a family may be performed before or after order, limit and offset are taken
out. -/
theorem IsLocal.unordered {op : Statement → Statement} (hop : IsLocal f op)
    (hf : f.ordersRows = false) : (op s).unordered = op s.unordered := by
  rw [hop s, hop s.unordered, only_unordered hf, graft_unordered hf]

/-- An accepted call of one of the three families is lost. -/
theorem unordered_apply_of_ordersRows (hc : c.ordersRows = true)
    (h : (s.apply c).buildError = none) : (s.apply c).unordered = s.unordered := by
  have hs := accepted_of_apply h
  have hlocal : ∀ f, c.families = [f] → (s.apply c).unordered = s.unordered := by
    intro f hfamily
    have hf : f.ordersRows = true := by
      simpa [Call.ordersRows, hfamily] using hc
    have hop := isLocal_apply hfamily s
    simp only at hop
    rw [hop, buildError_graft] at h
    rw [hop]
    exact unordered_graft_of_ordersRows hf (h.trans hs.symm)
  cases c with
  | forPage page perPage => rfl
  | fromTable | model | dialect | restore => exact nomatch hc
  | _ => exact hlocal _ rfl

/-- Every other call may be made before or after order, limit and offset are taken out. -/
theorem unordered_apply (hc : c.ordersRows = false) (s : Statement) :
    (s.apply c).unordered = s.unordered.apply c := by
  have hlocal : ∀ f, c.families = [f] → (s.apply c).unordered = s.unordered.apply c := by
    intro f hfamily
    have hf : f.ordersRows = false := by
      simpa [Call.ordersRows, hfamily] using hc
    exact (isLocal_apply hfamily).unordered hf
  cases c with
  | fromTable | model | dialect =>
      simp only [apply]
      rfl
  | restore =>
      simp only [apply, restore, update]
      exact (isLocal_setMutation .update [(s.softDeleteColumn, .null)]).unordered rfl
  | forPage => exact nomatch hc
  | _ => exact hlocal _ rfl

theorem unordered_applyAll (h : (s.applyAll calls).buildError = none) :
    (s.applyAll calls).unordered =
      s.unordered.applyAll (calls.filter fun c => !c.ordersRows) := by
  induction calls generalizing s with
  | nil => rfl
  | cons c calls ih =>
      rw [applyAll] at h ⊢
      rw [ih h]
      cases hc : c.ordersRows with
      | true =>
          rw [List.filter_cons_of_neg (by simp [hc]),
            unordered_apply_of_ordersRows hc (accepted_of_applyAll h)]
      | false =>
          rw [List.filter_cons_of_pos (by simp [hc]), unordered_apply hc, applyAll]

/-- **The statement without order, limit and offset is what the other calls build.** -/
theorem unordered_build {context : Context} (h : (build context calls).buildError = none) :
    (build context calls).unordered =
      build context (calls.filter fun c => !c.ordersRows) :=
  unordered_applyAll h

end Statement
end EntityQuery
