/-
# Lists behind a single placeholder

A list is meant to be spread over several placeholders; as one value it cannot be sent
to PostgreSQL (`Postgres.encode_eq_listValue_iff`).  A comparison refuses a list where
it has one placeholder, but it does not look into the items that it spreads, and
neither does the test for a list of values.  HAVING, the comparison at a JSON path and
the ranking of an order do not look at their values at all.

`Call.handsList` says which calls put a list behind a placeholder once they are
accepted.  Each call writes into the bucket of its clause, HAVING in place of what
stands there and the others behind it (`exists_bindings_apply`), so that after all
calls a bucket has a list if one of the calls that it keeps handed it one
(`hasList_applyAll`).  `no_list_bound_iff` says from this when a compiled statement
binds no list.
-/

import EntityQuery.Postgres.Parameter
import EntityQuery.Proofs.Bound.Agreement
import Mathlib.Data.List.Induction

namespace EntityQuery

/-- A value is refused as a list for every type if it is one, and for none otherwise. -/
theorem Postgres.encode_eq_listValue_iff (v : Value) (type : ColumnType) :
    encode v type = .error .listValue ↔ v.isArray = true := by
  have hint : ∀ width n, encodeInt width n ≠ .error .listValue := by
    intro width n
    unfold encodeInt
    split
    · exact nofun
    · exact nofun
  cases v with
  | array items => exact ⟨fun _ => rfl, fun _ => rfl⟩
  | int n => cases type <;> simp [encode, hint, Value.isArray]
  | timestamp t => cases type <;> simp [encode, hint, Value.isArray]
  | _ => cases type <;> simp [encode, Value.isArray]

/-! ### Buckets with lists -/

namespace Bindings

variable {b : Bindings} {bucket other : Bucket} {values : List Value}

/-- Whether a bucket has a list among its values. -/
def hasList (b : Bindings) (bucket : Bucket) : Bool :=
  (b.get bucket).any Value.isArray

theorem hasList_set_self : (b.set bucket values).hasList bucket = values.any Value.isArray := by
  rw [hasList, get_set_self]

theorem hasList_set_of_ne (h : other ≠ bucket) :
    (b.set bucket values).hasList other = b.hasList other := by
  rw [hasList, get_set_of_ne b h, hasList]

theorem hasList_extend_self :
    (b.extend bucket values).hasList bucket =
      (b.hasList bucket || values.any Value.isArray) := by
  rw [extend, hasList_set_self, List.any_append, hasList]

theorem hasList_extend_of_ne (h : other ≠ bucket) :
    (b.extend bucket values).hasList other = b.hasList other :=
  hasList_set_of_ne h

/-- A statement binds no list if none of the buckets of its kind has one. -/
theorem isArray_merged_iff {kind : Kind} :
    (∀ v ∈ b.merged kind, v.isArray = false) ↔
      ∀ bucket ∈ Bucket.rendered kind, b.hasList bucket = false := by
  simp only [merged, List.mem_flatMap, hasList, List.any_eq_false, Bool.not_eq_true]
  constructor
  · intro h bucket hbucket v hv
    exact h v ⟨bucket, hbucket, hv⟩
  · rintro h v ⟨bucket, hbucket, hv⟩
    exact h bucket hbucket v hv

end Bindings

/-! ### Calls with values -/

/-- Whether an operator spreads the items of a list over placeholders. -/
def Operator.spreads : Operator → Bool
  | .isIn | .notIn | .between => true
  | _ => false

namespace Call

/-- The bucket that takes the values of a call on conditions, HAVING or a ranking. -/
def bucket? : Call → Option Bucket
  | .compare _ _ _ _ => some .whereTree
  | .inList _ _ _ _ => some .whereTree
  | .jsonContains _ _ => some .jsonWhere
  | .jsonCompare _ _ _ _ => some .jsonWhere
  | .having _ _ _ => some .having
  | .orderByCase _ _ _ _ => some .order
  | _ => none

/-- Whether a call, once it is accepted, binds a list to a placeholder. -/
def handsList : Call → Bool
  | .compare _ _ operator value =>
    (Operator.parse? operator).any Operator.spreads && value.toItems.any Value.isArray
  | .inList _ _ _ values => values.any Value.isArray
  | .jsonCompare _ _ operator value =>
    (Operator.parse? operator).any (fun op => !op.isSpecial) && value.isArray
  | .having _ _ value => value.isArray
  | .orderByCase _ ranks _ _ => ranks.any fun rank => rank.1.isArray
  | _ => false

/-- The calls whose values are in a bucket at the end: all on it, and of those on HAVING the last
one. -/
def kept (bucket : Bucket) (calls : List Call) : List Call :=
  let own := calls.filter fun c => c.bucket? == some bucket
  if bucket = .having then own.getLast?.toList else own

theorem kept_append_singleton (bucket : Bucket) (calls : List Call) (c : Call) :
    kept bucket (calls ++ [c]) =
      if c.bucket? = some bucket then
        if bucket = .having then [c] else kept bucket calls ++ [c]
      else kept bucket calls := by
  unfold kept
  rw [List.filter_append]
  by_cases hc : c.bucket? = some bucket
  · have hown : [c].filter (fun c => c.bucket? == some bucket) = [c] := by simp [hc]
    rw [hown, if_pos hc]
    split
    · simp only [List.getLast?_concat, Option.toList_some]
    · rfl
  · have hown : [c].filter (fun c => c.bucket? == some bucket) = [] := by simp [hc]
    rw [hown, if_neg hc, List.append_nil]

end Call

namespace Statement

variable {s : Statement} {bucket : Bucket}

/-- A comparison binds a list only as an item of the list that it spreads. -/
theorem any_isArray_of_operandOf {op : Operator} {column : String} {value : Value}
    {operand : Operand} {values : List Value}
    (h : operandOf op column value = .ok (operand, values)) :
    values.any Value.isArray = (op.spreads && value.toItems.any Value.isArray) := by
  have hone : ∀ m : Misuse, (if value.isArray then Except.error m
      else Except.ok (Operand.one, [value])) = Except.ok (operand, values) →
        [value].any Value.isArray = false := by
    intro m hm
    split at hm
    · exact nomatch hm
    · rename_i hvalue
      rw [List.any_cons, Bool.eq_false_iff.2 hvalue]
      rfl
  rw [← (BoundOperand.ofValue_of_ok h).2]
  cases op with
  | is => rfl
  | isNot => rfl
  | isIn => rfl
  | notIn => rfl
  | between =>
      unfold operandOf at h
      simp only at h
      split at h
      · rfl
      · exact nomatch h
  | _ => exact hone _ h

/-- The value a JSON array is to contain is bound as a scalar. -/
theorem isArray_contains (d : Dialect) (q : Quoting) (column : String) (value : Json) :
    (d.contains q column value).2.isArray = false := by
  cases d with
  | mysql => rfl
  | sqlite =>
      show (Dialect.scalar value).isArray = false
      unfold Dialect.scalar
      split
      case h_3 n => cases Value.wordOf? n <;> rfl
      all_goals rfl

/-- The comparison at a JSON path binds the path and whatever it is compared with. -/
theorem any_isArray_of_pathPredicate {d : Dialect} {q : Quoting} {column path operator : String}
    {value : Value} {sql : String} {values : List Value}
    (h : d.pathPredicate q column path operator value = .ok (sql, values)) :
    values.any Value.isArray =
      ((Operator.parse? operator).any (fun op => !op.isSpecial) && value.isArray) := by
  unfold Dialect.pathPredicate at h
  split at h
  · exact nomatch h
  · rename_i op hop
    rw [hop]
    cases op with
    | is =>
        obtain ⟨-, rfl⟩ := Prod.mk.inj (Except.ok.inj h)
        rfl
    | isNot =>
        obtain ⟨-, rfl⟩ := Prod.mk.inj (Except.ok.inj h)
        rfl
    | isIn => exact nomatch h
    | notIn => exact nomatch h
    | between => exact nomatch h
    | _ =>
        obtain ⟨-, rfl⟩ := Prod.mk.inj (Except.ok.inj h)
        simp [Operator.isSpecial, Value.isArray]

/-- **An accepted call writes its values into its bucket**, HAVING in place of what stands there,
and there is a list among them exactly if the call hands one over. -/
theorem exists_bindings_apply {c : Call} (hc : c.bucket? = some bucket)
    (h : (s.apply c).buildError = none) :
    ∃ values, values.any Value.isArray = c.handsList ∧
      (s.apply c).bindings =
        if bucket = .having then s.bindings.set bucket values
        else s.bindings.extend bucket values := by
  cases c with
  | compare =>
      obtain rfl := Option.some.inj hc
      rw [apply] at h ⊢
      obtain ⟨-, -, op, operand, values, hop, hoperand, heq⟩ := compare_of_accepted h
      refine ⟨values, ?_, by rw [heq]; rfl⟩
      rw [any_isArray_of_operandOf hoperand, Call.handsList, hop, Option.any_some]
  | inList _ _ _ values =>
      obtain rfl := Option.some.inj hc
      rw [apply] at h ⊢
      obtain ⟨-, -, -, heq⟩ := inList_of_accepted h
      exact ⟨values, rfl, by rw [heq]; rfl⟩
  | having _ _ value =>
      obtain rfl := Option.some.inj hc
      rw [apply] at h ⊢
      obtain ⟨-, op, -, -, heq⟩ := having_of_accepted h
      exact ⟨[value], Bool.or_false _, by rw [heq]; rfl⟩
  | jsonContains column value =>
      obtain rfl := Option.some.inj hc
      rw [apply]
      refine ⟨[(s.jsonDialect.contains s.quoting (Text.trim column) value).2], ?_, rfl⟩
      rw [List.any_cons, isArray_contains]
      rfl
  | jsonCompare =>
      obtain rfl := Option.some.inj hc
      rw [apply] at h ⊢
      obtain ⟨-, sql, values, hpredicate, heq⟩ := jsonCompare_of_accepted h
      exact ⟨values, any_isArray_of_pathPredicate hpredicate, by rw [heq]; rfl⟩
  | orderByCase _ ranks =>
      obtain rfl := Option.some.inj hc
      rw [apply] at h ⊢
      obtain ⟨-, d, -, -, heq⟩ := orderByCase_of_accepted h
      exact ⟨ranks.map Prod.fst, List.any_map, by rw [heq]; rfl⟩
  | _ => exact nomatch hc

/-! ### Sequences of calls -/

theorem kind_applyAll {calls : List Call} (hcalls : ∀ c ∈ calls, c.bucket?.isSome = true)
    (h : (s.applyAll calls).buildError = none) : (s.applyAll calls).kind = s.kind := by
  induction calls generalizing s with
  | nil => rfl
  | cons c calls ih =>
      have hkind : c.setsKind = false := by
        have hc := hcalls c List.mem_cons_self
        cases c <;> first | rfl | exact nomatch hc
      rw [applyAll] at h ⊢
      rw [ih (fun d hd => hcalls d (List.mem_cons_of_mem _ hd)) h,
        (frame_apply (accepted_of_applyAll h)).kind hkind]

/-- What an accepted call makes of a bucket, as far as lists are concerned. -/
theorem hasList_apply {c : Call} (hc : c.bucket?.isSome = true)
    (h : (s.apply c).buildError = none) (bucket : Bucket) :
    (s.apply c).bindings.hasList bucket =
      if c.bucket? = some bucket then
        if bucket = .having then c.handsList else s.bindings.hasList bucket || c.handsList
      else s.bindings.hasList bucket := by
  obtain ⟨own, hown⟩ := Option.isSome_iff_exists.1 hc
  obtain ⟨values, hvalues, heq⟩ := exists_bindings_apply hown h
  rw [heq, hown, ← hvalues]
  by_cases hbucket : bucket = own
  · subst hbucket
    rw [if_pos rfl]
    split
    · exact Bindings.hasList_set_self
    · exact Bindings.hasList_extend_self
  · rw [if_neg fun hsome => hbucket (Option.some.inj hsome).symm]
    split
    · exact Bindings.hasList_set_of_ne hbucket
    · exact Bindings.hasList_extend_of_ne hbucket

/-- **After all calls a bucket has a list if a call that it keeps handed it one.** -/
theorem hasList_applyAll {calls : List Call} (hs : ∀ bucket, s.bindings.hasList bucket = false)
    (hcalls : ∀ c ∈ calls, c.bucket?.isSome = true)
    (h : (s.applyAll calls).buildError = none) (bucket : Bucket) :
    (s.applyAll calls).bindings.hasList bucket =
      (Call.kept bucket calls).any Call.handsList := by
  -- By the last call, since on HAVING it is the last one that counts.
  induction calls using List.reverseRecOn with
  | nil =>
      rw [applyAll, hs]
      unfold Call.kept
      split
      · rfl
      · rfl
  | append_singleton calls c ih =>
      have hbefore : ∀ d ∈ calls, d.bucket?.isSome = true :=
        fun d hd => hcalls d (List.mem_append_left _ hd)
      have hlast : c.bucket?.isSome = true :=
        hcalls c (List.mem_append_right _ (List.mem_singleton.2 rfl))
      rw [applyAll_append, applyAll, applyAll] at h ⊢
      rw [hasList_apply hlast h, ih hbefore (accepted_of_apply h), Call.kept_append_singleton]
      split
      · split
        · rw [List.any_cons, List.any_nil, Bool.or_false]
        · rw [List.any_append, List.any_cons, List.any_nil, Bool.or_false]
      · rfl

/-- **When a compiled statement binds no list**, after calls on conditions, HAVING and rankings: no
call whose values it renders may have handed one over.  A list that is bound all the same cannot be
sent to PostgreSQL. -/
theorem no_list_bound_iff {calls : List Call} {query : Compiled}
    (hs : ∀ bucket, s.bindings.hasList bucket = false)
    (hcalls : ∀ c ∈ calls, c.bucket?.isSome = true)
    (h : (s.applyAll calls).compile = .ok query) :
    ((∀ v ∈ query.bindings, v.isArray = false) ↔
        ∀ bucket ∈ Bucket.rendered s.kind, ∀ c ∈ Call.kept bucket calls, c.handsList = false) ∧
      ∀ v ∈ query.bindings, ∀ type,
        Postgres.encode v type = .error .listValue ↔ v.isArray = true := by
  obtain ⟨haccepted, -, -, hbindings, -⟩ := compile_of_ok h
  refine ⟨?_, fun v _ type => Postgres.encode_eq_listValue_iff v type⟩
  rw [hbindings, values, kind_applyAll hcalls haccepted, Bindings.isArray_merged_iff]
  simp only [hasList_applyAll hs hcalls haccepted, List.any_eq_false, Bool.not_eq_true]

/-- Calls that spread a list of values and replace a list in HAVING by a number. -/
def replacingCalls : List Call :=
  [.compare .and "status" "IN" (.array [.text "paid", .text "open"]),
    .having "total" ">" (.array [.int 1, .int 2]), .having "total" ">" (.int 5)]

/-- What these calls compile to. -/
def replacingQuery : Compiled :=
  ⟨"SELECT * FROM orders WHERE \x60status\x60 IN (?, ?) HAVING \x60total\x60 > ?",
    [.text "paid", .text "open", .int 5]⟩

/-- A list that is spread is not bound, nor is one that a later call replaces. -/
theorem no_list_bound_iff_replaced :
    (∀ bucket, ((new {}).fromTable "orders").bindings.hasList bucket = false) ∧
      (∀ c ∈ replacingCalls, c.bucket?.isSome = true) ∧
      (((new {}).fromTable "orders").applyAll replacingCalls).compile = .ok replacingQuery ∧
      ∀ v ∈ replacingQuery.bindings, v.isArray = false := by
  have hs : ∀ bucket, ((new {}).fromTable "orders").bindings.hasList bucket = false := by
    intro bucket
    cases bucket <;> rfl
  have hcalls : ∀ c ∈ replacingCalls, c.bucket?.isSome = true := by decide
  have hcompile : (((new {}).fromTable "orders").applyAll replacingCalls).compile =
      .ok replacingQuery := rfl
  have hkept : ∀ bucket ∈ Bucket.rendered .select, ∀ c ∈ Call.kept bucket replacingCalls,
      c.handsList = false := by decide
  exact ⟨hs, hcalls, hcompile, (no_list_bound_iff hs hcalls hcompile).1.2 hkept⟩

/-- HAVING binds a list to its one placeholder, and PostgreSQL is sent none. -/
theorem having_binds_list :
    let list := Value.array [.int 1, .int 2]
    (build {} [.fromTable "orders", .having "total" ">" list]).compile =
        .ok ⟨"SELECT * FROM orders HAVING `total` > ?", [list]⟩ ∧
      ∀ type, Postgres.encode list type = .error .listValue :=
  ⟨rfl, fun _ => rfl⟩

end Statement
end EntityQuery
