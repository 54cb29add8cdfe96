/-
  DataAccess.Proofs.Query.Building — what calls make of a query.

  A query is built call by call, and calls of different kinds may come in any
  order between each other.  A condition on a field that has one already takes
  its place, sort keys add up, and a projection, a limit or an offset is
  forgotten when the next one is given.  So of the calls only this is left:

      the conditions, in the order in which they were given,
      the sort keys, likewise,
      the last projection, the last limit and the last offset,

  and of the conditions no more than the last one on each field.

  Main statements:
    * `Assoc.pairwise_keys_ofList`    — keys stand in the order in which each was
                                        first written;
    * `Assoc.find?_ofList_eq_some_iff` — the last value of a key is read;
    * `Query.build_concat`            — one call more;
    * `Query.build_eq`                — what is left of the calls;
    * `Query.build_as_called`         — the query that calls build.
-/
import DataAccess.Query.Basic
import Mathlib.Data.List.Basic
import Mathlib.Data.List.Induction

namespace DataAccess

/-! ## §1. Pairs that are written one by one. -/

namespace Assoc

variable {κ α : Type} [DecidableEq κ]

/-- **Keys stand in the order in which each was first written.** -/
theorem pairwise_keys_ofList (pairs : Assoc κ α) :
    (keys (ofList pairs)).Pairwise fun k j => (keys pairs).idxOf k < (keys pairs).idxOf j := by
  induction pairs using List.reverseRecOn with
  | nil => exact List.Pairwise.nil
  | append_singleton pairs p ih =>
    have hkeys : keys (pairs ++ [p]) = keys pairs ++ [p.1] := List.map_append
    -- the keys that were there are found where they were
    have hold : ∀ k ∈ keys (ofList pairs), (keys pairs ++ [p.1]).idxOf k = (keys pairs).idxOf k :=
      fun k hk => List.idxOf_append_of_mem (mem_keys_ofList.mp hk)
    have hih : (keys (ofList pairs)).Pairwise fun k j =>
        (keys pairs ++ [p.1]).idxOf k < (keys pairs ++ [p.1]).idxOf j :=
      ih.imp_of_mem fun hk hj hlt => by rwa [hold _ hk, hold _ hj]
    rw [hkeys, ofList_concat, keys_insert]
    split
    · exact hih
    · next hnew =>
      rw [mem_keys_ofList] at hnew
      rw [List.pairwise_append]
      refine ⟨hih, List.pairwise_singleton _ _, fun k hk j hj => ?_⟩
      obtain rfl : j = p.1 := List.mem_singleton.mp hj
      have hlt : (keys pairs).idxOf k < (keys pairs).length :=
        List.idxOf_lt_length_of_mem (mem_keys_ofList.mp hk)
      rw [hold k hk, List.idxOf_append_of_notMem hnew]
      omega

/-- The value of a key is the first one. -/
theorem find?_eq_some_iff_append {m : Assoc κ α} {k : κ} {a : α} :
    find? m k = some a ↔ ∃ before after, m = before ++ (k, a) :: after ∧ k ∉ keys before := by
  induction m with
  | nil => simp
  | cons p m ih =>
    obtain ⟨j, b⟩ := p
    rw [find?_cons]
    by_cases hj : j = k
    -- the first pair decides, so that nothing can stand before it
    · subst hj
      rw [if_pos rfl]
      constructor
      · intro h
        obtain rfl : b = a := Option.some.inj h
        exact ⟨[], m, rfl, List.not_mem_nil⟩
      · rintro ⟨before, after, heq, hbefore⟩
        cases before with
        | nil => cases heq; rfl
        | cons q before =>
          obtain ⟨rfl, -⟩ := List.cons.inj heq
          exact absurd List.mem_cons_self hbefore
    · rw [if_neg hj, ih]
      constructor
      · rintro ⟨before, after, rfl, hbefore⟩
        refine ⟨(j, b) :: before, after, rfl, fun hk => ?_⟩
        rcases List.mem_cons.mp hk with hk | hk
        · exact hj hk.symm
        · exact hbefore hk
      · rintro ⟨before, after, heq, hbefore⟩
        cases before with
        | nil => cases heq; exact absurd rfl hj
        | cons q before =>
          obtain ⟨rfl, rfl⟩ := List.cons.inj heq
          exact ⟨before, after, rfl, fun hk => hbefore (List.mem_cons_of_mem _ hk)⟩

/-- **Of several values that are written under a key, the last one is read.** -/
theorem find?_ofList_eq_some_iff {pairs : Assoc κ α} {k : κ} {a : α} :
    find? (ofList pairs) k = some a
      ↔ ∃ before after, pairs = before ++ (k, a) :: after ∧ k ∉ keys after := by
  have hkeys : ∀ m : Assoc κ α, k ∈ keys m.reverse ↔ k ∈ keys m := fun m => by
    rw [keys, List.map_reverse, List.mem_reverse, keys]
  rw [find?_ofList, find?_eq_some_iff_append]
  -- what comes before in one order comes after in the other
  constructor
  · rintro ⟨before, after, heq, hbefore⟩
    refine ⟨after.reverse, before.reverse, ?_, (hkeys before).not.mpr hbefore⟩
    rw [← List.reverse_reverse pairs, heq]
    simp
  · rintro ⟨before, after, rfl, hafter⟩
    exact ⟨after.reverse, before.reverse, by simp, (hkeys after).not.mpr hafter⟩

end Assoc

/-! ## §2. Calls. -/

/-- A call on a query that is being built. -/
inductive BuildCall where
  | select (fields : List String)
  | filter (field : String) (p : Predicate)
  | whereEquals (field : String) (v : Scalar)
  | whereOneOf (field : String) (vs : List Scalar)
  | whereLike (field pattern : String)
  | whereBetween (field : String) (low high : Scalar)
  | sortBy (keys : List String)
  | withLimit (n : Int64)
  | withOffset (n : Int64)

namespace BuildCall

/-- The condition that a call gives. -/
def condition? : BuildCall → Option Condition
  | filter field p => some (field, p)
  | whereEquals field v => some (field, .equals v)
  | whereOneOf field vs => some (field, .oneOf vs)
  | whereLike field pattern => some (field, .like pattern)
  | whereBetween field low high => some (field, .between low high)
  | _ => none

/-- The sort keys that a call gives. -/
def sortKeys? : BuildCall → Option (List String)
  | sortBy keys => some keys
  | _ => none

/-- The projection that a call gives. -/
def projection? : BuildCall → Option (List String)
  | select fields => some fields
  | _ => none

/-- The limit that a call gives. -/
def limit? : BuildCall → Option Int64
  | withLimit n => some n
  | _ => none

/-- The offset that a call gives. -/
def offset? : BuildCall → Option Int64
  | withOffset n => some n
  | _ => none

/-- The conditions that calls give, in order. -/
def given (calls : List BuildCall) : List Condition := calls.filterMap condition?

end BuildCall

namespace Query

/-- Makes a call. -/
def call (q : Query) : BuildCall → Query
  | .select fields => q.select fields
  | .filter field p => q.filter field p
  | .whereEquals field v => q.whereEquals field v
  | .whereOneOf field vs => q.whereOneOf field vs
  | .whereLike field pattern => q.whereLike field pattern
  | .whereBetween field low high => q.whereBetween field low high
  | .sortBy keys => q.sortBy keys
  | .withLimit n => q.withLimit n
  | .withOffset n => q.withOffset n

/-- Makes calls on an empty query, one after the other. -/
def build (calls : List BuildCall) : Query := calls.foldl call empty

/-- **What a call does**: each part of a query is changed by the calls that
give something for it. -/
theorem call_eq (q : Query) (c : BuildCall) :
    q.call c = {
      projection := c.projection?.getD q.projection
      conditions := match c.condition? with
        | some d => q.conditions.insert d.1 d.2
        | none => q.conditions
      sort := q.sort ++ (c.sortKeys?.getD []).map SortKey.parse
      limit := c.limit?.getD q.limit
      offset := c.offset?.getD q.offset } := by
  cases c with
  | sortBy keys => rfl
  | _ =>
    -- no sort keys are added
    simp only [BuildCall.sortKeys?, Option.getD_none, List.map_nil, List.append_nil]
    rfl

theorem build_concat (calls : List BuildCall) (c : BuildCall) :
    build (calls ++ [c]) = (build calls).call c := by
  rw [build, List.foldl_append]
  rfl

end Query

/-! ## §3. What is left of the calls. -/

/-- Conditions that are given one after the other. -/
def ConditionSet.ofList (cs : List Condition) : ConditionSet :=
  cs.foldl (fun set c => set.insert c.1 c.2) .empty

theorem ConditionSet.toList_ofList (cs : List Condition) :
    (ofList cs).toList = Assoc.ofList cs := by
  induction cs using List.reverseRecOn with
  | nil => rfl
  | append_singleton cs c ih =>
    rw [Assoc.ofList_concat, ← ih, ofList, List.foldl_append]
    rfl

/-- The last value that calls give for a part of a query. -/
theorem BuildCall.last_concat {α : Type} (given? : BuildCall → Option α) (calls : List BuildCall)
    (c : BuildCall) (default : α) :
    ((calls ++ [c]).filterMap given?).getLast?.getD default
      = (given? c).getD ((calls.filterMap given?).getLast?.getD default) := by
  rw [List.filterMap_append]
  cases hc : given? c with
  | none => simp [hc]
  | some a => simp [hc]

namespace Query

/-- **What is left of the calls**, whatever their order between each other. -/
theorem build_eq (calls : List BuildCall) :
    build calls = {
      projection := (calls.filterMap BuildCall.projection?).getLast?.getD []
      conditions := .ofList (BuildCall.given calls)
      sort := (calls.filterMap BuildCall.sortKeys?).flatten.map SortKey.parse
      limit := (calls.filterMap BuildCall.limit?).getLast?.getD 0
      offset := (calls.filterMap BuildCall.offset?).getLast?.getD 0 } := by
  induction calls using List.reverseRecOn with
  | nil => rfl
  | append_singleton calls c ih =>
    rw [build_concat, call_eq, ih]
    congr 1
    · exact (BuildCall.last_concat _ calls c []).symm
    · rw [BuildCall.given, BuildCall.given, List.filterMap_append]
      cases hc : c.condition? with
      | none => simp [hc]
      | some d => simp [hc, ConditionSet.ofList]
    · rw [List.filterMap_append]
      cases hc : c.sortKeys? with
      | none => simp [hc]
      | some keys => simp [hc]
    · exact (BuildCall.last_concat _ calls c 0).symm
    · exact (BuildCall.last_concat _ calls c 0).symm

/-- The query that calls build. -/
structure IsBuiltBy (q : Query) (calls : List BuildCall) : Prop where
  /-- No field has two conditions. -/
  nodup : q.conditions.fields.Nodup
  /-- The fields are those that were given, -/
  fields : ∀ f, f ∈ q.conditions.fields ↔ f ∈ Assoc.keys (BuildCall.given calls)
  /-- in the order in which each was first given. -/
  order : q.conditions.fields.Pairwise fun f g =>
    (Assoc.keys (BuildCall.given calls)).idxOf f < (Assoc.keys (BuildCall.given calls)).idxOf g
  /-- The last condition on a field stands. -/
  last : ∀ f p, q.conditions.find? f = some p
    ↔ ∃ before after, BuildCall.given calls = before ++ (f, p) :: after ∧ f ∉ Assoc.keys after
  never : ∀ f, q.conditions.find? f = none ↔ f ∉ Assoc.keys (BuildCall.given calls)
  /-- Sort keys add up. -/
  sort : q.sort = (calls.filterMap BuildCall.sortKeys?).flatten.map SortKey.parse
  /-- Everything else is as it was given last. -/
  projection : q.projection = (calls.filterMap BuildCall.projection?).getLast?.getD []
  limit : q.limit = (calls.filterMap BuildCall.limit?).getLast?.getD 0
  offset : q.offset = (calls.filterMap BuildCall.offset?).getLast?.getD 0

end Query

/-- Calls that agree on the order of the conditions, on that of the sort keys,
and on what is given last for everything else. -/
structure BuildCall.Agree (calls calls' : List BuildCall) : Prop where
  conditions : given calls = given calls'
  sort : calls.filterMap sortKeys? = calls'.filterMap sortKeys?
  projection : (calls.filterMap projection?).getLast? = (calls'.filterMap projection?).getLast?
  limit : (calls.filterMap limit?).getLast? = (calls'.filterMap limit?).getLast?
  offset : (calls.filterMap offset?).getLast? = (calls'.filterMap offset?).getLast?

namespace Query

/-- **THE QUERY THAT CALLS BUILD.**  Its conditions stand one to a field, in the
order in which the fields were first given, and each is the last one that was
given for its field; the sort keys of all calls add up; the projection, the
limit and the offset are the last ones.  So calls that come in a different
order between each other build the same query, if they agree on all this. -/
theorem build_as_called (calls : List BuildCall) :
    (build calls).IsBuiltBy calls
      ∧ ∀ calls', BuildCall.Agree calls calls' → build calls = build calls' := by
  have hbuild := build_eq calls
  have hlist : (build calls).conditions.toList = Assoc.ofList (BuildCall.given calls) := by
    rw [hbuild, ConditionSet.toList_ofList]
  constructor
  · exact {
      nodup := (build calls).conditions.nodup
      fields := fun f => by rw [ConditionSet.fields, hlist, Assoc.mem_keys_ofList]
      order := by
        rw [ConditionSet.fields, hlist]
        exact Assoc.pairwise_keys_ofList _
      last := fun f p => by rw [ConditionSet.find?, hlist, Assoc.find?_ofList_eq_some_iff]
      never := fun f => by
        rw [ConditionSet.find?, hlist, ← Assoc.mem_keys_ofList, ← Assoc.find?_isSome_iff,
          Bool.not_eq_true, Option.isSome_eq_false_iff, Option.isNone_iff_eq_none]
      sort := by rw [hbuild]
      projection := by rw [hbuild]
      limit := by rw [hbuild]
      offset := by rw [hbuild] }
  · intro calls' h
    rw [hbuild, build_eq calls', h.conditions, h.sort, h.projection, h.limit, h.offset]

/-- Members by status, then by age; the limit is set twice. -/
def memberCalls : List BuildCall :=
  [.whereEquals "status" (.text "active"), .withLimit 5, .whereEquals "age" (.integer 20),
    .sortBy ["-age"], .whereOneOf "status" [.text "active", .text "pending"], .withLimit 10,
    .sortBy ["name"]]

/-- The same in another order. -/
def memberCallsInTurn : List BuildCall :=
  [.sortBy ["-age"], .sortBy ["name"], .withLimit 10, .filter "status" (.equals (.text "active")),
    .whereEquals "age" (.integer 20), .filter "status" (.oneOf [.text "active", .text "pending"])]

/-- The second condition on the status takes the place of the first one, however
the calls come in turn. -/
theorem build_as_called_members :
    BuildCall.Agree memberCalls memberCallsInTurn
      ∧ (build memberCalls).conditions.fields = ["status", "age"]
      ∧ (build memberCalls).conditions.find? "status"
          = some (.oneOf [.text "active", .text "pending"])
      ∧ build memberCalls = build memberCallsInTurn := by
  have hagree : BuildCall.Agree memberCalls memberCallsInTurn := ⟨rfl, rfl, rfl, rfl, rfl⟩
  obtain ⟨hbuilt, hsame⟩ := build_as_called memberCalls
  refine ⟨hagree, by decide, ?_, hsame _ hagree⟩
  exact (hbuilt.last _ _).mpr
    ⟨[("status", .equals (.text "active")), ("age", .equals (.integer 20))], [], rfl, by decide⟩

end Query

end DataAccess
