/-
  DataAccess.Proofs.Query.Grammar — which JSON values have the shape of a query.

  What the reader of queries accepts is spread over checks of entries, checks
  for missing fields, and reads of the last entry of a field.  Said outright it
  is a grammar: a query has members of five names, each of which may be left
  out; a condition has exactly the members field, op and value.  The members
  are those of an object, or else the items of an array that is not too long,
  in the places of the names.

  Main statements:
    * `RecordShape.checks_iff`       — checking all entries checks each field once;
    * `RawCondition.read_ok_iff`     — the shape of conditions;
    * `RawQuery.read_ok_iff`         — the shape of queries.
-/
import DataAccess.Proofs.Json.WellFormed
import DataAccess.Query.Decode
import Mathlib.Data.List.Forall2

namespace DataAccess

/-! ## §1. Lists that are read item by item. -/

section Items

variable {α β ε : Type}

/-- Every item has been read. -/
theorem mapM_ok_iff {f : α → Except ε β} {xs : List α} {ys : List β} :
    xs.mapM f = .ok ys ↔ List.Forall₂ (fun x y => f x = .ok y) xs ys := by
  induction xs generalizing ys with
  | nil => simp [eq_comm]
  | cons x xs ih =>
    simp only [List.mapM_cons, bind_ok_iff, ih, List.forall₂_cons_left_iff, pure_eq_ok,
      Except.ok.injEq]
    constructor
    · intro ⟨y, hy, zs, hzs, h⟩
      exact ⟨y, zs, hy, hzs, h.symm⟩
    · intro ⟨y, zs, hy, hzs, h⟩
      exact ⟨y, hy, zs, hzs, h.symm⟩

/-- The first item that cannot be read is the complaint. -/
theorem mapM_error_iff {f : α → Except ε β} {xs : List α} {e : ε} :
    xs.mapM f = .error e
      ↔ ∃ before x after, xs = before ++ x :: after ∧ (∀ b ∈ before, ∃ y, f b = .ok y)
        ∧ f x = .error e := by
  induction xs with
  | nil => simp
  | cons x xs ih =>
    rw [List.mapM_cons]
    cases hx : f x with
    | error e' =>
      -- the complaint is about `x`: nothing that could be read stands before it
      constructor
      · intro h
        cases h
        exact ⟨[], x, xs, rfl, nofun, hx⟩
      · intro ⟨before, x', after, happend, hbefore, he⟩
        cases before with
        | nil =>
          cases happend
          rw [hx] at he
          cases he
          rfl
        | cons b before =>
          cases happend
          obtain ⟨y, hy⟩ := hbefore x List.mem_cons_self
          rw [hx] at hy
          cases hy
    | ok y =>
      -- the complaint is further on, and `x` is one more item before it
      have hrest : (Except.ok y >>= fun b => xs.mapM f >>= fun bs => pure (b :: bs))
          = .error e ↔ xs.mapM f = .error e := by
        cases xs.mapM f <;> simp
      rw [hrest, ih]
      constructor
      · intro ⟨before, x', after, happend, hbefore, he⟩
        exact ⟨x :: before, x', after, by rw [happend]; rfl,
          List.forall_mem_cons.mpr ⟨⟨y, hx⟩, hbefore⟩, he⟩
      · intro ⟨before, x', after, happend, hbefore, he⟩
        cases before with
        | nil =>
          cases happend
          rw [hx] at he
          cases he
        | cons b before =>
          cases happend
          exact ⟨before, x', after, rfl, (List.forall_mem_cons.mp hbefore).2, he⟩

/-- Two ways to say what items stand for, if they agree on the items. -/
theorem forall₂_congr_of_mem {R S : α → β → Prop} {xs : List α} {ys : List β}
    (h : ∀ x ∈ xs, ∀ y, R x y ↔ S x y) : List.Forall₂ R xs ys ↔ List.Forall₂ S xs ys := by
  induction xs generalizing ys with
  | nil => simp
  | cons x xs ih =>
    rw [List.forall_mem_cons] at h
    simp only [List.forall₂_cons_left_iff, h.1, ih h.2]

end Items

/-! ## §2. Entries of records. -/

/-- Where no name is given twice, the entry of a name is read. -/
theorem readEntry_eq {α β : Type} {entries : Assoc String α} (h : (Assoc.keys entries).Nodup)
    (name : String) (default : β) (read : α → Except ShapeError β) :
    readEntry entries name default read
      = match Assoc.find? entries name with
        | some a => read a
        | none => .ok default := by
  -- the last entry of the name is read, and the list is searched from its start
  have hfind : entries.reverse.find? (·.1 == name)
      = (Assoc.find? entries name).map fun a => (name, a) := by
    induction entries with
    | nil => rfl
    | cons e es ih =>
      obtain ⟨k, a⟩ := e
      rw [Assoc.keys_cons, List.nodup_cons] at h
      rw [List.reverse_cons, List.find?_append, ih h.2, Assoc.find?_cons]
      by_cases hk : k = name
      · -- there is no second entry of the name further on
        have hnone : Assoc.find? es name = none := by
          rw [← Option.not_isSome_iff_eq_none, Assoc.find?_isSome_iff]
          exact hk ▸ h.1
        simp [hk, hnone]
      · simp [hk]
  unfold readEntry
  rw [hfind]
  cases Assoc.find? entries name <;> rfl

namespace RecordShape

variable {α : Type} {r : RecordShape α} {es : Assoc String α}

theorem checkEntries_ok_iff : r.checkEntries es = .ok () ↔ ∀ e ∈ es, r.checkEntry e = .ok () := by
  induction es with
  | nil => simp [checkEntries]
  | cons e es ih =>
    rw [List.forall_mem_cons, ← ih, checkEntries]
    cases r.checkEntry e <;> simp

/-- The field of a name. -/
theorem find?_fields {fields : List (Field α)} (hnames : (fields.map (·.name)).Nodup) {f : Field α}
    (hf : f ∈ fields) : fields.find? (·.name == f.name) = some f := by
  induction fields with
  | nil => cases hf
  | cons g fields ih =>
    rw [List.map_cons, List.nodup_cons] at hnames
    rcases List.mem_cons.mp hf with rfl | hf
    · exact List.find?_cons_of_pos (by simp)
    · have hname : f.name ∈ fields.map (·.name) := List.mem_map_of_mem hf
      have hne : g.name ≠ f.name := fun hg => hnames.1 (hg ▸ hname)
      rw [List.find?_cons_of_neg (by simpa using hne)]
      exact ih hnames.2 hf

/-- **Checking all entries** of a strict record: there are none but those of its
fields, and each of them passes the check of its field. -/
theorem checks_iff (hstrict : r.strict = true) (hnames : r.names.Nodup)
    (hes : (Assoc.keys es).Nodup) :
    r.checkEntries es = .ok ()
      ↔ (∀ k ∈ Assoc.keys es, k ∈ r.names)
        ∧ ∀ f ∈ r.fields, ∀ a, Assoc.find? es f.name = some a → f.check a = .ok () := by
  -- no two fields have a name in common, so that an entry is checked by its own
  have hcheck : ∀ f ∈ r.fields, ∀ a, r.checkEntry (f.name, a) = f.check a := by
    intro f hf a
    unfold checkEntry
    rw [find?_fields hnames hf]
  rw [checkEntries_ok_iff]
  constructor
  · intro h
    constructor
    · intro k hk
      obtain ⟨e, he, rfl⟩ := List.mem_map.mp hk
      have hok := h e he
      unfold checkEntry at hok
      split at hok
      · next f hfind =>
        have hname := List.find?_some hfind
        rw [beq_iff_eq] at hname
        exact hname ▸ List.mem_map_of_mem (List.mem_of_find?_eq_some hfind)
      · -- a strict record takes no entry without a field
        rw [if_pos hstrict] at hok
        cases hok
    · intro f hf a ha
      rw [← hcheck f hf a]
      exact h _ (Assoc.mem_of_find? ha)
  · intro ⟨hkeys, hfields⟩ e he
    obtain ⟨k, a⟩ := e
    obtain ⟨f, hf, rfl⟩ := List.mem_map.mp (hkeys k (List.mem_map_of_mem he))
    rw [hcheck f hf a]
    exact hfields f hf a ((Assoc.find?_eq_some_iff hes).mpr he)

theorem missing?_eq_none_iff :
    r.missing? es = none ↔ ∀ f ∈ r.fields, f.absence = .refused → f.name ∈ Assoc.keys es := by
  unfold missing? Assoc.keys
  simp [List.find?_eq_none]

theorem entries_mapping_iff {ms : Assoc String α} :
    r.entries (.mapping ms) = .ok es
      ↔ es = ms ∧ r.checkEntries es = .ok () ∧ r.missing? es = none := by
  unfold entries
  simp only [bind_ok_iff]
  constructor
  · intro ⟨u, hchecks, h⟩
    split at h
    · cases h
    · next hmissing =>
      cases h
      exact ⟨rfl, hchecks, hmissing⟩
  · intro ⟨hes, hchecks, hmissing⟩
    subst hes
    refine ⟨(), hchecks, ?_⟩
    rw [hmissing]

theorem entries_sequence_iff (hexact : r.exact = true) {items : List α} :
    r.entries (.sequence items) = .ok es
      ↔ es = r.names.zip items ∧ r.checkEntries es = .ok ()
        ∧ (r.fields.drop items.length).any (·.absence != .defaulted) = false
        ∧ items.length ≤ r.fields.length := by
  unfold entries
  simp only [bind_ok_iff]
  constructor
  · intro ⟨u, hchecks, h⟩
    split at h
    · -- an item that has no default is lacking
      cases h
    next hfew =>
      split at h
      · -- there are more items than fields
        cases h
      next hmany =>
        cases h
        rw [hexact, Bool.true_and, decide_eq_true_eq, Nat.not_lt] at hmany
        exact ⟨rfl, hchecks, Bool.eq_false_iff.mpr hfew, hmany⟩
  · intro ⟨hes, hchecks, hfew, hmany⟩
    subst hes
    refine ⟨(), hchecks, ?_⟩
    rw [if_neg (by rw [hfew]; decide), hexact, Bool.true_and,
      if_neg (by rw [decide_eq_true_eq]; omega)]

end RecordShape

/-! ## §3. The grammar. -/

/-- The members of a record: those of an object, or the items of an array in
the places of the names, `least` of them at least. -/
inductive Json.Gives (names : List String) (least : Nat) : Json → Assoc String Json → Prop where
  | byName (members : Assoc String Json) : Gives names least (.object members) members
  | byPlace {items : List Json} (enough : least ≤ items.length)
      (most : items.length ≤ names.length) : Gives names least (.array items) (names.zip items)

/-- The value of a member that may be left out: what it stands for, or else the
default. -/
def Optional {β : Type} (default : β) (stands : Json → β → Prop) : Option Json → β → Prop
  | none, b => b = default
  | some j, b => stands j b

namespace Json

/-- An array of texts. -/
def IsTexts (j : Json) (texts : List String) : Prop := j = .array (texts.map .string)

/-- An integer of 64 bits with a sign, not a double. -/
def IsBound (j : Json) (n : Int64) : Prop := j = .number (.integer n.toInt)

/-- An array with an item for each condition. -/
def IsConditions (given : Json → RawCondition → Prop) (j : Json) (cs : List RawCondition) : Prop :=
  ∃ items, j = .array items ∧ List.Forall₂ given items cs

end Json

namespace RawCondition

/-- The names of the members of a condition. -/
def names : List String := ["field", "op", "value"]

/-- The members of a condition are exactly these three. -/
structure Members (members : Assoc String Json) (c : RawCondition) : Prop where
  keys : (Assoc.keys members).Perm names
  field : Assoc.find? members "field" = some (.string c.field)
  op : Assoc.find? members "op" = some (.string c.op)
  value : Assoc.find? members "value" = some c.value

/-- A condition that is given as an object. -/
def IsObject (j : Json) (c : RawCondition) : Prop :=
  ∃ members, j = .object members ∧ Members members c

/-- A condition that is given in either way. -/
def IsGiven (j : Json) (c : RawCondition) : Prop :=
  ∃ members, j.Gives names 3 members ∧ Members members c

end RawCondition

namespace RawQuery

/-- The names of the members of a query. -/
def names : List String := ["select", "where", "sort", "limit", "offset"]

/-- The members of a query are among these five, and each may be left out. -/
structure Members (given : Json → RawCondition → Prop) (members : Assoc String Json)
    (raw : RawQuery) : Prop where
  keys : ∀ k ∈ Assoc.keys members, k ∈ names
  select : Optional [] Json.IsTexts (Assoc.find? members "select") raw.select
  conditions : Optional [] (Json.IsConditions given) (Assoc.find? members "where") raw.conditions
  sort : Optional [] Json.IsTexts (Assoc.find? members "sort") raw.sort
  limit : Optional 0 Json.IsBound (Assoc.find? members "limit") raw.limit
  offset : Optional 0 Json.IsBound (Assoc.find? members "offset") raw.offset

end RawQuery

/-! ## §4. Members. -/

theorem keys_zip {names : List String} {items : List Json} (h : items.length ≤ names.length) :
    Assoc.keys (names.zip items) = names.take items.length := by
  rw [Assoc.keys, List.zip_eq_zip_take_min, Nat.min_eq_right h,
    List.take_of_length_le (Nat.le_refl items.length)]
  exact List.map_fst_zip (List.length_take_le _ _)

namespace Json.Gives

variable {names : List String} {least : Nat} {j : Json} {ms : Assoc String Json}

/-- No member is given twice. -/
theorem nodup (h : j.Gives names least ms) (hnames : names.Nodup) (hj : j.WellFormed) :
    (Assoc.keys ms).Nodup := by
  cases h with
  | byName =>
    cases hj with
    | object hkeys heach => exact hkeys
  | byPlace enough most =>
    rw [keys_zip most]
    exact hnames.sublist (List.take_sublist _ _)

/-- The members of a well-formed value are well-formed. -/
theorem wellFormed (h : j.Gives names least ms) (hj : j.WellFormed) {name : String} {a : Json}
    (ha : Assoc.find? ms name = some a) : a.WellFormed := by
  have hmem := Assoc.mem_of_find? ha
  cases h with
  | byName =>
    cases hj with
    | object hkeys heach => exact heach _ hmem
  | byPlace enough most =>
    cases hj with
    | array heach => exact heach a (List.of_mem_zip hmem).2

end Json.Gives

section Member

variable {β : Type} {default b : β} {read : Json → Except ShapeError β} {stands : Json → β → Prop}

/-- Reading a member that may be left out. -/
theorem readEntry_ok_iff {es : Assoc String Json} (hes : (Assoc.keys es).Nodup) {name : String}
    (h : ∀ j, Assoc.find? es name = some j → (read j = .ok b ↔ stands j b)) :
    readEntry es name default read = .ok b ↔ Optional default stands (Assoc.find? es name) b := by
  rw [readEntry_eq hes]
  cases hfind : Assoc.find? es name with
  | none => exact ⟨fun hb => by cases hb; rfl, fun hb => by cases hb; rfl⟩
  | some j => exact h j hfind

/-- Reading a member that is there. -/
theorem readEntry_of_mem {es : Assoc String Json} (hes : (Assoc.keys es).Nodup) {name : String}
    (h : name ∈ Assoc.keys es) :
    readEntry es name default read = .ok b
      ↔ ∃ a, Assoc.find? es name = some a ∧ read a = .ok b := by
  rw [readEntry_eq hes]
  obtain ⟨a, ha⟩ := Option.isSome_iff_exists.mp ((Assoc.find?_isSome_iff es name).mpr h)
  simp [ha]

/-- A member that has been read passes its check. -/
theorem checking_of_optional {o : Option Json}
    (h : ∀ j, o = some j → (read j = .ok b ↔ stands j b)) (hb : Optional default stands o b) :
    ∀ a, o = some a → checking read a = .ok () := by
  intro a ha
  subst ha
  have hread : read a = .ok b := (h a rfl).mpr hb
  unfold checking
  rw [hread]
  rfl

end Member

namespace RecordShape

variable {r : RecordShape Json} {es : Assoc String Json} {j : Json}

/-- **The entries of a record** that takes no more items than it has fields: the
members that are given, if they pass their checks and none is missing.  An
array has to reach as far as a default is lacking. -/
theorem entries_ok_iff (hexact : r.exact = true) {least : Nat}
    (hleast : ∀ n ≤ r.fields.length,
      (r.fields.drop n).any (·.absence != .defaulted) = false ↔ least ≤ n) :
    r.entries j.view = .ok es
      ↔ j.Gives r.names least es ∧ r.checkEntries es = .ok () ∧ r.missing? es = none := by
  have hlen : r.names.length = r.fields.length := List.length_map _
  cases j with
  | object ms =>
    show r.entries (.mapping ms) = .ok es ↔ _
    rw [entries_mapping_iff]
    refine and_congr_left fun _ => ⟨?_, ?_⟩
    · intro h
      subst h
      exact .byName es
    · intro h
      cases h
      rfl
  | array items =>
    show r.entries (.sequence items) = .ok es ↔ _
    rw [entries_sequence_iff hexact]
    constructor
    · intro ⟨hes, hchecks, hfew, hmany⟩
      subst hes
      refine ⟨.byPlace ((hleast _ hmany).mp hfew) (hlen ▸ hmany), hchecks, ?_⟩
      -- a field without an item has a default, so that it is not missing
      rw [missing?_eq_none_iff, keys_zip (hlen ▸ hmany)]
      intro f hf hrefused
      rw [← List.take_append_drop items.length r.fields, List.mem_append] at hf
      rcases hf with hf | hf
      · rw [names, ← List.map_take]
        exact List.mem_map_of_mem hf
      · have hdefault := List.any_eq_false.mp hfew f hf
        rw [hrefused] at hdefault
        exact absurd rfl hdefault
    · intro ⟨hgives, hchecks, _⟩
      cases hgives with
      | byPlace enough most =>
        rw [hlen] at most
        exact ⟨rfl, hchecks, (hleast _ most).mpr enough, most⟩
  | number n => cases n <;> exact iff_of_false nofun nofun
  | _ => exact iff_of_false nofun nofun

end RecordShape

/-- Integers within the bounds survive being kept in 64 bits. -/
theorem toInt_ofInt_of_range {n : Int} (hlow : Int64.minValue.toInt ≤ n)
    (hhigh : n ≤ Int64.maxValue.toInt) : (Int64.ofInt n).toInt = n :=
  Int64.toInt_ofInt_of_le hlow (Int.lt_of_le_of_lt hhigh (by decide))

theorem readText_ok_iff {j : Json} {s : String} : j.view.readText = .ok s ↔ j = .string s := by
  cases j with
  | string text => simp
  | number n => cases n <;> simp
  | _ => simp

/-- Reading a list reads each item of an array. -/
theorem readList_ok_iff {β : Type} {read : Json → Except ShapeError β} {j : Json} {bs : List β} :
    j.view.readList read = .ok bs
      ↔ ∃ items, j = .array items ∧ List.Forall₂ (fun a b => read a = .ok b) items bs := by
  cases j with
  | array items => simp [mapM_ok_iff]
  | number n => cases n <;> simp
  | _ => simp

/-! ## §5. The shape of conditions. -/

namespace RawCondition

theorem nodup_names : names.Nodup := by decide

theorem entries_ok_iff {j : Json} {es : Assoc String Json} :
    shape.entries j.view = .ok es
      ↔ j.Gives names 3 es ∧ shape.checkEntries es = .ok () ∧ shape.missing? es = none :=
  RecordShape.entries_ok_iff (r := shape) rfl (by decide)

theorem checks_iff {ms : Assoc String Json} (hms : (Assoc.keys ms).Nodup) :
    shape.checkEntries ms = .ok ()
      ↔ (∀ k ∈ Assoc.keys ms, k ∈ names)
        ∧ ∀ f ∈ shape.fields, ∀ a, Assoc.find? ms f.name = some a → f.check a = .ok () :=
  RecordShape.checks_iff (r := shape) rfl nodup_names hms

/-- **The shape of conditions.** -/
theorem read_ok_iff {j : Json} (hj : j.WellFormed) {c : RawCondition} :
    read j = .ok c ↔ IsGiven j c := by
  unfold read IsGiven
  simp only [bind_ok_iff, entries_ok_iff]
  constructor
  · intro ⟨ms, ⟨hgives, hchecks, hmissing⟩, field, hfield, op, hop, value, hvalue, hc⟩
    cases hc
    have hms := hgives.nodup nodup_names hj
    -- all three members are there, and there are no others
    have hkeys := ((checks_iff hms).mp hchecks).1
    have hpresent : ∀ name ∈ names, name ∈ Assoc.keys ms := by
      rw [RecordShape.missing?_eq_none_iff] at hmissing
      simpa [shape, names] using hmissing
    have hperm : (Assoc.keys ms).Perm names :=
      (List.perm_ext_iff_of_nodup hms nodup_names).mpr fun k => ⟨hkeys k, hpresent k⟩
    rw [readEntry_of_mem hms (hpresent _ (by decide))] at hfield hop hvalue
    obtain ⟨a, ha, hfield⟩ := hfield
    obtain ⟨b, hb, hop⟩ := hop
    obtain ⟨d, hd, hvalue⟩ := hvalue
    rw [readText_ok_iff.mp hfield] at ha
    rw [readText_ok_iff.mp hop] at hb
    cases hvalue
    exact ⟨ms, hgives, hperm, ha, hb, hd⟩
  · intro ⟨ms, hgives, hmembers⟩
    have hms := hgives.nodup nodup_names hj
    have hpresent : ∀ name ∈ names, name ∈ Assoc.keys ms := fun name hname =>
      hmembers.keys.mem_iff.mpr hname
    refine ⟨ms, ⟨hgives, (checks_iff hms).mpr ⟨fun k hk => hmembers.keys.subset hk, ?_⟩, ?_⟩,
      c.field, ?_, c.op, ?_, c.value, ?_, rfl⟩
    · simp only [shape, List.forall_mem_cons]
      refine ⟨?_, ?_, fun _ _ => trivial, List.forall_mem_nil _⟩
      · intro a ha
        rw [hmembers.field] at ha
        cases ha
        rfl
      · intro a ha
        rw [hmembers.op] at ha
        cases ha
        rfl
    · rw [RecordShape.missing?_eq_none_iff]
      exact fun f hf _ => hpresent f.name (List.mem_map_of_mem hf)
    · rw [readEntry_of_mem hms (hpresent _ (by decide))]
      exact ⟨_, hmembers.field, rfl⟩
    · rw [readEntry_of_mem hms (hpresent _ (by decide))]
      exact ⟨_, hmembers.op, rfl⟩
    · rw [readEntry_of_mem hms (hpresent _ (by decide))]
      exact ⟨_, hmembers.value, rfl⟩

end RawCondition

/-! ## §6. The shape of queries. -/

namespace RawQuery

theorem nodup_names : names.Nodup := by decide

/-- All members have defaults. -/
theorem defaulted : ∀ f ∈ shape.fields, f.absence = .defaulted := by decide

/-- There is a default for whatever an array leaves out. -/
theorem not_any_drop (n : Nat) :
    (shape.fields.drop n).any (·.absence != .defaulted) = false := by
  rw [List.any_eq_false]
  intro f hf
  simp [defaulted f (List.mem_of_mem_drop hf)]

theorem entries_ok_iff {j : Json} {es : Assoc String Json} :
    shape.entries j.view = .ok es ↔ j.Gives names 0 es ∧ shape.checkEntries es = .ok () := by
  rw [RecordShape.entries_ok_iff (r := shape) rfl fun n _ =>
    iff_of_true (not_any_drop n) (Nat.zero_le n)]
  refine and_congr_right fun _ => and_iff_left ?_
  rw [RecordShape.missing?_eq_none_iff]
  intro f hf hrefused
  rw [defaulted f hf] at hrefused
  cases hrefused

theorem readTexts_ok_iff {j : Json} {texts : List String} :
    readTexts j = .ok texts ↔ j.IsTexts texts := by
  have hitems : ∀ items : List Json,
      List.Forall₂ (fun a s => (View.readText ∘ Json.view) a = .ok s) items texts
        ↔ items = texts.map .string := by
    intro items
    rw [← List.forall₂_eq_eq_eq, List.forall₂_map_right_iff]
    exact forall₂_congr_of_mem fun a _ s => readText_ok_iff
  unfold readTexts Json.IsTexts
  simp only [readList_ok_iff, hitems]
  constructor
  · intro ⟨items, hj, hitems⟩
    rw [hj, hitems]
  · intro hj
    exact ⟨_, hj, rfl⟩

theorem readBound_ok_iff {j : Json} {n : Int64} : readBound j = .ok n ↔ j.IsBound n := by
  unfold readBound Json.IsBound
  constructor
  · intro h
    unfold View.readInt64 at h
    cases hk : j.view.integerIn Int64.minValue.toInt Int64.maxValue.toInt "i64" with
    | error e =>
      rw [hk] at h
      cases h
    | ok k =>
      -- between the bounds nothing is lost, and a double is never between them
      rw [hk] at h
      cases h
      obtain ⟨hview, hlow, hhigh⟩ := View.integerIn_ok_iff.mp hk
      rw [toInt_ofInt_of_range hlow hhigh]
      cases j with
      | number m =>
        cases m with
        | integer m =>
          cases hview
          rfl
        | float x => cases hview
      | _ => cases hview
  · intro h
    rw [h]
    exact View.readInt64_integer n

theorem readConditions_ok_iff {j : Json} (hj : j.WellFormed) {cs : List RawCondition} :
    readConditions j = .ok cs ↔ j.IsConditions RawCondition.IsGiven cs := by
  unfold readConditions Json.IsConditions
  rw [readList_ok_iff]
  refine exists_congr fun items => and_congr_right fun hitems => ?_
  subst hitems
  cases hj with
  | array heach => exact forall₂_congr_of_mem fun a ha c => RawCondition.read_ok_iff (heach a ha)

theorem checks_iff {ms : Assoc String Json} (hms : (Assoc.keys ms).Nodup) :
    shape.checkEntries ms = .ok ()
      ↔ (∀ k ∈ Assoc.keys ms, k ∈ names)
        ∧ ∀ f ∈ shape.fields, ∀ a, Assoc.find? ms f.name = some a → f.check a = .ok () :=
  RecordShape.checks_iff (r := shape) rfl nodup_names hms

/-- **The shape of queries.** -/
theorem read_ok_iff {j : Json} (hj : j.WellFormed) {raw : RawQuery} :
    read j = .ok raw ↔ ∃ ms, j.Gives names 0 ms ∧ Members RawCondition.IsGiven ms raw := by
  unfold read
  simp only [bind_ok_iff, entries_ok_iff]
  constructor
  · intro ⟨ms, ⟨hgives, hchecks⟩, select, hselect, cs, hcs, sort, hsort, limit, hlimit, offset,
      hoffset, hraw⟩
    cases hraw
    have hms := hgives.nodup nodup_names hj
    exact ⟨ms, hgives, ((checks_iff hms).mp hchecks).1,
      (readEntry_ok_iff hms fun _ _ => readTexts_ok_iff).mp hselect,
      (readEntry_ok_iff hms fun _ ha => readConditions_ok_iff (hgives.wellFormed hj ha)).mp hcs,
      (readEntry_ok_iff hms fun _ _ => readTexts_ok_iff).mp hsort,
      (readEntry_ok_iff hms fun _ _ => readBound_ok_iff).mp hlimit,
      (readEntry_ok_iff hms fun _ _ => readBound_ok_iff).mp hoffset⟩
  · intro ⟨ms, hgives, hmembers⟩
    have hms := hgives.nodup nodup_names hj
    -- each member is looked at twice: checked as it comes, and read at the end
    refine ⟨ms, ⟨hgives, (checks_iff hms).mpr ⟨hmembers.keys, ?_⟩⟩,
      raw.select, (readEntry_ok_iff hms fun _ _ => readTexts_ok_iff).mpr hmembers.select,
      raw.conditions, (readEntry_ok_iff hms fun _ ha =>
        readConditions_ok_iff (hgives.wellFormed hj ha)).mpr hmembers.conditions,
      raw.sort, (readEntry_ok_iff hms fun _ _ => readTexts_ok_iff).mpr hmembers.sort,
      raw.limit, (readEntry_ok_iff hms fun _ _ => readBound_ok_iff).mpr hmembers.limit,
      raw.offset, (readEntry_ok_iff hms fun _ _ => readBound_ok_iff).mpr hmembers.offset, rfl⟩
    simp only [shape, List.forall_mem_cons]
    exact ⟨checking_of_optional (fun _ _ => readTexts_ok_iff) hmembers.select,
      checking_of_optional (fun _ ha => readConditions_ok_iff (hgives.wellFormed hj ha))
        hmembers.conditions,
      checking_of_optional (fun _ _ => readTexts_ok_iff) hmembers.sort,
      checking_of_optional (fun _ _ => readBound_ok_iff) hmembers.limit,
      checking_of_optional (fun _ _ => readBound_ok_iff) hmembers.offset, List.forall_mem_nil _⟩

end RawQuery

end DataAccess
