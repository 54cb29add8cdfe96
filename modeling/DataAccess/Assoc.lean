/-
  DataAccess.Assoc — association lists with at most one pair per key.

  Rows, documents, collections and tables are all kept as lists of pairs.
  Writing a key that is present changes its value where it stands, so the
  order of the pairs is the order in which the keys were first given.
  Tables that are listed in key order use `insertSorted` instead.

  Main statements:
    * `find?_insert`        — a write is seen at its own key and nowhere else;
    * `keys_insert`         — a write keeps the order of the keys;
    * `nodup_keys_insert`   — a write never makes a second pair for a key;
    * `ofList_of_nodup`     — pairs with distinct keys stay as they are;
    * `find?_ofList`        — of several pairs for a key, the last one is read;
    * `find?_erase`         — removing a key is seen at that key alone;
    * `insertAll_of_keys_eq` — pairs that are all written over are replaced;
    * `pairwise_insertSorted` — a sorted list stays so;
    * `concat_eq_split_iff` — where an entry stands when one more is added.
-/

namespace DataAccess

universe u v

/-- Pairs of a key and a value, in the order in which they are listed. -/
abbrev Assoc (κ : Type u) (α : Type v) := List (κ × α)

namespace Assoc

variable {κ : Type u} {α : Type v}

/-! ## §1. Operations. -/

/-- The value at the first pair with this key. -/
def find? [DecidableEq κ] : Assoc κ α → κ → Option α
  | [], _ => none
  | (k', a) :: m, k => if k' = k then some a else find? m k

/-- Writes a value: in place if the key is present, at the end if it is new. -/
def insert [DecidableEq κ] : Assoc κ α → κ → α → Assoc κ α
  | [], k, a => [(k, a)]
  | (k', a') :: m, k, a =>
      if k' = k then (k, a) :: m else (k', a') :: insert m k a

/-- Removes every pair with this key. -/
def erase [DecidableEq κ] : Assoc κ α → κ → Assoc κ α
  | [], _ => []
  | (k', a) :: m, k => if k' = k then erase m k else (k', a) :: erase m k

/-- The keys, in order. -/
def keys (m : Assoc κ α) : List κ := m.map (·.1)

/-- The values, in the order of their keys. -/
def values (m : Assoc κ α) : List α := m.map (·.2)

/-- Writes all pairs of the second list, in order, over the first. -/
def insertAll [DecidableEq κ] (m : Assoc κ α) (pairs : List (κ × α)) : Assoc κ α :=
  pairs.foldl (fun acc p => acc.insert p.1 p.2) m

/-- The pairs written one by one: a repeated key keeps its first place and
its last value. -/
def ofList [DecidableEq κ] (pairs : List (κ × α)) : Assoc κ α :=
  insertAll [] pairs

/-- Writes a value into a list that stands in ascending order of its keys,
as `before` tells it, and keeps that order. -/
def insertSorted [DecidableEq κ] (before : κ → κ → Bool) :
    Assoc κ α → κ → α → Assoc κ α
  | [], k, a => [(k, a)]
  | (k', a') :: m, k, a =>
      if k' = k then (k, a) :: m
      else if before k k' then (k, a) :: (k', a') :: m
      else (k', a') :: insertSorted before m k a

/-! ## §2. What an operation shows. -/

@[simp] theorem keys_cons (p : κ × α) (m : Assoc κ α) : keys (p :: m) = p.1 :: keys m := rfl

@[simp] theorem keys_append (m n : Assoc κ α) : keys (m ++ n) = keys m ++ keys n :=
  List.map_append

variable [DecidableEq κ]

@[simp] theorem find?_nil (k : κ) : find? ([] : Assoc κ α) k = none := rfl

theorem find?_cons (p : κ × α) (m : Assoc κ α) (k : κ) :
    find? (p :: m) k = if p.1 = k then some p.2 else find? m k := rfl

/-- A write is seen at its own key, and every other key reads as before. -/
@[simp] theorem find?_insert (m : Assoc κ α) (k j : κ) (a : α) :
    find? (insert m k a) j = if k = j then some a else find? m j := by
  induction m with
  | nil => simp [insert, find?]
  | cons p m ih =>
    obtain ⟨k', a'⟩ := p
    by_cases hk : k' = k <;> by_cases hj : k' = j <;> (simp_all [insert, find?]; try grind)

/-- A new key goes to the end; a key that is present keeps its place. -/
theorem keys_insert (m : Assoc κ α) (k : κ) (a : α) :
    keys (insert m k a) = if k ∈ keys m then keys m else keys m ++ [k] := by
  induction m with
  | nil => simp [insert, keys]
  | cons p m ih =>
    obtain ⟨k', a'⟩ := p
    by_cases hk : k' = k
    · simp [insert, keys, hk]
    · simp only [keys] at ih
      have hk' : ¬ k = k' := fun h => hk h.symm
      simp only [insert, hk, if_false, keys, List.map_cons, ih, List.mem_cons, hk', false_or]
      by_cases hm : k ∈ List.map (fun x => x.1) m <;> simp [hm]

/-- A write never makes a second pair for a key. -/
theorem nodup_keys_insert {m : Assoc κ α} (h : (keys m).Nodup) (k : κ) (a : α) :
    (keys (insert m k a)).Nodup := by
  rw [keys_insert]
  split
  · exact h
  · next hk =>
    rw [List.nodup_append]
    refine ⟨h, by simp, fun x hx y hy => ?_⟩
    simp only [List.mem_singleton] at hy
    intro hxy
    exact hk (hy ▸ hxy ▸ hx)

/-- Writing pairs never makes a second pair for a key. -/
theorem nodup_keys_insertAll {m : Assoc κ α} (h : (keys m).Nodup) (pairs : Assoc κ α) :
    (keys (insertAll m pairs)).Nodup := by
  induction pairs generalizing m with
  | nil => exact h
  | cons p pairs ih => exact ih (nodup_keys_insert h p.1 p.2)

theorem insert_of_not_mem {m : Assoc κ α} {k : κ} (h : k ∉ keys m) (a : α) :
    insert m k a = m ++ [(k, a)] := by
  induction m with
  | nil => rfl
  | cons p m ih =>
    rw [keys_cons, List.mem_cons, not_or] at h
    rw [insert, if_neg (fun hk => h.1 hk.symm), ih h.2, List.cons_append]

theorem insertAll_of_nodup {m pairs : Assoc κ α} (h : (keys (m ++ pairs)).Nodup) :
    insertAll m pairs = m ++ pairs := by
  induction pairs generalizing m with
  | nil => rw [insertAll, List.foldl_nil, List.append_nil]
  | cons p pairs ih =>
    have hp : p.1 ∉ keys m := by
      rw [keys_append, List.nodup_append] at h
      exact fun hm => h.2.2 p.1 hm p.1 List.mem_cons_self rfl
    show insertAll (insert m p.1 p.2) pairs = _
    rw [insert_of_not_mem hp, ih (by rwa [List.append_assoc, List.singleton_append]),
      List.append_assoc, List.singleton_append]

/-- Pairs with distinct keys stay as they are. -/
theorem ofList_of_nodup {pairs : Assoc κ α} (h : (keys pairs).Nodup) : ofList pairs = pairs :=
  insertAll_of_nodup h

theorem find?_insertAll (m pairs : Assoc κ α) (k : κ) :
    find? (insertAll m pairs) k = (find? pairs.reverse k).or (find? m k) := by
  induction pairs generalizing m with
  | nil => rfl
  | cons p pairs ih =>
    have hlast : ∀ ps : Assoc κ α, find? (ps ++ [p]) k = (find? ps k).or (find? [p] k) := by
      intro ps
      induction ps with
      | nil => rfl
      | cons q ps ih =>
        rw [List.cons_append, find?_cons, find?_cons, ih]
        split <;> rfl
    show find? (insertAll (insert m p.1 p.2) pairs) k = _
    rw [ih, find?_insert, List.reverse_cons, hlast, Option.or_assoc]
    congr 1
    rw [find?_cons, find?_nil]
    split <;> rfl

/-- Of several pairs for a key, the last one is read. -/
theorem find?_ofList (pairs : Assoc κ α) (k : κ) :
    find? (ofList pairs) k = find? pairs.reverse k := by
  rw [ofList, find?_insertAll, find?_nil, Option.or_none]

/-- Values that are changed one by one read as changed. -/
theorem find?_map {β : Type v} (f : α → β) (m : Assoc κ α) (k : κ) :
    find? (m.map fun p => (p.1, f p.2)) k = (find? m k).map f := by
  induction m with
  | nil => rfl
  | cons p m ih =>
    rw [List.map_cons, find?_cons, find?_cons, ih]
    split <;> rfl

theorem insertAll_concat (m pairs : Assoc κ α) (p : κ × α) :
    insertAll m (pairs ++ [p]) = insert (insertAll m pairs) p.1 p.2 := by
  rw [insertAll, List.foldl_append]
  rfl

theorem ofList_concat (pairs : Assoc κ α) (p : κ × α) :
    ofList (pairs ++ [p]) = insert (ofList pairs) p.1 p.2 :=
  insertAll_concat [] pairs p

/-- A pair that is written anew stays in its place. -/
theorem insert_middle {before after : Assoc κ α} {k : κ} (h : k ∉ keys before) (a b : α) :
    insert (before ++ (k, a) :: after) k b = before ++ (k, b) :: after := by
  induction before with
  | nil => exact if_pos rfl
  | cons p before ih =>
    rw [keys_cons, List.mem_cons, not_or] at h
    rw [List.cons_append, insert, if_neg (fun hk => h.1 hk.symm), ih h.2, List.cons_append]

/-- Writing the value that is there changes nothing. -/
theorem insert_of_find? {m : Assoc κ α} {k : κ} {a : α} (h : find? m k = some a) :
    insert m k a = m := by
  induction m with
  | nil => cases h
  | cons p m ih =>
    obtain ⟨k', a'⟩ := p
    rw [find?_cons] at h
    by_cases hk : k' = k
    · rw [if_pos hk] at h
      cases h
      rw [insert, if_pos hk, hk]
    · rw [if_neg hk] at h
      rw [insert, if_neg hk, ih h]

/-- Removing a key hides it, and every other key reads as before. -/
@[simp] theorem find?_erase (m : Assoc κ α) (k j : κ) :
    find? (erase m k) j = if k = j then none else find? m j := by
  induction m with
  | nil => simp [erase]
  | cons p m ih =>
    obtain ⟨k', a'⟩ := p
    by_cases hk : k' = k <;> by_cases hj : k' = j <;> (simp_all [erase, find?]; try grind)

/-- Writing a pair adds no other one. -/
theorem mem_insert {m : Assoc κ α} {k : κ} {a : α} {p : κ × α} (h : p ∈ insert m k a) :
    p = (k, a) ∨ p ∈ m := by
  induction m with
  | nil => exact .inl (List.mem_singleton.mp h)
  | cons q m ih =>
    obtain ⟨k', a'⟩ := q
    unfold insert at h
    split at h
    · next hk =>
      rcases List.mem_cons.mp h with hp | hp
      · exact .inl (hk ▸ hp)
      · exact .inr (List.mem_cons_of_mem _ hp)
    · rcases List.mem_cons.mp h with hp | hp
      · exact .inr (hp ▸ List.mem_cons_self)
      · exact (ih hp).imp_right (List.mem_cons_of_mem _)

/-- Removing a key leaves out its pairs. -/
theorem erase_eq_filter (m : Assoc κ α) (k : κ) : erase m k = m.filter fun p => p.1 ≠ k := by
  induction m with
  | nil => rfl
  | cons p m ih =>
    obtain ⟨k', a⟩ := p
    unfold erase
    split
    · next h => rw [ih, List.filter_cons_of_neg (by simp [h])]
    · next h => rw [ih, List.filter_cons_of_pos (by simp [h])]

theorem erase_of_not_mem {m : Assoc κ α} {k : κ} (h : k ∉ keys m) : erase m k = m := by
  rw [erase_eq_filter, List.filter_eq_self]
  intro p hp
  have hne : p.1 ≠ k := fun hk => h (hk ▸ List.mem_map_of_mem hp)
  simp [hne]

omit [DecidableEq κ] in
/-- Leaving pairs out never makes a second pair for a key. -/
theorem nodup_keys_filter {m : Assoc κ α} (h : (keys m).Nodup) (p : κ × α → Bool) :
    (keys (m.filter p)).Nodup :=
  List.Nodup.sublist (List.filter_sublist.map _) h

/-- Removing a key never makes a second pair for another one. -/
theorem nodup_keys_erase {m : Assoc κ α} (h : (keys m).Nodup) (k : κ) :
    (keys (erase m k)).Nodup := by
  rw [erase_eq_filter]
  exact nodup_keys_filter h _

/-- A key has a value exactly when some pair carries it. -/
theorem find?_isSome_iff (m : Assoc κ α) (k : κ) :
    (find? m k).isSome = true ↔ k ∈ keys m := by
  induction m with
  | nil => simp [keys]
  | cons p m ih =>
    obtain ⟨k', a'⟩ := p
    simp only [keys] at ih
    by_cases hk : k' = k
    · simp [find?, hk, keys]
    · have hk' : ¬ k = k' := fun h => hk h.symm
      simp [find?, hk, hk', keys, ih]

/-- A value that is found stands under its key. -/
theorem mem_of_find? {m : Assoc κ α} {k : κ} {a : α} (h : find? m k = some a) : (k, a) ∈ m := by
  induction m with
  | nil => cases h
  | cons p m ih =>
    obtain ⟨k', a'⟩ := p
    rw [find?_cons] at h
    split at h
    · next hk =>
      cases h
      cases hk
      exact List.mem_cons_self
    · exact List.mem_cons_of_mem _ (ih h)

/-- Where no key is listed twice, every pair is found. -/
theorem find?_eq_some_iff {m : Assoc κ α} (h : (keys m).Nodup) {k : κ} {a : α} :
    find? m k = some a ↔ (k, a) ∈ m := by
  refine ⟨mem_of_find?, fun hmem => ?_⟩
  induction m with
  | nil => cases hmem
  | cons p m ih =>
    obtain ⟨k', a'⟩ := p
    rw [keys_cons, List.nodup_cons] at h
    rw [find?_cons]
    rcases List.mem_cons.mp hmem with hp | hm
    · cases hp
      exact if_pos rfl
    · have hkey : k ∈ m.map (·.1) := List.mem_map_of_mem hm
      have hne : k' ≠ k := fun hk => h.1 (hk ▸ hkey)
      rw [if_neg hne]
      exact ih h.2 hm

/-- Where no key is listed twice, a value is found among those that are left
if it is one of them. -/
theorem find?_filter_values {m : Assoc κ α} (h : (keys m).Nodup) (p : α → Bool) (k : κ) :
    find? (m.filter fun e => p e.2) k = (find? m k).filter p := by
  induction m with
  | nil => rfl
  | cons e m ih =>
    rw [keys_cons, List.nodup_cons] at h
    by_cases hk : e.1 = k
    · -- no other pair has the key, so that it is gone with this one
      have hgone : find? m k = none := by
        have hno : ¬ (find? m k).isSome = true :=
          fun hs => h.1 (hk ▸ (find?_isSome_iff m k).mp hs)
        simpa using hno
      rw [find?_cons, if_pos hk, Option.filter_some]
      by_cases hp : p e.2 = true
      · rw [List.filter_cons_of_pos (p := fun e : κ × α => p e.2) hp, find?_cons, if_pos hk,
          if_pos hp]
      · rw [List.filter_cons_of_neg (p := fun e : κ × α => p e.2) hp, ih h.2, hgone, if_neg hp]
        rfl
    · rw [find?_cons, if_neg hk, ← ih h.2]
      by_cases hp : p e.2 = true
      · rw [List.filter_cons_of_pos (p := fun e : κ × α => p e.2) hp, find?_cons, if_neg hk]
      · rw [List.filter_cons_of_neg (p := fun e : κ × α => p e.2) hp]

/-- **Writing pairs over those of the same keys replaces them.** -/
theorem insertAll_of_keys_eq {m pairs : Assoc κ α} (hkeys : keys m = keys pairs)
    (hnodup : (keys m).Nodup) : insertAll m pairs = pairs := by
  -- the pairs that are written already grow along the others
  suffices hrest : ∀ (pairs m done : Assoc κ α), keys m = keys pairs → (keys (done ++ m)).Nodup →
      insertAll (done ++ m) pairs = done ++ pairs from hrest pairs m [] hkeys hnodup
  intro pairs
  induction pairs with
  | nil =>
    intro m done hkeys _
    rw [List.map_eq_nil_iff.mp hkeys]
    rfl
  | cons p pairs ih =>
    intro m done hkeys hnodup
    cases m with
    | nil => cases hkeys
    | cons q m =>
      obtain ⟨k, a⟩ := q
      obtain ⟨k', b⟩ := p
      obtain ⟨hkk, hm⟩ := List.cons.inj hkeys
      obtain rfl : k = k' := hkk
      have hk : k ∉ keys done := by
        rw [keys_append, List.nodup_append] at hnodup
        exact fun hmem => hnodup.2.2 k hmem k List.mem_cons_self rfl
      show insertAll (insert (done ++ (k, a) :: m) k b) pairs = _
      rw [insert_middle hk, List.append_cons done (k, b) m, List.append_cons done (k, b) pairs]
      exact ih m (done ++ [(k, b)]) hm (by simpa [keys] using hnodup)

/-- Writing pairs one by one gives exactly their keys. -/
@[simp] theorem mem_keys_ofList {pairs : Assoc κ α} {k : κ} :
    k ∈ keys (ofList pairs) ↔ k ∈ keys pairs := by
  rw [← find?_isSome_iff, find?_ofList, find?_isSome_iff, keys, List.map_reverse, List.mem_reverse,
    keys]

/-- A write into a sorted list is seen at its own key and nowhere else. -/
@[simp] theorem find?_insertSorted (before : κ → κ → Bool) (m : Assoc κ α) (k j : κ) (a : α) :
    find? (insertSorted before m k a) j = if k = j then some a else find? m j := by
  induction m with
  | nil => simp [insertSorted, find?]
  | cons p m ih =>
    obtain ⟨k', a'⟩ := p
    by_cases hk : k' = k
    · subst hk; by_cases hj : k' = j <;> simp [insertSorted, find?, hj]
    · simp only [insertSorted, hk, if_false]
      split
      · rfl
      · rw [find?_cons, find?_cons, ih]
        grind

theorem mem_keys_insertSorted {before : κ → κ → Bool} {m : Assoc κ α} {k j : κ} {a : α} :
    j ∈ keys (insertSorted before m k a) ↔ j = k ∨ j ∈ keys m := by
  rw [← find?_isSome_iff, find?_insertSorted, ← find?_isSome_iff]
  by_cases hk : k = j
  · simp [hk]
  · have hj : ¬ j = k := fun h => hk h.symm
    simp [hk, hj]

/-- A key is put in its place. -/
theorem pairwise_insertSorted {before : κ → κ → Bool} {R : κ → κ → Prop}
    (hbefore : ∀ k j, before k j = true ↔ R k j) (htrans : ∀ {i j k}, R i j → R j k → R i k)
    (htotal : ∀ {k j}, k ≠ j → ¬ R k j → R j k) {m : Assoc κ α} (h : (keys m).Pairwise R)
    (k : κ) (a : α) : (keys (insertSorted before m k a)).Pairwise R := by
  induction m with
  | nil => exact List.pairwise_singleton R k
  | cons p m ih =>
    obtain ⟨k', a'⟩ := p
    have hm : (∀ j ∈ keys m, R k' j) ∧ (keys m).Pairwise R := List.pairwise_cons.mp h
    unfold insertSorted
    split
    · next hk => exact hk ▸ h
    · next hk =>
      split
      · next hlt =>
        have hfirst : R k k' := (hbefore k k').mp hlt
        exact List.pairwise_cons.mpr ⟨List.forall_mem_cons.mpr
          ⟨hfirst, fun j hj => htrans hfirst (hm.1 j hj)⟩, h⟩
      · next hlt =>
        have hfirst : R k' k :=
          htotal (fun hkk => hk hkk.symm) fun hr => hlt ((hbefore k k').mpr hr)
        refine List.pairwise_cons.mpr ⟨fun j hj => ?_, ih hm.2⟩
        rcases mem_keys_insertSorted.mp hj with rfl | hj
        · exact hfirst
        · exact hm.1 j hj

end Assoc

/-! ## Lists to which one entry is added at a time. -/

/-- An entry of the longer list is the one that was added, or stands where it
stood and has that one behind it. -/
theorem concat_eq_split_iff {α : Type u} {xs before after : List α} {x a : α} :
    xs ++ [x] = before ++ a :: after
      ↔ before = xs ∧ x = a ∧ after = []
        ∨ ∃ rest, after = rest ++ [x] ∧ xs = before ++ a :: rest := by
  constructor
  · intro h
    rcases List.eq_nil_or_concat after with rfl | ⟨rest, y, rfl⟩
    · obtain ⟨rfl, hx⟩ := List.append_inj' h rfl
      exact .inl ⟨rfl, List.singleton_inj.mp hx, rfl⟩
    · have hsplit : xs ++ [x] = (before ++ a :: rest) ++ [y] := by simpa using h
      obtain ⟨hxs, hx⟩ := List.append_inj' hsplit rfl
      rw [List.singleton_inj.mp hx, List.concat_eq_append]
      exact .inr ⟨rest, rfl, hxs⟩
  · intro h
    rcases h with ⟨rfl, rfl, rfl⟩ | ⟨rest, rfl, rfl⟩
    · rfl
    · rw [List.append_assoc, List.cons_append]

end DataAccess
