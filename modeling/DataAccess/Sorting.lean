/-
  DataAccess.Sorting — sorting by a comparison that need not be an order.

  A comparison puts a list in an order if it turns around with its elements
  and carries over from two pairs of them to a third.  Sorting then keeps
  elements that are level as they stood.  If the comparison is no order, the
  sorter promises nothing but that every element is kept: it may leave them
  in whatever arrangement, and it may notice what is wrong and panic.

  Main statements:
    * `ConsistentOn.of_rel` — what compares as an order does is in order;
    * `consistentOn_map`   — comparing by what is read off the elements;
    * `sort_map`           — and sorting by it;
    * `sort_of_level`      — nothing moves where nothing is told apart;
    * `perm_of_sort`       — sorting neither loses nor makes up an element.
-/

namespace DataAccess

section

variable {α β : Type}

/-- The comparison puts the elements of a list in an order. -/
def ConsistentOn (cmp : α → α → Ordering) (xs : List α) : Prop :=
  (∀ a ∈ xs, ∀ b ∈ xs, cmp b a = (cmp a b).swap)
    ∧ ∀ a ∈ xs, ∀ b ∈ xs, ∀ c ∈ xs, cmp a b ≠ .gt → cmp b c ≠ .gt → cmp a c ≠ .gt

instance (cmp : α → α → Ordering) (xs : List α) : Decidable (ConsistentOn cmp xs) :=
  inferInstanceAs (Decidable (_ ∧ _))

/-- Comparing by what is read off the elements of a list is comparing what is
read off them. -/
theorem consistentOn_map (cmp : β → β → Ordering) (f : α → β) (xs : List α) :
    ConsistentOn cmp (xs.map f) ↔ ConsistentOn (fun a b => cmp (f a) (f b)) xs := by
  unfold ConsistentOn
  simp only [List.forall_mem_map]

/-- Elements that compare as others in an order do are in order. -/
theorem ConsistentOn.of_rel {cmp : α → α → Ordering} {cmp' : β → β → Ordering} {xs : List α}
    {ys : List β} (h : ConsistentOn cmp' ys) {r : α → β → Prop} (hr : ∀ a ∈ xs, ∃ y ∈ ys, r a y)
    (heq : ∀ a y b z, r a y → r b z → cmp a b = cmp' y z) : ConsistentOn cmp xs := by
  constructor
  · intro a ha b hb
    obtain ⟨y, hy, hay⟩ := hr a ha
    obtain ⟨z, hz, hbz⟩ := hr b hb
    rw [heq b z a y hbz hay, heq a y b z hay hbz]
    exact h.1 y hy z hz
  · intro a ha b hb c hc
    obtain ⟨y, hy, hay⟩ := hr a ha
    obtain ⟨z, hz, hbz⟩ := hr b hb
    obtain ⟨w, hw, hcw⟩ := hr c hc
    rw [heq a y b z hay hbz, heq b z c w hbz hcw, heq a y c w hay hcw]
    exact h.2 y hy z hz w hw

/-- Only the elements of the list count. -/
theorem ConsistentOn.congr {cmp cmp' : α → α → Ordering} {xs : List α} (h : ConsistentOn cmp xs)
    (heq : ∀ a ∈ xs, ∀ b ∈ xs, cmp a b = cmp' a b) : ConsistentOn cmp' xs := by
  refine h.of_rel (r := fun a b => a = b ∧ a ∈ xs) (fun a ha => ⟨a, ha, rfl, ha⟩) ?_
  rintro a _ b _ ⟨rfl, ha⟩ ⟨rfl, hb⟩
  exact (heq a ha b hb).symm

/-- Fewer elements are in order if more are. -/
theorem ConsistentOn.of_subset {cmp : α → α → Ordering} {xs ys : List α} (h : ConsistentOn cmp xs)
    (hsub : ∀ a ∈ ys, a ∈ xs) : ConsistentOn cmp ys := by
  refine h.of_rel (r := Eq) (fun a ha => ⟨a, hsub a ha, rfl⟩) ?_
  rintro a _ b _ rfl rfl
  rfl

/-- Elements that are all level are in order. -/
theorem consistentOn_of_level {cmp : α → α → Ordering} {xs : List α}
    (h : ∀ a ∈ xs, ∀ b ∈ xs, cmp a b = .eq) : ConsistentOn cmp xs := by
  constructor
  · intro a ha b hb
    rw [h a ha b hb, h b hb a ha]
    rfl
  · intro a ha b hb c hc _ _
    rw [h a ha c hc]
    exact nofun

/-- An order puts the elements of every list in an order. -/
theorem consistentOn_of_transCmp {cmp : α → α → Ordering} [Std.TransCmp cmp] (xs : List α) :
    ConsistentOn cmp xs := by
  have hle : ∀ {o : Ordering}, o ≠ .gt ↔ o.isLE = true := fun {o} => by cases o <;> simp
  refine ⟨fun _ _ _ _ => Std.OrientedCmp.eq_swap, fun a _ b _ c _ hab hbc => ?_⟩
  exact hle.mpr (Std.TransCmp.isLE_trans (hle.mp hab) (hle.mp hbc))

/-- Three elements of which two are not below the next, and the first is above
the last, are in no order. -/
theorem not_consistentOn {cmp : α → α → Ordering} {xs : List α} {a b c : α} (ha : a ∈ xs)
    (hb : b ∈ xs) (hc : c ∈ xs) (hab : cmp a b ≠ .gt) (hbc : cmp b c ≠ .gt) (hac : cmp a c = .gt) :
    ¬ ConsistentOn cmp xs := by
  intro h
  exact h.2 a ha b hb c hc hab hbc hac

end

/-- What is left open about sorting: what comes of elements that are in no
order. -/
class Sorter where
  /-- Some arrangement, none if the sorter panics. -/
  disordered : {α : Type} → (α → α → Ordering) → List α → Option (List α)
  /-- Every element is kept. -/
  perm : ∀ {α : Type} {cmp : α → α → Ordering} {xs ys : List α},
    disordered cmp xs = some ys → ys.Perm xs

namespace Sorter

variable [Sorter] {α β : Type} {cmp : α → α → Ordering} {xs ys : List α}

/-- Sorts a list, elements that are level as they stood; none if the sorter
panics. -/
def sort (cmp : α → α → Ordering) (xs : List α) : Option (List α) :=
  if ConsistentOn cmp xs then some (xs.mergeSort fun a b => cmp a b != .gt)
  else disordered cmp xs

theorem sort_of_consistentOn (h : ConsistentOn cmp xs) :
    sort cmp xs = some (xs.mergeSort fun a b => cmp a b != .gt) := if_pos h

/-- Sorting by what is read off the elements is sorting what is read off
them. -/
theorem sort_map {cmp : β → β → Ordering} {f : α → β} (h : ConsistentOn cmp (xs.map f)) :
    sort cmp (xs.map f) = (sort (fun a b => cmp (f a) (f b)) xs).map (List.map f) := by
  have hsorted : (xs.mergeSort fun a b => cmp (f a) (f b) != .gt).map f
      = (xs.map f).mergeSort fun a b => cmp a b != .gt :=
    List.map_mergeSort fun _ _ _ _ => rfl
  rw [sort_of_consistentOn h, sort_of_consistentOn ((consistentOn_map cmp f xs).mp h),
    Option.map_some, hsorted]

/-- Nothing moves where nothing is told apart. -/
theorem sort_of_level (h : ∀ a ∈ xs, ∀ b ∈ xs, cmp a b = .eq) : sort cmp xs = some xs := by
  rw [sort_of_consistentOn (consistentOn_of_level h)]
  refine congrArg some (List.mergeSort_of_pairwise ?_)
  refine List.Pairwise.imp_of_mem (R := fun _ _ => True) ?_
    (List.pairwise_of_forall fun _ _ => trivial)
  intro a b ha hb _
  rw [h a ha b hb]
  rfl

/-- **Sorting neither loses nor makes up an element.** -/
theorem perm_of_sort (h : sort cmp xs = some ys) : ys.Perm xs := by
  unfold sort at h
  split at h
  · cases h
    exact List.mergeSort_perm xs _
  · exact perm h

end Sorter

end DataAccess
