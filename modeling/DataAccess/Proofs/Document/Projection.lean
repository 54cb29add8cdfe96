/-
  DataAccess.Proofs.Document.Projection — what a projection keeps.

  A filter and a sort key read a field name as a path: the dots lead into the
  documents within a document.  A projection takes the same names for keys of
  the document itself.  So what is left of a path does not depend on the path
  but on where it starts:

      a path is kept whole   if its first segment is projected,
      and leads nowhere      otherwise.

  A name without dots is its first segment, and is kept.  A name with dots is
  lost unless its first segment is projected beside it.

  Main statements:
    * `path?_restrict` — the paths of a restricted document;
    * `find_select`    — a projection changes the answers, and not which they are;
    * `find_projected` — what is kept of each answer.
-/
import DataAccess.Proofs.Relational.SameAnswers

namespace DataAccess

/-! ## §1. Paths of a restricted document. -/

/-- The field in which a path starts. -/
def FieldPath.top (path : String) : String := (FieldPath.segments path).headD ""

theorem FieldPath.top_of_segments {path k : String} {ks : List String}
    (h : FieldPath.segments path = k :: ks) : FieldPath.top path = k := by
  rw [top, h, List.headD_cons]

/-- A path without dots starts in itself. -/
theorem FieldPath.top_of_not_mem {path : String} (h : '.' ∉ path.toList) :
    FieldPath.top path = path :=
  top_of_segments (segments_of_not_mem h)

namespace Document

theorem along?_restrict (d : Document) (names : List String) (k : String) (ks : List String) :
    along? (d.restrict names) (k :: ks) = if k ∈ names then along? d (k :: ks) else none := by
  cases ks with
  | nil => exact find?_restrict d names k
  | cons k' ks =>
    -- only the step to the field of the document itself meets the restriction
    have hfind := find?_restrict d names k
    by_cases hk : k ∈ names
    · rw [if_pos hk] at hfind ⊢
      simp only [along?, hfind]
    · rw [if_neg hk] at hfind ⊢
      simp only [along?, hfind]

/-- **The paths of a restricted document** are those that start in a field that
is named. -/
theorem path?_restrict (d : Document) (names : List String) (path : String) :
    (d.restrict names).path? path
      = if FieldPath.top path ∈ names then d.path? path else none := by
  obtain ⟨k, ks, hsegments⟩ : ∃ k ks, FieldPath.segments path = k :: ks := by
    refine List.exists_cons_of_ne_nil fun hnil => ?_
    exact FieldPath.splitDots_ne_nil _ (List.map_eq_nil_iff.mp hnil)
  rw [FieldPath.top_of_segments hsegments]
  unfold path?
  rw [hsegments]
  exact along?_restrict d names k ks

/-- Of a document, another one keeps what is named.  A path leads where it led
exactly if it led nowhere or starts in a field that is named; so a name without
dots does, and a path that starts elsewhere leads nowhere. -/
structure Keeps (names : List String) (d d' : Document) : Prop where
  same_iff : ∀ path,
    d'.path? path = d.path? path ↔ d.path? path = none ∨ FieldPath.top path ∈ names
  plain : ∀ name ∈ names, '.' ∉ name.toList → d'.path? name = d.path? name
  gone : ∀ path, FieldPath.top path ∉ names → d'.path? path = none

/-- **A restricted document keeps what is named.** -/
theorem keeps_restrict (names : List String) (d : Document) : Keeps names d (d.restrict names) := by
  have hsame : ∀ path, (d.restrict names).path? path = d.path? path
      ↔ d.path? path = none ∨ FieldPath.top path ∈ names := by
    intro path
    rw [path?_restrict]
    by_cases htop : FieldPath.top path ∈ names
    · rw [if_pos htop]
      exact iff_of_true rfl (.inr htop)
    · rw [if_neg htop, eq_comm, or_iff_left htop]
  refine ⟨hsame, fun name hname hdots => ?_, fun path htop => ?_⟩
  · refine (hsame name).mpr (.inr ?_)
    rwa [FieldPath.top_of_not_mem hdots]
  · rw [path?_restrict, if_neg htop]

end Document

/-! ## §2. Answers. -/

namespace DocumentStore

section Finding

variable [Pattern.Engine] [Sorter]

/-- **A projection changes the answers**, and not which documents are
answers. -/
theorem find_select (s : DocumentStore) (name : String) {q : Query} (h : q.projection ≠ []) :
    s.find name (FindRequest.ofQuery q)
      = (s.find name (FindRequest.ofQuery (q.select []))).map
          (Except.map (List.map (·.restrict q.projection))) := by
  have hshape : q.shape = (·.restrict q.projection) := by
    funext d
    exact if_neg (by simpa using h)
  -- the filter, the sort keys and the window are those of the query without fields
  have hfilter : (FindRequest.ofQuery (q.select [])).filter = (FindRequest.ofQuery q).filter := rfl
  have hwhole : ∀ found, arrange (FindRequest.ofQuery (q.select [])) found
      = (Document.sortBy (FindRequest.sortDocument q.sort) found).map q.window := by
    intro found
    rw [arrange_ofQuery]
    exact congrArg (Option.map · _) (funext fun docs => List.map_id' _)
  unfold find
  rw [hfilter]
  cases s.matching name (FindRequest.ofQuery q).filter with
  | error e => rfl
  | ok found =>
    simp only [hwhole, arrange_ofQuery, hshape, Option.map_map]
    rfl

/-- **PROJECTED ANSWERS.**  Let a query make sense and want some fields only.
Then it is answered as the same query is that wants whole documents: the
sorter panics for both, or both fail alike, or the answers are one by one what
the projection keeps of the others. -/
theorem find_projected (s : DocumentStore) (name : String) {q : Query}
    (hq : q.validate = .ok ()) (hprojection : q.projection ≠ []) :
    ∃ r whole, FindRequest.translate q = .ok r
      ∧ FindRequest.translate (q.select []) = .ok whole
      ∧ (s.find name whole = none ∧ s.find name r = none
        ∨ (∃ e, s.find name whole = some (.error e) ∧ s.find name r = some (.error e))
        ∨ ∃ selected found, s.find name whole = some (.ok selected)
          ∧ s.find name r = some (.ok found)
          ∧ List.Forall₂ (Document.Keeps q.projection) selected found) := by
  have hwhole : (q.select []).validate = .ok () := by
    obtain ⟨-, hrest⟩ := (Query.validate_ok_iff q).mp hq
    exact (Query.validate_ok_iff _).mpr ⟨List.forall_mem_nil _, hrest⟩
  refine ⟨_, _, FindRequest.translate_ok_iff.mpr ⟨hq, rfl⟩,
    FindRequest.translate_ok_iff.mpr ⟨hwhole, rfl⟩, ?_⟩
  -- both queries read the same documents, and what goes wrong goes wrong there
  rw [s.find_select name hprojection]
  cases s.find name (FindRequest.ofQuery (q.select [])) with
  | none => exact .inl ⟨rfl, rfl⟩
  | some result =>
    cases result with
    | error e => exact .inr (.inl ⟨e, rfl, rfl⟩)
    | ok selected =>
      refine .inr (.inr ⟨selected, _, rfl, rfl, ?_⟩)
      rw [List.forall₂_map_right_iff, List.forall₂_same]
      exact fun d _ => Document.keeps_restrict q.projection d

end Finding

/-- People and where they live. -/
def addressStore : DocumentStore :=
  ⟨[("people", [
    [("name", .string "Ada"), ("address", .document [("city", .string "Turin")])],
    [("name", .string "Bo"), ("age", .int32 40)],
    [("name", .string "Cy"), ("address", .string "unknown"), ("age", .int32 30)]])], false⟩

/-- Names, cities and ages; the oldest person comes first. -/
def addressQuery : Query :=
  (Query.empty.select ["name", "address.city", "age"]).sortBy ["-age"]

open DataAccess.Sample in
/-- Names with dots may be projected, and the answers keep the other ones. -/
theorem find_projected_addresses :
    addressQuery.validate = .ok () ∧ addressQuery.projection ≠ []
      ∧ ∃ r whole, FindRequest.translate addressQuery = .ok r
        ∧ FindRequest.translate (addressQuery.select []) = .ok whole
        ∧ (addressStore.find "people" whole = none ∧ addressStore.find "people" r = none
          ∨ (∃ e, addressStore.find "people" whole = some (.error e)
            ∧ addressStore.find "people" r = some (.error e))
          ∨ ∃ selected found, addressStore.find "people" whole = some (.ok selected)
            ∧ addressStore.find "people" r = some (.ok found)
            ∧ List.Forall₂ (Document.Keeps ["name", "address.city", "age"]) selected found) := by
  have hq : addressQuery.validate = .ok () := by decide
  have hprojection : addressQuery.projection ≠ [] := by decide
  exact ⟨hq, hprojection, find_projected addressStore "people" hq hprojection⟩

open DataAccess.Sample in
/-- **A path that is projected is lost**: a document is found by the city in it,
and has no city when the city is projected. -/
theorem find_projected_loses_city :
    ∃ r whole d d',
      FindRequest.translate ((Query.empty.filter "address.city" (.equals (.text "Turin"))).select
          ["address.city"]) = .ok r
        ∧ FindRequest.translate (Query.empty.filter "address.city" (.equals (.text "Turin")))
          = .ok whole
        ∧ addressStore.find "people" whole = some (.ok [d])
        ∧ addressStore.find "people" r = some (.ok [d'])
        ∧ d.path? "address.city" = some (.string "Turin") ∧ d'.path? "address.city" = none :=
  ⟨_, _, _, _, rfl, rfl, rfl, rfl, rfl, rfl⟩

end DocumentStore

end DataAccess
