/-
  DataAccess.Proofs.SearchIndex.Clauses — which of its clauses a search heeds.

  What stands under "query" is an object, so it may name several clauses, and a
  clause may name several fields.  A reader of such a query expects of a hit that
  it satisfies every clause in every field, or else a complaint.  The index
  looks at the first field of the first clause and at nothing else:

      a query that names one condition gets what satisfies it, and nothing
      is said about the other conditions of a query that names more.

  Main statements:
    * `satisfies_words_iff`, `satisfies_term_iff` — what it takes to satisfy a clause;
    * `holds_iff_satisfies`       — one condition is all that is demanded;
    * `search_satisfies_clauses`  — what is known of the answer to any query;
    * `search_drops_clause`       — a clause and a field that are not heeded.
-/
import DataAccess.Proofs.SearchIndex.Hits

namespace DataAccess

/-! ## §1. Clauses. -/

namespace Json

/-- The clauses that a query names, none without "query". -/
def searchClauses (query : Json) : List (String × Json) :=
  match query.member? "query" with
  | some (.object clauses) => clauses
  | _ => []

/-- A document satisfies a clause in every field that the clause names.  No
document satisfies a clause of another kind or of another shape. -/
inductive Satisfies (doc : Json) : String × Json → Prop where
  | everything (body : Json) : Satisfies doc ("match_all", body)
  | words {fields : List (String × Json)}
      (each : ∀ f ∈ fields, ∃ text, f.2 = .string text ∧ (SearchDemand.words f.1 text).Holds doc) :
      Satisfies doc ("match", .object fields)
  | term {fields : List (String × Json)}
      (each : ∀ f ∈ fields, (SearchDemand.term f.1 f.2).Holds doc) :
      Satisfies doc ("term", .object fields)

/-- A query that names one condition at most: it has no second clause, and its
clause has no second field, unless that asks for everything anyway. -/
structure AsksOnce (query : Json) : Prop where
  clauses : query.searchClauses.length ≤ 1
  fields : ∀ c ∈ query.searchClauses, c.1 ≠ "match_all" →
    ∀ fields, c.2 = .object fields → fields.length ≤ 1

variable {query doc : Json}

theorem satisfies_words_iff {fields : List (String × Json)} :
    doc.Satisfies ("match", .object fields)
      ↔ ∀ f ∈ fields, ∃ text, f.2 = .string text ∧ (SearchDemand.words f.1 text).Holds doc := by
  refine ⟨fun h => ?_, .words⟩
  generalize hc : ("match", Json.object fields) = c at h
  cases h with
  | everything => exact absurd (Prod.mk.inj hc).1 (by decide)
  | words each =>
    cases (Prod.mk.inj hc).2
    exact each
  | term => exact absurd (Prod.mk.inj hc).1 (by decide)

theorem satisfies_term_iff {fields : List (String × Json)} :
    doc.Satisfies ("term", .object fields)
      ↔ ∀ f ∈ fields, (SearchDemand.term f.1 f.2).Holds doc := by
  refine ⟨fun h => ?_, .term⟩
  generalize hc : ("term", Json.object fields) = c at h
  cases h with
  | everything => exact absurd (Prod.mk.inj hc).1 (by decide)
  | words => exact absurd (Prod.mk.inj hc).1 (by decide)
  | term each =>
    cases (Prod.mk.inj hc).2
    exact each

theorem searchClauses_of_none (h : query.member? "query" = none) : query.searchClauses = [] := by
  unfold searchClauses
  rw [h]

theorem searchClauses_of_object {clauses : List (String × Json)}
    (h : query.member? "query" = some (.object clauses)) : query.searchClauses = clauses := by
  unfold searchClauses
  rw [h]

/-- The only clause of a query that has one, and no second. -/
theorem AsksOnce.searchClauses_eq (h : query.AsksOnce) {c : String × Json}
    {rest : List (String × Json)} (hquery : query.member? "query" = some (.object (c :: rest))) :
    query.searchClauses = [c] := by
  have hclauses := searchClauses_of_object hquery
  have hlen := h.clauses
  rw [hclauses, List.length_cons] at hlen
  have hrest : rest = [] := List.length_eq_zero_iff.mp (by omega)
  rw [hclauses, hrest]

/-- The only field of a clause that has one, and no second. -/
theorem AsksOnce.more_eq_nil (h : query.AsksOnce) {kind : String} {f : String × Json}
    {more rest : List (String × Json)} (hkind : kind ≠ "match_all")
    (hquery : query.member? "query" = some (.object ((kind, .object (f :: more)) :: rest))) :
    more = [] := by
  have hnamed : (kind, .object (f :: more)) ∈ query.searchClauses := by
    rw [h.searchClauses_eq hquery]
    exact List.mem_singleton.mpr rfl
  have hlen := h.fields _ hnamed hkind _ rfl
  rw [List.length_cons] at hlen
  exact List.length_eq_zero_iff.mp (by omega)

end Json

/-- **Of a query that names one condition, the demand is all there is**: a
document is as demanded if it satisfies every clause. -/
theorem SearchDemand.holds_iff_satisfies {query doc : Json} {w : SearchDemand}
    (hw : query.Demands w) (h : query.AsksOnce) :
    w.Holds doc ↔ ∀ c ∈ query.searchClauses, doc.Satisfies c := by
  cases hw with
  | plain hquery =>
    rw [Json.searchClauses_of_none hquery]
    exact iff_of_true trivial (List.forall_mem_nil _)
  | everything hquery =>
    rw [h.searchClauses_eq hquery, List.forall_mem_singleton]
    exact iff_of_true trivial (.everything _)
  | words hquery =>
    obtain rfl := h.more_eq_nil (by decide) hquery
    rw [h.searchClauses_eq hquery]
    simp [Json.satisfies_words_iff]
  | term hquery =>
    obtain rfl := h.more_eq_nil (by decide) hquery
    rw [h.searchClauses_eq hquery]
    simp [Json.satisfies_term_iff]

/-! ## §2. Searches. -/

namespace SearchIndex

/-- **What a search finds**: documents of the index that are as demanded, and
all of them if no number of hits is asked for. -/
theorem search_of_demands {query : Json} {w : SearchDemand} (hw : query.Demands w)
    (s : SearchIndex) (index : String) :
    ∃ found, s.search index query = .ok found
      ∧ (∀ doc ∈ found, doc ∈ Assoc.values (s.documents index) ∧ w.Holds doc)
      ∧ (searchSize? query = none → ∀ doc ∈ Assoc.values (s.documents index),
        w.Holds doc → doc ∈ found) := by
  have hvalues : (Assoc.values (s.documents index)).filter w.clause.hits
      = Assoc.values ((s.documents index).filter fun e => w.clause.hits e.2) := List.filter_map
  have hhits : ∀ doc, doc ∈ (Assoc.values (s.documents index)).filter w.clause.hits
      ↔ doc ∈ Assoc.values (s.documents index) ∧ w.Holds doc := by
    intro doc
    rw [List.mem_filter, SearchDemand.hits_clause_iff]
  have hsearch := search_of_ok (SearchClause.read_of_demands hw) s index
  rw [← hvalues] at hsearch
  cases hsize : searchSize? query with
  | none =>
    rw [hsize] at hsearch
    exact ⟨_, hsearch, fun doc hdoc => (hhits doc).mp hdoc,
      fun _ doc hdoc hholds => (hhits doc).mpr ⟨hdoc, hholds⟩⟩
  | some n =>
    rw [hsize] at hsearch
    exact ⟨_, hsearch, fun doc hdoc => (hhits doc).mp (List.mem_of_mem_take hdoc), nofun⟩

/-- **A SEARCH HEEDS THE ONE CONDITION OF ITS QUERY.**  Take any index and any
query.  The query is refused as one that is not understood, or else:

  * what is found is as the first field of the first clause demands, whatever
    else the query names;
  * if the query names no second clause and no second field, then a document
    that is found satisfies every clause in every field, and if no number of
    hits is asked for, every document of the index that does is found. -/
theorem search_satisfies_clauses (s : SearchIndex) (index : String) (query : Json) :
    (∃ asked, query.member? "query" = some asked
        ∧ s.search index query = .error (.unsupportedQuery asked.render))
      ∨ ∃ w found, query.Demands w ∧ s.search index query = .ok found
        ∧ (∀ doc ∈ found, doc ∈ Assoc.values (s.documents index) ∧ w.Holds doc)
        ∧ (query.AsksOnce →
          (∀ doc ∈ found, ∀ c ∈ query.searchClauses, doc.Satisfies c)
            ∧ (searchSize? query = none → ∀ doc ∈ Assoc.values (s.documents index),
              (∀ c ∈ query.searchClauses, doc.Satisfies c) → doc ∈ found)) := by
  by_cases hdemands : ∃ w, query.Demands w
  · obtain ⟨w, hw⟩ := hdemands
    obtain ⟨found, hsearch, hfound, hall⟩ := search_of_demands hw s index
    refine .inr ⟨w, found, hw, hsearch, hfound, fun honce => ⟨fun doc hdoc => ?_, ?_⟩⟩
    · exact (SearchDemand.holds_iff_satisfies hw honce).mp (hfound doc hdoc).2
    · intro hsize doc hdoc hsatisfies
      exact hall hsize doc hdoc ((SearchDemand.holds_iff_satisfies hw honce).mpr hsatisfies)
  · obtain ⟨asked, hasked, hread⟩ := SearchClause.read_of_no_demand (not_exists.mp hdemands)
    exact .inl ⟨asked, hasked, search_of_error hread s index⟩

/-- A post in English on Rust. -/
def englishPost : Json := .object [("title", .string "Intro to Rust"), ("lang", .string "en")]

/-- An index with that post. -/
def englishPosts : SearchIndex := ⟨[("posts", [("1", englishPost)])]⟩

/-- The search for a word in titles names one condition, which the post
satisfies. -/
theorem search_satisfies_clauses_rustTitles :
    rustTitles.AsksOnce
      ∧ ∃ found, englishPosts.search "posts" rustTitles = .ok found ∧ englishPost ∈ found
        ∧ ∀ doc ∈ found, doc.Satisfies ("match", .object [("title", .string "rust")]) := by
  have honce : rustTitles.AsksOnce := ⟨by decide, fun c hc _ fields hfields => by
    cases List.mem_singleton.mp hc
    cases hfields
    decide⟩
  rcases search_satisfies_clauses englishPosts "posts" rustTitles with
    ⟨asked, -, herror⟩ | ⟨w, found, -, hsearch, -, hone⟩
  · cases herror
  obtain ⟨hfound, hall⟩ := hone honce
  refine ⟨honce, found, hsearch, ?_, fun doc hdoc => hfound doc hdoc _ (List.mem_singleton.mpr rfl)⟩
  refine hall rfl englishPost (List.mem_singleton.mpr rfl) (List.forall_mem_singleton.mpr ?_)
  have hword : Text.IsWordOf "rust" "rust" := Text.mem_words_iff.mp (by decide)
  have hwithin : (Text.lowercase "Intro to Rust").toList
      = "intro to ".toList ++ (Text.lowercase "rust").toList ++ [] := by decide
  exact .words (List.forall_mem_singleton.mpr
    ⟨"rust", rfl, "Intro to Rust", "rust", rfl, hword, _, _, hwithin⟩)

/-- A search for posts on Rust in Italian, as two clauses. -/
def italianByClauses : Json :=
  .object [("query", .object [("match", .object [("title", .string "rust")]),
    ("term", .object [("lang", .string "it")])])]

/-- A search for posts that name Rust and Italian in two fields. -/
def italianByFields : Json :=
  .object [("query", .object [("match", .object [("title", .string "rust"),
    ("lang", .string "it")])])]

/-- Both searches find a post in English: the second clause of the one and the
second field of the other are not heeded. -/
theorem search_drops_clause :
    englishPosts.search "posts" italianByClauses = .ok [englishPost]
      ∧ ("term", .object [("lang", .string "it")]) ∈ italianByClauses.searchClauses
      ∧ ¬ englishPost.Satisfies ("term", .object [("lang", .string "it")])
      ∧ englishPosts.search "posts" italianByFields = .ok [englishPost]
      ∧ italianByFields.searchClauses
        = [("match", .object [("title", .string "rust"), ("lang", .string "it")])]
      ∧ ¬ englishPost.Satisfies
        ("match", .object [("title", .string "rust"), ("lang", .string "it")]) := by
  have hclauses : italianByClauses.searchClauses
      = [("match", .object [("title", .string "rust")]),
        ("term", .object [("lang", .string "it")])] := rfl
  refine ⟨rfl, by simp [hclauses], fun h => ?_, rfl, rfl, fun h => ?_⟩
  · have hterm := Json.satisfies_term_iff.mp h ("lang", .string "it") (by simp)
    exact absurd (SearchDemand.hits_clause_iff.mpr hterm) (by decide)
  · obtain ⟨text, htext, hwords⟩ := Json.satisfies_words_iff.mp h ("lang", .string "it") (by simp)
    cases htext
    exact absurd (SearchDemand.hits_clause_iff.mpr hwords) (by decide)

end SearchIndex

end DataAccess
