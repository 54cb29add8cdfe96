/-
  DataAccess.Proofs.SearchIndex.Hits — a search finds the latest documents
  that are as asked.

  An index lists documents under ids, and two things have to be told apart from
  the lists: which document is the latest one under an id, and what a query
  asks of a document.  The first is read off the calls that were made,

      the last call about the id, if that put a document there,

  and the second is said without the lower-case words that the index makes of
  a query.

  Main statements:
    * `hits_clause_iff`      — what is made of a demand hits what is asked for;
    * `read_of_demands`, `read_of_no_demand` — what is made of a query;
    * `documents_call`       — a call changes the documents of its own index;
    * `find?_change`         — what it leaves under an id;
    * `sound_run`            — an index lists the latest documents, in order;
    * `run_finds_latest`     — what a search answers after any calls.
-/
import Mathlib.Data.List.Induction
import DataAccess.SearchIndex
import DataAccess.Proofs.Text.BytesAndWords

namespace DataAccess

/-! ## §1. Queries. -/

/-- What a query asks for, in its own words. -/
inductive SearchDemand where
  | everything
  /-- A text that has a word of another one within it, in either case. -/
  | words (field text : String)
  /-- Exactly this value. -/
  | term (field : String) (value : Json)

namespace SearchDemand

/-- A document is as asked. -/
def Holds (doc : Json) : SearchDemand → Prop
  | everything => True
  | words field text =>
      ∃ found word, doc.member? field = some (.string found) ∧ Text.IsWordOf word text
        ∧ ∃ first last, (Text.lowercase found).toList
          = first ++ (Text.lowercase word).toList ++ last
  | term field value => ∃ found, doc.member? field = some found ∧ found.same value = true

/-- What an index makes of a demand: its words are split and put in lower case
once for all documents. -/
def clause : SearchDemand → SearchClause
  | everything => .all
  | words field text => .words field (SearchClause.wordsOf text)
  | term field value => .term field value

/-- **Documents are hit by what is made of a demand** if they are as asked. -/
theorem hits_clause_iff {w : SearchDemand} {doc : Json} :
    w.clause.hits doc = true ↔ w.Holds doc := by
  cases w with
  | everything => exact iff_of_true rfl trivial
  | words field text =>
    unfold clause Holds
    rw [SearchClause.hits_words_iff]
    unfold SearchClause.wordsOf
    constructor
    · intro h
      obtain ⟨found, hfield, w, hw, hwithin⟩ := h
      obtain ⟨word, hword, rfl⟩ := List.mem_map.mp hw
      exact ⟨found, word, hfield, Text.mem_words_iff.mp hword, hwithin⟩
    · intro h
      obtain ⟨found, word, hfield, hword, hwithin⟩ := h
      exact ⟨found, hfield, _, List.mem_map_of_mem (Text.mem_words_iff.mpr hword), hwithin⟩
  | term field value =>
    simp only [clause, SearchClause.hits, Holds]
    cases doc.member? field <;> simp

end SearchDemand

/-- A query that is understood: one that names no condition, or whose first
condition is one of three and is given as it has to be. -/
inductive Json.Demands (query : Json) : SearchDemand → Prop where
  | plain (h : query.member? "query" = none) : Demands query .everything
  | everything {body : Json} {rest : List (String × Json)}
      (h : query.member? "query" = some (.object (("match_all", body) :: rest))) :
      Demands query .everything
  | words {field text : String} {more rest : List (String × Json)}
      (h : query.member? "query"
        = some (.object (("match", .object ((field, .string text) :: more)) :: rest))) :
      Demands query (.words field text)
  | term {field : String} {value : Json} {more rest : List (String × Json)}
      (h : query.member? "query"
        = some (.object (("term", .object ((field, value) :: more)) :: rest))) :
      Demands query (.term field value)

namespace SearchClause

theorem read_of_demands {query : Json} {w : SearchDemand} (h : query.Demands w) :
    read query = .ok w.clause := by
  unfold read
  cases h with
  | plain h => rw [h]; rfl
  | everything h => rw [h]; rfl
  | words h => rw [h]; rfl
  | term h => rw [h]; rfl

theorem firstMember?_eq_some_iff {j : Json} {m : String × Json} :
    firstMember? j = some m ↔ ∃ rest, j = .object (m :: rest) := by
  constructor
  · intro h
    unfold firstMember? at h
    split at h
    · cases h
      exact ⟨_, rfl⟩
    · cases h
  · intro h
    obtain ⟨rest, rfl⟩ := h
    rfl

/-- A clause is made only of a query that is understood. -/
theorem demands_of_ofJson? {query inner : Json} {clause : SearchClause}
    (hquery : query.member? "query" = some inner) (h : ofJson? inner = some clause) :
    ∃ w, query.Demands w := by
  unfold ofJson? at h
  obtain ⟨⟨kind, body⟩, hfirst, hkind⟩ := Option.bind_eq_some_iff.mp h
  obtain ⟨rest, rfl⟩ := firstMember?_eq_some_iff.mp hfirst
  dsimp only at hkind
  split at hkind
  · exact ⟨_, .everything hquery⟩
  · obtain ⟨⟨field, text⟩, hbody, htext⟩ := Option.bind_eq_some_iff.mp hkind
    obtain ⟨more, rfl⟩ := firstMember?_eq_some_iff.mp hbody
    -- words are looked for in a text only
    cases text with
    | string text => exact ⟨_, .words hquery⟩
    | _ => cases htext
  · obtain ⟨⟨field, value⟩, hbody, -⟩ := Option.bind_eq_some_iff.mp hkind
    obtain ⟨more, rfl⟩ := firstMember?_eq_some_iff.mp hbody
    exact ⟨_, .term hquery⟩
  · cases hkind

/-- **Any other query is refused**, with what it asks in the complaint. -/
theorem read_of_no_demand {query : Json} (h : ∀ w, ¬ query.Demands w) :
    ∃ asked, query.member? "query" = some asked
      ∧ read query = .error (.unsupportedQuery asked.render) := by
  unfold read
  cases hquery : query.member? "query" with
  | none => exact absurd (.plain hquery) (h .everything)
  | some asked =>
    refine ⟨asked, rfl, ?_⟩
    cases hclause : ofJson? asked with
    | none => simp only [hclause]
    | some clause =>
      obtain ⟨w, hw⟩ := demands_of_ofJson? hquery hclause
      exact absurd hw (h w)

end SearchClause

/-! ## §2. Lists in order. -/

namespace SearchIndex

/-- Ids stand in the order of their bytes, each once. -/
def Ascending (docs : Assoc String Json) : Prop :=
  (Assoc.keys docs).Pairwise fun a b => Text.bytes a < Text.bytes b

variable {docs : Assoc String Json}

theorem Ascending.nodup (h : Ascending docs) : (Assoc.keys docs).Nodup := by
  refine List.Pairwise.imp (fun {a b} hlt heq => ?_) h
  exact List.lt_irrefl (Text.bytes b) (heq ▸ hlt)

theorem Ascending.insertSorted (h : Ascending docs) (id : String) (doc : Json) :
    Ascending (Assoc.insertSorted idBefore docs id doc) := by
  have hbefore : ∀ a b, idBefore a b = true ↔ Text.bytes a < Text.bytes b := by
    intro a b
    rw [idBefore, beq_iff_eq, Text.orderText_eq_lt_iff]
  exact Assoc.pairwise_insertSorted (R := fun a b => Text.bytes a < Text.bytes b) hbefore
    List.lt_trans Text.bytes_lt_of_not_lt h id doc

theorem Ascending.sublist {found : Assoc String Json} (h : Ascending docs)
    (hsub : found.Sublist docs) : Ascending found :=
  List.Pairwise.sublist (hsub.map _) h

end SearchIndex

/-! ## §3. Calls. -/

/-- A call on a search index. -/
inductive SearchCall where
  | insert (index id : String) (doc : Json)
  | delete (index id : String)
  | search (index : String) (query : Json)

/-- What a call on a search index answers. -/
inductive SearchAnswer where
  | done
  | found (docs : List Json)
  | refused (e : StoreError)

namespace SearchCall

/-- The index that a call is about. -/
def index : SearchCall → String
  | insert index _ _ => index
  | delete index _ => index
  | search index _ => index

/-- The call is to put a document under an id, or to take one out. -/
def Touches (x : SearchCall) (index id : String) : Prop :=
  (∃ doc, x = insert index id doc) ∨ x = delete index id

/-- What a call makes of the documents of its index. -/
def change (x : SearchCall) (docs : Assoc String Json) : Assoc String Json :=
  match x with
  | insert _ id doc => if id = "" then docs else Assoc.insertSorted SearchIndex.idBefore docs id doc
  | delete _ id => Assoc.erase docs id
  | search _ _ => docs

end SearchCall

namespace SearchIndex

/-- Makes one call.  The index changes only if it succeeds. -/
def call (s : SearchIndex) : SearchCall → SearchAnswer × SearchIndex
  | .insert index id doc =>
      match s.insert index id doc with
      | .ok t => (.done, t)
      | .error e => (.refused e, s)
  | .delete index id => (.done, s.delete index id)
  | .search index query =>
      match s.search index query with
      | .ok docs => (.found docs, s)
      | .error e => (.refused e, s)

/-- The index after some calls on an empty one. -/
def run (calls : List SearchCall) : SearchIndex := calls.foldl (fun s x => (s.call x).2) empty

theorem run_concat (calls : List SearchCall) (x : SearchCall) :
    run (calls ++ [x]) = ((run calls).call x).2 := by
  unfold run
  rw [List.foldl_append]
  rfl

/-- The empty id is refused. -/
theorem call_insert_empty (s : SearchIndex) (index : String) (doc : Json) :
    s.call (.insert index "" doc) = (.refused (.invalidKey ""), s) := rfl

theorem documents_insert (s : SearchIndex) (index other : String) (docs : Assoc String Json) :
    documents ⟨Assoc.insert s.indices index docs⟩ other
      = if index = other then docs else s.documents other := by
  unfold documents
  rw [Assoc.find?_insert]
  split <;> rfl

theorem call_insert_of_ne {id : String} (h : id ≠ "") (s : SearchIndex) (index : String)
    (doc : Json) :
    s.call (.insert index id doc) = (.done, ⟨Assoc.insert s.indices index
      (Assoc.insertSorted idBefore (s.documents index) id doc)⟩) := by
  simp only [SearchIndex.call, SearchIndex.insert, checkKey_ok_iff.mpr h, ok_bind, pure_eq_ok]

theorem call_search (s : SearchIndex) (index : String) (query : Json) :
    (s.call (.search index query)).2 = s := by
  unfold SearchIndex.call
  dsimp only
  split <;> rfl

/-- **A call changes the documents of its index, and no others.** -/
theorem documents_call (s : SearchIndex) (x : SearchCall) (index : String) :
    (s.call x).2.documents index
      = if x.index = index then x.change (s.documents index) else s.documents index := by
  cases x with
  | insert i id doc =>
    show _ = if i = index then _ else _
    by_cases hid : id = ""
    · -- the empty id is refused
      subst hid
      rw [call_insert_empty]
      exact (ite_self _).symm
    · rw [call_insert_of_ne hid, documents_insert, SearchCall.change, if_neg hid]
      by_cases hi : i = index
      · rw [if_pos hi, if_pos hi, hi]
      · rw [if_neg hi, if_neg hi]
  | delete i id =>
    show (s.delete i id).documents index
      = if i = index then Assoc.erase (s.documents index) id else s.documents index
    unfold SearchIndex.delete
    cases hfind : Assoc.find? s.indices i with
    | some docs =>
      refine (documents_insert s i index _).trans ?_
      by_cases hi : i = index
      · subst hi
        rw [if_pos rfl, if_pos rfl, documents, hfind]
        rfl
      · rw [if_neg hi, if_neg hi]
    | none =>
      by_cases hi : i = index
      · subst hi
        rw [if_pos rfl, documents, hfind]
        rfl
      · rw [if_neg hi]
  | search i query =>
    rw [call_search]
    exact (ite_self _).symm

end SearchIndex

/-! ## §4. Runs. -/

namespace SearchIndex

/-- The latest version of a document: the last call about its id put it there.
Nothing is ever put under the empty id. -/
def IsLatest (calls : List SearchCall) (index id : String) (doc : Json) : Prop :=
  id ≠ "" ∧ ∃ before after, calls = before ++ .insert index id doc :: after
    ∧ ∀ x ∈ after, ¬ x.Touches index id

theorem isLatest_concat_iff {calls : List SearchCall} {x : SearchCall} {index id : String}
    {doc : Json} :
    IsLatest (calls ++ [x]) index id doc
      ↔ id ≠ "" ∧ x = .insert index id doc
        ∨ ¬ x.Touches index id ∧ IsLatest calls index id doc := by
  constructor
  · intro h
    obtain ⟨hid, before, after, heq, hafter⟩ := h
    -- the call that puts the document there is the last one, or the last one
    -- comes after it
    rcases concat_eq_split_iff.mp heq with ⟨-, hx, -⟩ | ⟨rest, rfl, hrest⟩
    · exact .inl ⟨hid, hx⟩
    · obtain ⟨hothers, hx⟩ := List.forall_mem_append.mp hafter
      exact .inr ⟨hx x (List.mem_singleton_self x), hid, before, rest, hrest, hothers⟩
  · intro h
    rcases h with ⟨hid, rfl⟩ | ⟨hx, hid, before, after, rfl, hafter⟩
    · exact ⟨hid, calls, [], rfl, List.forall_mem_nil _⟩
    · refine ⟨hid, before, after ++ [x], concat_eq_split_iff.mpr (.inr ⟨after, rfl, rfl⟩), ?_⟩
      exact List.forall_mem_append.mpr ⟨hafter, List.forall_mem_singleton.mpr hx⟩

/-- An index lists the latest documents, in order. -/
structure Sound (s : SearchIndex) (calls : List SearchCall) : Prop where
  ascending : ∀ index, Ascending (s.documents index)
  latest : ∀ index id doc,
    Assoc.find? (s.documents index) id = some doc ↔ IsLatest calls index id doc

/-- What a call makes of documents is in order. -/
theorem Ascending.change {docs : Assoc String Json} (h : Ascending docs) (x : SearchCall) :
    Ascending (x.change docs) := by
  cases x with
  | insert _ id doc =>
    unfold SearchCall.change
    dsimp only
    split
    · exact h
    · exact h.insertSorted id doc
  | delete _ id =>
    show Ascending (Assoc.erase docs id)
    rw [Assoc.erase_eq_filter]
    exact h.sublist List.filter_sublist
  | search _ _ => exact h

/-- What a call leaves under an id. -/
theorem find?_change {x : SearchCall} {index : String} (hindex : x.index = index)
    {docs : Assoc String Json} (hempty : Assoc.find? docs "" = none) (id : String) (doc : Json) :
    Assoc.find? (x.change docs) id = some doc
      ↔ id ≠ "" ∧ x = .insert index id doc
        ∨ ¬ x.Touches index id ∧ Assoc.find? docs id = some doc := by
  subst hindex
  unfold SearchCall.Touches
  cases x with
  | insert index k d =>
    simp only [SearchCall.change, SearchCall.index]
    by_cases hk : k = id
    · subst hk
      by_cases hne : k = ""
      · subst hne
        rw [if_pos rfl, hempty]
        simp
      · rw [if_neg hne, Assoc.find?_insertSorted, if_pos rfl]
        simp [hne]
    · -- nothing is said of any other id
      split
      · simp [hk]
      · rw [Assoc.find?_insertSorted, if_neg hk]
        simp [hk]
  | delete index k =>
    simp only [SearchCall.change, SearchCall.index]
    rw [Assoc.find?_erase]
    by_cases hk : k = id
    · simp [hk]
    · simp [hk]
  | search index query => simp [SearchCall.change]

/-- **Every call keeps an index sound.** -/
theorem Sound.call {s : SearchIndex} {calls : List SearchCall} (h : s.Sound calls)
    (x : SearchCall) : (s.call x).2.Sound (calls ++ [x]) where
  ascending := by
    intro index
    rw [documents_call]
    split
    · exact (h.ascending index).change x
    · exact h.ascending index
  latest := by
    intro index id doc
    rw [documents_call, isLatest_concat_iff, ← h.latest]
    by_cases hindex : x.index = index
    · have hempty : Assoc.find? (s.documents index) "" = none :=
        Option.eq_none_iff_forall_ne_some.mpr fun d hd => ((h.latest index "" d).mp hd).1 rfl
      rw [if_pos hindex, find?_change hindex hempty]
    · -- a call about another index neither puts the document nor touches its id
      have hput : x ≠ .insert index id doc := fun hx => hindex (hx ▸ rfl)
      have htouch : ¬ x.Touches index id := by
        intro hx
        rcases hx with ⟨_, rfl⟩ | rfl
        · exact hindex rfl
        · exact hindex rfl
      simp [hindex, hput, htouch]

theorem sound_run (calls : List SearchCall) : (run calls).Sound calls := by
  induction calls using List.reverseRecOn with
  | nil =>
    refine ⟨fun index => List.Pairwise.nil, fun index id doc => ?_⟩
    refine iff_of_false (fun h => nomatch h) fun h => ?_
    obtain ⟨-, before, after, heq, -⟩ := h
    exact absurd heq (by simp)
  | append_singleton calls x ih =>
    rw [run_concat]
    exact ih.call x

/-- What is found in an index is up to the calls about it. -/
theorem documents_run_filter (calls : List SearchCall) (index : String) :
    (run calls).documents index
      = (run (calls.filter fun x => x.index = index)).documents index := by
  induction calls using List.reverseRecOn with
  | nil => rfl
  | append_singleton calls x ih =>
    rw [run_concat, documents_call, List.filter_append]
    by_cases hx : x.index = index
    · rw [if_pos hx, List.filter_cons_of_pos (by simpa using hx), List.filter_nil, run_concat,
        documents_call, if_pos hx, ih]
    · rw [if_neg hx, List.filter_cons_of_neg (by simpa using hx), List.filter_nil,
        List.append_nil, ih]

theorem search_congr {s t : SearchIndex} {index : String}
    (h : s.documents index = t.documents index) (query : Json) :
    s.search index query = t.search index query := by
  unfold search
  rw [h]

theorem search_of_ok {query : Json} {clause : SearchClause}
    (h : SearchClause.read query = .ok clause) (s : SearchIndex) (index : String) :
    s.search index query
      = .ok ((searchSize? query).elim id List.take
        (Assoc.values ((s.documents index).filter fun e => clause.hits e.2))) := by
  unfold search
  rw [h]
  have hvalues : (Assoc.values (s.documents index)).filter clause.hits
      = Assoc.values ((s.documents index).filter fun e => clause.hits e.2) := List.filter_map
  simp only [ok_bind, pure_eq_ok, hvalues]
  cases searchSize? query <;> rfl

theorem search_of_error {query : Json} {e : StoreError} (h : SearchClause.read query = .error e)
    (s : SearchIndex) (index : String) : s.search index query = .error e := by
  unfold search
  rw [h]
  rfl

/-- A number of hits is asked for by an integer that is not negative. -/
theorem searchSize?_eq_some_iff {query : Json} {n : Nat} :
    searchSize? query = some n ↔ query.member? "size" = some (.number (.integer n)) := by
  unfold searchSize?
  constructor
  · intro h
    split at h
    · next m hm =>
      by_cases hle : 0 ≤ m
      · rw [if_pos hle] at h
        cases h
        rw [hm, Int.toNat_of_nonneg hle]
      · rw [if_neg hle] at h
        cases h
    · cases h
  · intro h
    rw [h]
    simp

/-- **A SEARCH FINDS THE LATEST DOCUMENTS THAT ARE AS ASKED.**  Make any calls
on an empty search index.

  * For a query that is understood there is a list of documents under ids in
    the order of their bytes, each once: the latest versions that are as the
    query asks.  The search answers with these documents, or with the first `n`
    of them if the query has the size `n`.
  * What a search in one index answers is up to the calls about that index.
  * A document under the empty id is refused, and nothing changes.
  * A query that is not understood is refused, whatever there is to be found. -/
theorem run_finds_latest (calls : List SearchCall) :
    (∀ index query w, query.Demands w → ∃ found : Assoc String Json,
        Ascending found
          ∧ (∀ id doc, (id, doc) ∈ found ↔ IsLatest calls index id doc ∧ w.Holds doc)
          ∧ (∀ n : Nat, query.member? "size" = some (.number (.integer n)) →
            (run calls).search index query = .ok ((Assoc.values found).take n))
          ∧ ((∀ n : Nat, query.member? "size" ≠ some (.number (.integer n))) →
            (run calls).search index query = .ok (Assoc.values found)))
      ∧ (∀ index query, (run calls).search index query
        = (run (calls.filter fun x => x.index = index)).search index query)
      ∧ (∀ index doc, (run calls).call (.insert index "" doc)
        = (.refused (.invalidKey ""), run calls))
      ∧ ∀ index query, (∀ w, ¬ query.Demands w) → ∃ asked, query.member? "query" = some asked
        ∧ ∀ s : SearchIndex, s.search index query = .error (.unsupportedQuery asked.render) := by
  have hsound := sound_run calls
  refine ⟨fun index query w hquery => ?_, fun index query => ?_, fun index doc => ?_,
    fun index query hquery => ?_⟩
  · have hsearch := search_of_ok (SearchClause.read_of_demands hquery) (run calls) index
    -- the documents that are hit, whatever size is asked for
    refine ⟨((run calls).documents index).filter fun e => w.clause.hits e.2, ?_, ?_, ?_, ?_⟩
    · exact (hsound.ascending index).sublist List.filter_sublist
    · intro id doc
      rw [List.mem_filter, SearchDemand.hits_clause_iff, ← hsound.latest,
        Assoc.find?_eq_some_iff (hsound.ascending index).nodup]
    · intro n hn
      rw [hsearch, searchSize?_eq_some_iff.mpr hn]
      rfl
    · intro hsize
      have hnone : searchSize? query = none :=
        Option.eq_none_iff_forall_ne_some.mpr fun n hn => hsize n (searchSize?_eq_some_iff.mp hn)
      rw [hsearch, hnone]
      rfl
  · exact search_congr (documents_run_filter calls index) query
  · exact call_insert_empty (run calls) index doc
  · obtain ⟨asked, hasked, hread⟩ := SearchClause.read_of_no_demand hquery
    exact ⟨asked, hasked, fun s => search_of_error hread s index⟩

/-- Three posts, the first of which is taken out again. -/
def posts : List SearchCall :=
  [.insert "posts" "1" (.object [("title", .string "Intro to Rust")]),
    .insert "posts" "2" (.object [("title", .string "Go concurrency")]),
    .insert "posts" "3" (.object [("title", .string "Rust async")]), .delete "posts" "1"]

/-- A search for a word in titles. -/
def rustTitles : Json :=
  .object [("query", .object [("match", .object [("title", .string "rust")])])]

/-- A search for a word finds the post that has it, and not the one that was
taken out. -/
theorem run_finds_latest_posts :
    rustTitles.Demands (.words "title" "rust")
      ∧ ∃ found, (run posts).search "posts" rustTitles = .ok (Assoc.values found)
        ∧ ("3", .object [("title", .string "Rust async")]) ∈ found
        ∧ ∀ doc, ("1", doc) ∉ found := by
  have hquery : rustTitles.Demands (.words "title" "rust") := .words rfl
  obtain ⟨hsearch, -⟩ := run_finds_latest posts
  obtain ⟨found, -, hfound, -, hall⟩ := hsearch "posts" rustTitles _ hquery
  have hsearch : (run posts).search "posts" rustTitles = .ok (Assoc.values found) :=
    hall fun n hn => nomatch hn
  refine ⟨hquery, found, hsearch, (hfound _ _).mpr ⟨?_, ?_⟩, fun doc hdoc => ?_⟩
  · refine ⟨by decide, posts.take 2, [.delete "posts" "1"], rfl, List.forall_mem_singleton.mpr ?_⟩
    intro h
    rcases h with ⟨doc, h⟩ | h
    · cases h
    · simp at h
  · have hword : Text.IsWordOf "rust" "rust" := Text.mem_words_iff.mp (by decide)
    exact ⟨"Rust async", "rust", rfl, hword, [], " async".toList, by decide⟩
  · have hlatest : IsLatest (posts.take 3 ++ [.delete "posts" "1"]) "posts" "1" doc :=
      ((hfound "1" doc).mp hdoc).1
    rcases isLatest_concat_iff.mp hlatest with ⟨-, hput⟩ | ⟨htouch, -⟩
    · cases hput
    · exact htouch (.inr rfl)

end SearchIndex

end DataAccess
