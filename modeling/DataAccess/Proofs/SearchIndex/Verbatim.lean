/-
  DataAccess.Proofs.SearchIndex.Verbatim — which documents a word finds that have
  it letter for letter.

  A search puts the words of its query in lower case one by one, and the text of
  a field as a whole.  So a document that has a word verbatim has its lower-case
  form within that of the text, unless a capital sigma gets another form between
  its neighbours in the text than it has in the word alone:

      "ΟΔΟΣ" is looked for as "οδος", and "ΟΔΟΣΗΜΑ" is looked at as "οδοσημα".

  Main statements:
    * `holds_of_verbatim`      — a word is found where no sigma of it turns;
    * `not_holds_of_hidden`    — a word is not found where its form is hidden;
    * `search_wordsQuery`      — what a search for words finds;
    * `search_finds_verbatim`  — which words find all documents that have them;
    * `search_misses_roadSign` — one that does not.
-/
import DataAccess.Proofs.SearchIndex.Clauses
import DataAccess.Proofs.Text.LowerCase

namespace DataAccess

/-! ## §1. Words in a field. -/

/-- A document has a word in a field, letter for letter, between two other texts. -/
def Json.HasVerbatim (doc : Json) (field : String) (before word after : List Char) : Prop :=
  ∃ content, doc.member? field = some (.string content)
    ∧ content.toList = before ++ word ++ after

/-- A document with a title. -/
def Json.titled (title : List Char) : Json := .object [("title", .string (String.ofList title))]

theorem Json.hasVerbatim_titled (before word after : List Char) :
    (titled (before ++ word ++ after)).HasVerbatim "title" before word after :=
  ⟨_, rfl, String.toList_ofList⟩

/-- A query for the words of a text in a field, without a size. -/
def wordsQuery (field text : String) : Json :=
  .object [("query", .object [("match", .object [(field, .string text)])])]

namespace SearchDemand

/-- **A word is found where it stands verbatim**, if none of its sigmas turns
there. -/
theorem holds_of_verbatim {doc : Json} {field text word : String} {before after : List Char}
    (hword : Text.IsWordOf word text) (hdoc : doc.HasVerbatim field before word.toList after)
    (hturns : ¬ Text.SigmaTurns before word.toList after) :
    (words field text).Holds doc := by
  obtain ⟨content, hfield, hcontent⟩ := hdoc
  obtain ⟨first, last, hwithin⟩ := Text.occurs_of_not_turns hturns
  refine ⟨content, word, hfield, hword, first, last, ?_⟩
  unfold Text.lowercase
  rw [String.toList_ofList, String.toList_ofList, hcontent]
  exact hwithin

/-- **A word is not found where its form is hidden.** -/
theorem not_holds_of_hidden {doc : Json} {field word : String} {before after : List Char}
    (hword : Text.IsWordOf word word) (hdoc : doc.HasVerbatim field before word.toList after)
    (hhidden : ¬ ∃ first last, Text.lowerFrom [] (before ++ word.toList ++ after)
      = first ++ Text.lowerFrom [] word.toList ++ last) :
    ¬ (words field word).Holds doc := by
  intro h
  obtain ⟨content, hfield, hcontent⟩ := hdoc
  obtain ⟨found, other, hfound, hother, first, last, hwithin⟩ := h
  -- a word has no other word than itself
  have hsame : other = word :=
    String.toList_inj.mp ((Text.isRun_iff_of_unbroken hword.unbroken).mp hother).1
  rw [hfield] at hfound
  cases hfound
  unfold Text.lowercase at hwithin
  rw [String.toList_ofList, String.toList_ofList, hcontent, hsame] at hwithin
  exact hhidden ⟨first, last, hwithin⟩

end SearchDemand

/-! ## §2. Searches. -/

namespace SearchIndex

/-- A search for the words of a text has an answer, and finds every document of
the index that has one of the words in the field letter for letter. -/
def FindsVerbatim (s : SearchIndex) (index field text : String) : Prop :=
  ∃ found, s.search index (wordsQuery field text) = .ok found
    ∧ ∀ doc ∈ Assoc.values (s.documents index), ∀ word before after,
      Text.IsWordOf word text → doc.HasVerbatim field before word.toList after → doc ∈ found

/-- A search for words finds the documents that are as demanded. -/
theorem search_wordsQuery (s : SearchIndex) (index field text : String) :
    ∃ found, s.search index (wordsQuery field text) = .ok found
      ∧ ∀ doc, doc ∈ found ↔ doc ∈ Assoc.values (s.documents index)
        ∧ (SearchDemand.words field text).Holds doc := by
  have hdemands : (wordsQuery field text).Demands (.words field text) := .words rfl
  obtain ⟨found, hsearch, hfound, hall⟩ := search_of_demands hdemands s index
  exact ⟨found, hsearch, fun doc => ⟨hfound doc, fun h => hall rfl doc h.1 h.2⟩⟩

/-- Words find the documents in which they stand and none of their sigmas turns. -/
theorem search_finds_unturned (s : SearchIndex) (index field text : String) :
    ∃ found, s.search index (wordsQuery field text) = .ok found
      ∧ ∀ doc ∈ Assoc.values (s.documents index), ∀ word before after,
        Text.IsWordOf word text → doc.HasVerbatim field before word.toList after →
          ¬ Text.SigmaTurns before word.toList after → doc ∈ found := by
  obtain ⟨found, hsearch, hmem⟩ := s.search_wordsQuery index field text
  refine ⟨found, hsearch, fun doc hin word before after hword hdoc hturns => ?_⟩
  exact (hmem doc).mpr ⟨hin, SearchDemand.holds_of_verbatim hword hdoc hturns⟩

/-- An index with one document. -/
def ofDocument (doc : Json) : SearchIndex := ⟨[("posts", [("1", doc)])]⟩

/-- A document in which the form of a word is hidden is not found by it. -/
theorem not_findsVerbatim_of_hidden {doc : Json} {field word : String} {before after : List Char}
    (hword : Text.IsWordOf word word) (hdoc : doc.HasVerbatim field before word.toList after)
    (hhidden : ¬ ∃ first last, Text.lowerFrom [] (before ++ word.toList ++ after)
      = first ++ Text.lowerFrom [] word.toList ++ last) :
    ¬ (ofDocument doc).FindsVerbatim "posts" field word := by
  intro h
  obtain ⟨found, hsearch, hall⟩ := h
  obtain ⟨hits, hhits, hmem⟩ := (ofDocument doc).search_wordsQuery "posts" field word
  rw [hsearch] at hhits
  cases hhits
  have hfound := hall doc (List.mem_singleton.mpr rfl) word before after hword hdoc
  exact SearchDemand.not_holds_of_hidden hword hdoc hhidden ((hmem doc).mp hfound).2

/-- **A SEARCH FINDS WORDS THAT STAND VERBATIM.**

  * Search any index for the words of any text in a field.  The search has an
    answer, and a document that has one of the words in the field, letter for
    letter, is found if no sigma of the word turns there.
  * If none of the words has a capital sigma at its edge, then every document
    that has one of them letter for letter is found.
  * This cannot be said of any other word: if a single word finds all documents
    that have it, in every index, then it has no capital sigma at its edge. -/
theorem search_finds_verbatim (s : SearchIndex) (index field text : String) :
    (∃ found, s.search index (wordsQuery field text) = .ok found
        ∧ ∀ doc ∈ Assoc.values (s.documents index), ∀ word before after,
          Text.IsWordOf word text → doc.HasVerbatim field before word.toList after →
            ¬ Text.SigmaTurns before word.toList after → doc ∈ found)
      ∧ ((∀ word, Text.IsWordOf word text → ¬ Text.SigmaAtEdge word.toList) →
        s.FindsVerbatim index field text)
      ∧ (Text.IsWordOf text text →
        (∀ (s : SearchIndex) (index field : String), s.FindsVerbatim index field text) →
          ¬ Text.SigmaAtEdge text.toList) := by
  refine ⟨s.search_finds_unturned index field text, fun hedge => ?_, fun hword h hedge => ?_⟩
  · obtain ⟨found, hsearch, hall⟩ := s.search_finds_unturned index field text
    refine ⟨found, hsearch, fun doc hin word before after hword hdoc => ?_⟩
    refine hall doc hin word before after hword hdoc fun hturns => ?_
    exact hedge word hword (Text.sigmaAtEdge_of_turns hturns)
  · obtain ⟨before, after, hhidden⟩ := Text.exists_hidden hedge
    have hdoc := Json.hasVerbatim_titled before text.toList after
    exact not_findsVerbatim_of_hidden hword hdoc hhidden (h _ "posts" "title")

/-- A post on road signs. -/
def roadSign : Json := .object [("title", .string "ΟΔΟΣΗΜΑ")]

/-- A sign is found in a road sign: its sigma is the first letter, but there is
one after it.  The end of it has no sigma. -/
theorem search_finds_verbatim_roadSign :
    Text.IsWordOf "ΣΗΜΑ" "ΣΗΜΑ"
      ∧ roadSign.HasVerbatim "title" "ΟΔΟ".toList "ΣΗΜΑ".toList []
      ∧ ¬ Text.SigmaTurns "ΟΔΟ".toList "ΣΗΜΑ".toList []
      ∧ (∃ found, (ofDocument roadSign).search "posts" (wordsQuery "title" "ΣΗΜΑ") = .ok found
        ∧ roadSign ∈ found)
      ∧ (∀ word, Text.IsWordOf word "ΗΜΑ" → ¬ Text.SigmaAtEdge word.toList)
      ∧ (ofDocument roadSign).FindsVerbatim "posts" "title" "ΗΜΑ"
      ∧ ¬ Text.SigmaAtEdge "ΗΜΑ".toList := by
  obtain ⟨⟨found, hsearch, hall⟩, -⟩ :=
    search_finds_verbatim (ofDocument roadSign) "posts" "title" "ΣΗΜΑ"
  have hsign : Text.IsWordOf "ΣΗΜΑ" "ΣΗΜΑ" := Text.mem_words_iff.mp (by decide)
  have hend : Text.IsWordOf "ΗΜΑ" "ΗΜΑ" := Text.mem_words_iff.mp (by decide)
  have hdoc : roadSign.HasVerbatim "title" "ΟΔΟ".toList "ΣΗΜΑ".toList [] :=
    ⟨"ΟΔΟΣΗΜΑ", rfl, by decide⟩
  have hturns : ¬ Text.SigmaTurns "ΟΔΟ".toList "ΣΗΜΑ".toList [] :=
    Text.lowerWithin_alone_iff.mp (by decide +kernel)
  have hedge : ∀ word, Text.IsWordOf word "ΗΜΑ" → ¬ Text.SigmaAtEdge word.toList := by
    intro word hword hedge
    rw [((Text.isRun_iff_of_unbroken hend.unbroken).mp hword).1] at hedge
    exact absurd (Text.mem_of_sigmaAtEdge hedge) (by decide)
  have hwords : ∀ (s : SearchIndex) (index field : String), s.FindsVerbatim index field "ΗΜΑ" :=
    fun s index field => (search_finds_verbatim s index field "ΗΜΑ").2.1 hedge
  have hexact := (search_finds_verbatim (ofDocument roadSign) "posts" "title" "ΗΜΑ").2.2
  have hfound := hall roadSign (List.mem_singleton.mpr rfl) "ΣΗΜΑ" _ _ hsign hdoc hturns
  exact ⟨hsign, hdoc, hturns, ⟨found, hsearch, hfound⟩, hedge, hwords _ _ _, hexact hend hwords⟩

/-- The word for a road does not find a road sign, which starts with it: its
last sigma is a final one in the word alone. -/
theorem search_misses_roadSign :
    Text.IsWordOf "ΟΔΟΣ" "ΟΔΟΣ"
      ∧ roadSign.HasVerbatim "title" [] "ΟΔΟΣ".toList "ΗΜΑ".toList
      ∧ (ofDocument roadSign).search "posts" (wordsQuery "title" "ΟΔΟΣ") = .ok []
      ∧ ¬ (ofDocument roadSign).FindsVerbatim "posts" "title" "ΟΔΟΣ" := by
  have hword : Text.IsWordOf "ΟΔΟΣ" "ΟΔΟΣ" := Text.mem_words_iff.mp (by decide)
  have hdoc : roadSign.HasVerbatim "title" [] "ΟΔΟΣ".toList "ΗΜΑ".toList :=
    ⟨"ΟΔΟΣΗΜΑ", rfl, by decide⟩
  have hhidden : ¬ ∃ first last, Text.lowerFrom [] ([] ++ "ΟΔΟΣ".toList ++ "ΗΜΑ".toList)
      = first ++ Text.lowerFrom [] "ΟΔΟΣ".toList ++ last := by
    rw [← Text.occurs_iff]
    decide +kernel
  refine ⟨hword, hdoc, ?_, not_findsVerbatim_of_hidden hword hdoc hhidden⟩
  obtain ⟨found, hsearch, hmem⟩ := (ofDocument roadSign).search_wordsQuery "posts" "title" "ΟΔΟΣ"
  have hnone : found = [] := by
    refine List.eq_nil_iff_forall_not_mem.mpr fun doc hfound => ?_
    obtain ⟨hin, hholds⟩ := (hmem doc).mp hfound
    cases List.mem_singleton.mp hin
    exact SearchDemand.not_holds_of_hidden hword hdoc hhidden hholds
  rw [hsearch, hnone]

end SearchIndex

end DataAccess
