import ODataClient.Client.Address
import ODataClient.Proofs.Query.Runs
import ODataClient.Proofs.Text.Percent

/-! # Query strings read back

A query string comes apart at the ampersands, each part at its first equals sign, and each value is
decoded on its own. Names and values may hold any character.

* **`Text.notMem_percentEncode`** — an encoded value has no mark that separates parts of a request.
* **`Text.splitAt`, `Text.cutAt`** — a text at every place of a character, and at the first one.
* **`readQueryString?`** — the names and values of a query string;
  `readQueryString?_intercalate` inverts the writing of a list of entries.
* **`Query.readQueryString?_queryString`** — what any steps build is read back, from the query
  string and from the path of a request. -/

namespace ODataClient

namespace Text

/-! ## Marks of requests -/

/-- The characters that separate and join the parts of a request. -/
def requestMarks : List Char := ['&', '=', '?', '#', '/']

/-- The digits of escapes and the unreserved bytes are no marks of requests. -/
theorem any_contains_percentEncodeByte : ∀ value < 256,
    requestMarks.any (percentEncodeByte (.ofNat value)).contains = false := by
  decide +kernel

/-- **An encoded text has no mark of requests.** -/
theorem notMem_percentEncode {mark : Char} (isMark : mark ∈ requestMarks) (text : String) :
    mark ∉ (percentEncode text).toList := by
  rw [toList_percentEncode, List.mem_flatMap]
  rintro ⟨byte, -, member⟩
  have free := any_contains_percentEncodeByte byte.toNat byte.toNat_lt
  rw [UInt8.ofNat_toNat] at free
  exact List.any_eq_false.mp free mark isMark (List.contains_iff_mem.mpr member)

/-! ## Parts of a text -/

/-- The parts of a text between the places of a character. -/
def splitAt (mark : Char) (text : String) : List String :=
  (text.toList.splitOn mark).map String.ofList

/-- What stands before the first place of a character, and what stands behind it. -/
def cutAt (mark : Char) (text : String) : String × String :=
  (String.ofList (text.toList.takeWhile (· != mark)),
    String.ofList ((text.toList.dropWhile (· != mark)).drop 1))

/-- Joined parts come apart where they were joined. -/
theorem splitAt_intercalate {mark : Char} {separator : String} (single : separator.toList = [mark])
    {parts : List String} (free : ∀ part ∈ parts, mark ∉ part.toList) (filled : parts ≠ []) :
    splitAt mark (separator.intercalate parts) = parts := by
  have split : ([mark].intercalate (parts.map String.toList)).splitOn mark =
      parts.map String.toList :=
    List.splitOn_intercalate mark (by simpa using free) (by simpa using filled)
  rw [splitAt, String.toList_intercalate, single, split, List.map_map]
  simp [Function.comp_def]

/-- A text is cut at the first place of a character. -/
theorem cutAt_append {mark : Char} {separator : String} (single : separator.toList = [mark])
    {front : String} (free : mark ∉ front.toList) (back : String) :
    cutAt mark (front ++ separator ++ back) = (front, back) := by
  have before : ∀ char ∈ front.toList, (char != mark) = true := fun char member =>
    bne_iff_ne.mpr fun same => free (same ▸ member)
  rw [cutAt, String.toList_append, String.toList_append, single, List.append_assoc,
    List.takeWhile_append_of_pos before, List.dropWhile_append_of_pos before]
  simp

/-- A text without the character is not cut. -/
theorem cutAt_of_notMem {mark : Char} {text : String} (free : mark ∉ text.toList) :
    cutAt mark text = (text, "") := by
  have before : ∀ char ∈ text.toList, (char != mark) = true := fun char member =>
    bne_iff_ne.mpr fun same => free (same ▸ member)
  have front : (text.toList ++ []).takeWhile (· != mark) = text.toList ++ [] :=
    List.takeWhile_append_of_pos before
  have back : (text.toList ++ []).dropWhile (· != mark) = [] := List.dropWhile_append_of_pos before
  rw [List.append_nil] at front back
  simp [cutAt, front, back]

end Text

open Text

/-! ## Entries -/

/-- The entry that a part of a query string is: its name, and its value decoded. -/
def readPair? (part : String) : Option (String × String) :=
  (percentDecode? (cutAt '=' part).2).map fun value => ((cutAt '=' part).1, value)

/-- The entries of a query string; an empty one has none. -/
def readQueryString? (text : String) : Option (List (String × String)) :=
  if text = "" then some [] else (splitAt '&' text).mapM readPair?

/-- Names that stand before a value as they are. -/
structure IsEntryName (name : String) : Prop where
  /-- There is a name. -/
  filled : name ≠ ""
  /-- It has no mark of requests. -/
  free : ∀ mark ∈ requestMarks, mark ∉ name.toList

/-- The names of options are written as they are. -/
theorem isEntryName_of_mem {name : String}
    (known : name ∈ QueryOptions.expandName :: QueryOptions.stepNames) : IsEntryName name := by
  have checked : (QueryOptions.expandName :: QueryOptions.stepNames).all
      (fun name => name != "" && !requestMarks.any name.toList.contains) = true := by decide
  have named := List.all_eq_true.mp checked name known
  rw [Bool.and_eq_true, bne_iff_ne, Bool.not_eq_true', List.any_eq_false] at named
  exact ⟨named.1, fun mark isMark member => named.2 mark isMark (List.contains_iff_mem.mpr member)⟩

/-- An entry is read back from its written form. -/
theorem readPair?_encodedEntry {entry : String × String} (named : IsEntryName entry.1) :
    readPair? (Query.encodedEntry entry) = some entry := by
  have cut : cutAt '=' (Query.encodedEntry entry) = (entry.1, percentEncode entry.2) :=
    cutAt_append (by rfl) (named.free '=' (by decide)) _
  simp [readPair?, cut, percentDecode?_percentEncode]

/-- The written form of an entry has no ampersand and no question mark. -/
theorem notMem_encodedEntry {mark : Char} (isMark : mark ∈ requestMarks) (other : mark ≠ '=')
    {entry : String × String} (named : IsEntryName entry.1) :
    mark ∉ (Query.encodedEntry entry).toList := by
  have equals : "=".toList = ['='] := rfl
  simp only [Query.encodedEntry, String.toList_append, equals, List.mem_append,
    List.mem_singleton, not_or]
  exact ⟨⟨named.free mark isMark, other⟩, notMem_percentEncode isMark entry.2⟩

/-- A list of entries is read back entry by entry. -/
theorem mapM_readPair? {entries : List (String × String)}
    (named : ∀ entry ∈ entries, IsEntryName entry.1) :
    (entries.map Query.encodedEntry).mapM readPair? = some entries := by
  induction entries with
  | nil => rfl
  | cons entry rest ih =>
    rw [List.forall_mem_cons] at named
    simp [readPair?_encodedEntry named.1, ih named.2]

/-- Written entries are empty only if there are none. -/
theorem intercalate_encodedEntry_eq_empty {entries : List (String × String)}
    (named : ∀ entry ∈ entries, IsEntryName entry.1) :
    "&".intercalate (entries.map Query.encodedEntry) = "" ↔ entries = [] := by
  cases entries with
  | nil => simp
  | cons entry rest =>
    have filled := (named entry List.mem_cons_self).filled
    cases rest with
    | nil => simp [Query.encodedEntry, filled]
    | cons next others => simp [Query.encodedEntry, String.intercalate_cons_cons, filled]

/-- **Entries are read back** from their written forms with ampersands between them. -/
theorem readQueryString?_intercalate {entries : List (String × String)}
    (named : ∀ entry ∈ entries, IsEntryName entry.1) :
    readQueryString? ("&".intercalate (entries.map Query.encodedEntry)) = some entries := by
  rw [readQueryString?]
  by_cases none : entries = []
  · simp [none]
  · rw [if_neg (mt (intercalate_encodedEntry_eq_empty named).mp none)]
    have free : ∀ part ∈ entries.map Query.encodedEntry, '&' ∉ part.toList := by
      simp only [List.forall_mem_map]
      exact fun entry member => notMem_encodedEntry (by decide) (by decide) (named entry member)
    rw [splitAt_intercalate (by rfl) free (by simpa using none), mapM_readPair? named]

/-! ## Queries that steps build -/

namespace Query

/-- Steps assign no other options than those of the fixed list. -/
theorem holds_buildSkipping (steps : List QueryStep) :
    (buildSkipping steps).Holds (fun _ => True) (fun _ => True) := by
  refine buildSkipping_invariant _ (fun step _ query effect holds effective => ?_) .empty
  refine holds.apply ?_
  cases step with
  | entitySet | expand | orderBy | top | skip | count =>
    cases effective
    simp [QueryEffect.Writes, QueryOptions.stepNames]
  | select | filter | expandWith | apply =>
    obtain ⟨_, -, written⟩ := bind_eq_ok.mp effective
    cases written
    simp [QueryEffect.Writes, QueryOptions.stepNames]
  | thenBy field direction =>
    simp only [QueryStep.effect] at effective
    split at effective
    · cases effective
    · cases effective
      simp [QueryEffect.Writes, QueryOptions.stepNames]

/-- The names of all entries of a query are written as they are. -/
theorem Holds.isEntryName {IsValue IsClause : String → Prop} {query : Query}
    (holds : query.Holds IsValue IsClause) : ∀ entry ∈ query.entries, IsEntryName entry.1 := by
  intro entry member
  rcases List.mem_append.mp member with option | expand
  · exact isEntryName_of_mem (List.mem_cons_of_mem _ (holds.known entry option))
  · split at expand
    · cases expand
    · rw [List.mem_singleton.mp expand]
      exact isEntryName_of_mem List.mem_cons_self

/-- No entry of a query is there twice: the joined clauses are under a name that no step assigns. -/
theorem Holds.nodup_entries {IsValue IsClause : String → Prop} {query : Query}
    (holds : query.Holds IsValue IsClause) : (query.entries.map Prod.fst).Nodup := by
  rw [entries, List.map_append]
  split
  · simpa using holds.distinct
  · refine List.nodup_append.mpr ⟨holds.distinct, by simp, fun name member other expand => ?_⟩
    rw [List.mem_singleton.mp expand]
    rintro rfl
    obtain ⟨entry, option, named⟩ := List.mem_map.mp member
    have fresh : QueryOptions.expandName ∉ QueryOptions.stepNames := by decide
    have listed := holds.known entry option
    rw [named] at listed
    exact fresh listed

/-- There is no entry exactly if no option is set and no field is expanded. -/
theorem entries_eq_nil {query : Query} :
    query.entries = [] ↔ query.options.entries = [] ∧ query.expands = [] := by
  rw [entries, List.append_eq_nil_iff]
  split <;> simp [*]

/-- The path of a request in the standard layout is cut into the path of the entity set and the
query string. -/
theorem cutAt_withQuery {path : String} (free : '?' ∉ path.toList) (queryString : String) :
    cutAt '?' (PathLayout.withQuery path queryString) = (path, queryString) := by
  rw [PathLayout.withQuery]
  split
  · rename_i none
    rw [cutAt_of_notMem free, String.isEmpty_iff.mp none]
  · exact cutAt_append (by rfl) free queryString

/-- **Query strings are read back.** What any steps build, those with an error left out, is read
back from its query string: the options with their values in order, then the expand clauses joined.
No name occurs twice, and the string is empty exactly if there is nothing to read. The same is read
from a path of the standard layout whose other parts have no question mark. Queries that are built
without an error are among these by `buildSkipping_of_build`. -/
theorem readQueryString?_queryString (steps : List QueryStep) :
    let query := buildSkipping steps
    let entries := query.options.entries ++
      (if query.expands = [] then [] else [("$expand", ",".intercalate query.expands)])
    readQueryString? query.queryString = some entries ∧
      (entries.map Prod.fst).Nodup ∧
      (query.queryString = "" ↔ query.options.entries = [] ∧ query.expands = []) ∧
      ∀ baseUrl company apiVersion entitySet : String,
        '?' ∉ apiVersion.toList → '?' ∉ company.toList →
        '?' ∉ (query.entitySet.getD entitySet).toList →
        let path := ServiceRoot.queryPath ⟨baseUrl, company, apiVersion, .standard⟩ entitySet query
        readQueryString? (cutAt '?' path).2 = some entries := by
  intro query entries
  have holds := holds_buildSkipping steps
  have read : readQueryString? query.queryString = some entries :=
    readQueryString?_intercalate holds.isEntryName
  refine ⟨read, holds.nodup_entries, ?_, ?_⟩
  · exact (intercalate_encodedEntry_eq_empty holds.isEntryName).trans entries_eq_nil
  · intro baseUrl company apiVersion entitySet versionFree companyFree setFree path
    have marks : '?' ∉ "/companies(".toList ∧ '?' ∉ ")/".toList := by decide
    have free : '?' ∉ (apiVersion ++ "/companies(" ++ company ++ ")/" ++
        query.entitySet.getD entitySet).toList := by
      simp only [String.toList_append, List.mem_append, not_or]
      exact ⟨⟨⟨⟨versionFree, marks.1⟩, companyFree⟩, marks.2⟩, setFree⟩
    have cut : cutAt '?' path = (_, query.queryString) := cutAt_withQuery free query.queryString
    rw [cut]
    exact read

/-- A name with marks of requests in it, a limit that is cleared and set again, and a nested query
whose clause has marks of its own. -/
theorem readQueryString?_queryString_marks :
    let steps : List QueryStep :=
      [.top 5, .orderBy (.plain "a&b=c") .descending, .top 0,
        .expandWith (.plain "x%?#é") [.skip 2], .count true]
    let path := ServiceRoot.queryPath ⟨"https://host/", "c&1", "v2.0", .standard⟩ "items"
      (buildSkipping steps)
    readQueryString? (cutAt '?' path).2 =
      some [("$orderby", "a&b=c desc"), ("$count", "true"), ("$expand", "x%?#é($skip=2)")] := by
  intro steps path
  have read := (readQueryString?_queryString steps).2.2.2 "https://host/" "c&1" "v2.0" "items"
    (by decide) (by decide) (by decide)
  exact read

end Query

end ODataClient
