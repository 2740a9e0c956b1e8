import Mathlib.Data.List.Nodup
import Mathlib.Data.List.Perm.Basic
import ODataClient.Proofs.Client.BatchReply
import ODataClient.Proofs.Client.BatchRequest

/-! # Answers are found by their ids

An answer of a batch is read by the id of its request. As long as no two answers share an id, neither
the order in which they come nor the body of any other answer makes a difference to what is read.

* **`BatchResponse.get?_eq_some_iff`** — with distinct ids, an answer is found if it is there.
* **`BatchResponse.ReadsAlike`** — two results give the same for all reads of an id.
* **`SubResponse.ReplacesBody`** — two entries that differ in their bodies only.
* **`Client.Called`** — a call, the reply to it and its outcome; `called_ok_of_perm` and
  `called_ok_of_replacesBody` compare two of them.
* **`Client.answers_by_id`** — the laws of reading by id, and what they mean for the queries of a batch.
-/

namespace ODataClient

/-- Lists that are related to a joined list are joined of related lists. -/
theorem forall₂_append_left_iff {α β : Type} {related : α → β → Prop} {front back : List α}
    {others : List β} :
    List.Forall₂ related (front ++ back) others ↔
      ∃ first second, others = first ++ second ∧ List.Forall₂ related front first ∧
        List.Forall₂ related back second := by
  constructor
  · intro all
    induction front generalizing others with
    | nil => exact ⟨[], others, rfl, .nil, all⟩
    | cons item front ih =>
      obtain ⟨other, rest, isOther, later, rfl⟩ := List.forall₂_cons_left_iff.mp all
      obtain ⟨first, second, rfl, inFront, inBack⟩ := ih later
      exact ⟨other :: first, second, rfl, .cons isOther inFront, inBack⟩
  · rintro ⟨first, second, rfl, inFront, inBack⟩
    exact List.rel_append inFront inBack

/-- What is in a list is related to something in a related list. -/
theorem exists_mem_of_forall₂ {α β : Type} {related : α → β → Prop} {items : List α}
    {others : List β} (all : List.Forall₂ related items others) {item : α} (inside : item ∈ items) :
    ∃ other ∈ others, related item other := by
  induction all with
  | nil => cases inside
  | cons first _ ih =>
    rcases List.mem_cons.mp inside with rfl | later
    · exact ⟨_, List.mem_cons_self, first⟩
    · obtain ⟨other, isOther, related⟩ := ih later
      exact ⟨other, List.mem_cons_of_mem _ isOther, related⟩

/-! ## Reading by id -/

namespace BatchResponse

variable {first second : BatchResponse}

/-- What is found is an answer with the id. -/
theorem mem_of_get?_eq_some {response : BatchResponse} {id : String} {answer : SubResponse}
    (found : response.get? id = some answer) : answer ∈ response.answers ∧ answer.id = id := by
  rw [get?] at found
  have same := List.find?_some found
  exact ⟨List.mem_of_find?_eq_some found, beq_iff_eq.mp same⟩

/-- **With distinct ids an answer is found by its id.** -/
theorem get?_eq_some_iff {response : BatchResponse} (distinct : response.ids.Nodup) {id : String}
    {answer : SubResponse} :
    response.get? id = some answer ↔ answer ∈ response.answers ∧ answer.id = id := by
  constructor
  · exact mem_of_get?_eq_some
  · rintro ⟨inside, rfl⟩
    have some : (response.get? answer.id).isSome :=
      List.find?_isSome.mpr ⟨answer, inside, beq_self_eq_true answer.id⟩
    obtain ⟨other, found⟩ := Option.isSome_iff_exists.mp some
    obtain ⟨alsoInside, same⟩ := mem_of_get?_eq_some found
    rw [found, List.inj_on_of_nodup_map distinct alsoInside inside same]

/-- All reads of an id give the same for two results. -/
structure ReadsAlike (first second : BatchResponse) (id : String) : Prop where
  /-- The answer is the same. -/
  answer : second.get? id = first.get? id
  /-- The records are the same. -/
  records : ∀ {α : Type} (type : RecordType α), second.records type id = first.records type id
  /-- The decoded bodies are the same. -/
  decoded : ∀ {α : Type} (type : RecordType α),
    ((second.get? id).bind fun answer => answer.decode type) =
      (first.get? id).bind fun answer => answer.decode type
  /-- The errors are the same. -/
  error : (second.get? id).bind SubResponse.error? = (first.get? id).bind SubResponse.error?

/-- Every read of an id goes through its answer. -/
theorem ReadsAlike.of_get? {id : String} (same : second.get? id = first.get? id) :
    ReadsAlike first second id := by
  refine ⟨same, fun type => ?_, fun type => ?_, ?_⟩
  · rw [BatchResponse.records, BatchResponse.records, same]
  · rw [same]
  · rw [same]

/-- The order of answers with distinct ids makes no difference to reads. -/
theorem readsAlike_of_perm (distinct : first.ids.Nodup)
    (perm : second.answers.Perm first.answers) (id : String) : ReadsAlike first second id := by
  have distinct' : second.ids.Nodup := (perm.map _).nodup_iff.mpr distinct
  refine .of_get? (Option.ext fun answer => ?_)
  rw [get?_eq_some_iff distinct', get?_eq_some_iff distinct, perm.mem_iff]

/-- An answer makes no difference to the reads of other ids. -/
theorem readsAlike_of_ne {status status' : Nat} {front back : List SubResponse}
    {old new : SubResponse} (same : new.id = old.id) {id : String} (other : id ≠ old.id) :
    ReadsAlike ⟨status, front ++ old :: back⟩ ⟨status', front ++ new :: back⟩ id := by
  have notOld : (old.id == id) = false := beq_false_of_ne (Ne.symm other)
  have notNew : (new.id == id) = false := same ▸ notOld
  refine .of_get? ?_
  simp only [get?, List.find?_append, List.find?_cons, notOld, notNew]

end BatchResponse

/-! ## Replaced bodies -/

namespace SubResponse

/-- An entry that agrees with another one in all fields but its body, which is the given one. -/
def ReplacesBody (old new body : JsonValue) : Prop :=
  ∃ id status headers former, old.fields? fieldNames = some [id, status, headers, former] ∧
    new.fields? fieldNames = some [id, status, headers, some body]

/-- Any body makes an answer of an entry that is one. -/
theorem IsAnswer.replaceBody {old new body : JsonValue} {answer : SubResponse}
    (isAnswer : IsAnswer old answer) (replaces : ReplacesBody old new body) :
    IsAnswer new { answer with body } := by
  obtain ⟨⟨id, headers, former, fields, isId, areHeaders, -⟩, bound⟩ := isAnswer
  obtain ⟨_, _, _, _, fields', replaced⟩ := replaces
  rw [fields] at fields'
  cases fields'
  exact ⟨⟨id, headers, some body, replaced, isId, areHeaders, rfl⟩, bound⟩

end SubResponse

/-! ## Calls that differ in the reply -/

/-- Members that agree on everything but the entries. -/
def Envelope.SameBeside (members others : List (String × JsonValue)) : Prop :=
  ∀ name, name ≠ "responses" → others.lookup name = members.lookup name

/-- What is readable stays so if only the entries change. -/
theorem Envelope.IsReadable.of_sameBeside {members others : List (String × JsonValue)}
    (readable : IsReadable members) (same : SameBeside members others) : IsReadable others where
  records value found := readable.records value (same "value" (by decide) ▸ found)
  nextLink value found := readable.nextLink value (same "@odata.nextLink" (by decide) ▸ found)
  count value found := readable.count value (same "@odata.count" (by decide) ▸ found)

namespace Client

/-- A call with the standard decoder that is replied to, and its outcome. -/
structure Called {σ : Type} (client : Client σ) (batch : Batch) (before : World σ)
    (response : Response) (members : List (String × JsonValue)) (entries : List JsonValue)
    (outcome : Except Error BatchResponse) : Prop where
  /-- The decoder is the standard one. -/
  standard : client.decoder = .standard
  /-- The service replies. -/
  replied : ∃ after, client.RepliesWith batch before response members entries after
  /-- The call has the outcome. -/
  outcome_eq : (client.sendBatch batch before).1 = outcome

/-- What a result says about the reply. -/
theorem Called.of_ok {σ : Type} {client : Client σ} {batch : Batch} {before : World σ}
    {response : Response} {members : List (String × JsonValue)} {entries : List JsonValue}
    {result : BatchResponse}
    (called : client.Called batch before response members entries (.ok result)) :
    Envelope.IsReadable members ∧ List.Forall₂ SubResponse.IsAnswer entries result.answers := by
  obtain ⟨after, replies⟩ := called.replied
  exact ((sendBatch_ok_iff called.standard replies).mp called.outcome_eq).2

/-- What a reply says about the outcome. -/
theorem Called.eq_ok {σ : Type} {client : Client σ} {batch : Batch} {before : World σ}
    {response : Response} {members : List (String × JsonValue)} {entries : List JsonValue}
    {outcome : Except Error BatchResponse}
    (called : client.Called batch before response members entries outcome)
    (readable : Envelope.IsReadable members) {answers : List SubResponse}
    (all : List.Forall₂ SubResponse.IsAnswer entries answers) :
    outcome = .ok ⟨response.status, answers⟩ := by
  obtain ⟨after, replies⟩ := called.replied
  rw [← called.outcome_eq]
  exact (sendBatch_ok_iff called.standard replies).mpr ⟨rfl, readable, all⟩

section Laws

variable {σ τ : Type} {client : Client σ} {other : Client τ} {batch batch' : Batch}
  {before : World σ} {before' : World τ} {response response' : Response}
  {members members' : List (String × JsonValue)} {entries entries' : List JsonValue}
  {first : BatchResponse} {outcome : Except Error BatchResponse}

/-- **The order of the entries makes no difference.** -/
theorem called_ok_of_perm
    (called : client.Called batch before response members entries (.ok first))
    (distinct : first.ids.Nodup)
    (again : other.Called batch' before' response' members' entries' outcome)
    (same : Envelope.SameBeside members members') (perm : entries'.Perm entries) :
    ∃ second, outcome = .ok second ∧ second.size = first.size ∧
      second.allSucceeded = first.allSucceeded ∧ ∀ id, first.ReadsAlike second id := by
  obtain ⟨readable, all⟩ := called.of_ok
  -- The answers come in the order of the entries.
  obtain ⟨answers, all', permuted⟩ := List.perm_comp_forall₂ perm all
  refine ⟨_, again.eq_ok (readable.of_sameBeside same) all', permuted.length_eq, permuted.all_eq, ?_⟩
  exact BatchResponse.readsAlike_of_perm distinct permuted

/-- **The body of an entry makes no difference to the others.** -/
theorem called_ok_of_replacesBody
    (called : client.Called batch before response members entries (.ok first))
    (distinct : first.ids.Nodup)
    (again : other.Called batch' before' response' members' entries' outcome)
    (same : Envelope.SameBeside members members') {front back : List JsonValue}
    {old new body : JsonValue} (isOld : entries = front ++ old :: back)
    (isNew : entries' = front ++ new :: back) (replaces : SubResponse.ReplacesBody old new body) :
    ∃ answer second, SubResponse.IsAnswer old answer ∧ outcome = .ok second ∧
      second.size = first.size ∧ (∀ id, id ≠ answer.id → first.ReadsAlike second id) ∧
      second.get? answer.id = some { answer with body } := by
  subst isOld isNew
  obtain ⟨status, answers⟩ := first
  obtain ⟨readable, all⟩ := called.of_ok
  obtain ⟨inFront, rest, rfl, allFront, all⟩ := forall₂_append_left_iff.mp all
  obtain ⟨answer, inBack, isAnswer, allBack, rfl⟩ := List.forall₂_cons_left_iff.mp all
  have all' : List.Forall₂ SubResponse.IsAnswer (front ++ new :: back)
      (inFront ++ { answer with body } :: inBack) :=
    List.rel_append allFront (.cons (isAnswer.replaceBody replaces) allBack)
  refine ⟨answer, _, isAnswer, again.eq_ok (readable.of_sameBeside same) all', ?_, ?_, ?_⟩
  · simp only [BatchResponse.size, List.length_append, List.length_cons]
  · intro id different
    have sameId : ({ answer with body } : SubResponse).id = answer.id := rfl
    exact BatchResponse.readsAlike_of_ne sameId different
  · have distinct' : (BatchResponse.mk response'.status
        (inFront ++ { answer with body } :: inBack)).ids.Nodup := by
      simpa [BatchResponse.ids] using distinct
    exact (BatchResponse.get?_eq_some_iff distinct').mpr
      ⟨List.mem_append_right inFront List.mem_cons_self, rfl⟩

/-- **Every entry is found by the id of its answer.** -/
theorem get?_of_called
    (called : client.Called batch before response members entries (.ok first))
    (distinct : first.ids.Nodup) {entry : JsonValue} (inside : entry ∈ entries)
    {answer : SubResponse} (isAnswer : SubResponse.IsAnswer entry answer) :
    first.get? answer.id = some answer := by
  obtain ⟨-, all⟩ := called.of_ok
  obtain ⟨found, isFound, alsoAnswer⟩ := exists_mem_of_forall₂ all inside
  obtain rfl := isAnswer.unique alsoAnswer
  exact (BatchResponse.get?_eq_some_iff distinct).mpr ⟨isFound, rfl⟩

/-- **The answer to each query is found at its position**, if there is one for every position. -/
theorem get?_of_called_batchOf
    (called : client.Called batch before response members entries (.ok first))
    (distinct : first.ids.Nodup) {sent : List JsonValue} (perm : entries.Perm sent)
    (numbered : ∀ index entry, sent[index]? = some entry →
      ∃ answer, SubResponse.IsAnswer entry answer ∧ answer.id = naturalText (index + 1))
    {index : Nat} (inside : index < sent.length) :
    ∃ entry answer, sent[index]? = some entry ∧ SubResponse.IsAnswer entry answer ∧
      first.get? (naturalText (index + 1)) = some answer := by
  have isEntry := List.getElem?_eq_getElem inside
  obtain ⟨answer, isAnswer, isId⟩ := numbered index _ isEntry
  refine ⟨_, answer, isEntry, isAnswer, ?_⟩
  rw [← isId]
  exact get?_of_called called distinct (perm.mem_iff.mpr (List.getElem_mem inside)) isAnswer

/-- The requests of a batch have their positions for ids and the paths of their queries. -/
theorem getElem?_items_batchOf (client : Client σ) {queries : List (String × Query)} {index : Nat}
    {query : String × Query} (isQuery : queries[index]? = some query) :
    ((client.batchOf queries).items[index]?).map (fun item => (item.id, item.url)) =
      some (naturalText (index + 1), client.root.queryPath query.1 query.2) := by
  rw [batchOf, Batch.items_ofPaths, List.getElem?_mapIdx, List.getElem?_map, isQuery]
  rfl

/-- **Answers are matched by their ids.** Let a call with the standard decoder have a result whose ids
are distinct.

* A call whose reply has the same entries in another order has a result of the same size and the same
  overall success, and all its reads give the same.
* A call whose reply differs in the body of one entry has a result too; all reads of other ids give the
  same, and under the id of the entry there is the answer with the new body.
* If the reply answers all requests of a batch of queries, in any order and with ids of either form, the
  answer to each of them, and so the records in it, is found under the position of its query. -/
theorem answers_by_id
    (called : client.Called batch before response members entries (.ok first))
    (distinct : first.ids.Nodup) :
    (∀ {τ : Type} {other : Client τ} {batch' : Batch} {before' : World τ} {response' : Response}
        {members' : List (String × JsonValue)} {entries' : List JsonValue}
        {outcome : Except Error BatchResponse},
      other.Called batch' before' response' members' entries' outcome →
      Envelope.SameBeside members members' → entries'.Perm entries →
      ∃ second, outcome = .ok second ∧ second.size = first.size ∧
        second.allSucceeded = first.allSucceeded ∧ ∀ id, first.ReadsAlike second id) ∧
    (∀ {τ : Type} {other : Client τ} {batch' : Batch} {before' : World τ} {response' : Response}
        {members' : List (String × JsonValue)} {entries' : List JsonValue}
        {outcome : Except Error BatchResponse} {front back : List JsonValue}
        {old new body : JsonValue},
      other.Called batch' before' response' members' entries' outcome →
      Envelope.SameBeside members members' → entries = front ++ old :: back →
      entries' = front ++ new :: back → SubResponse.ReplacesBody old new body →
      ∃ answer second, SubResponse.IsAnswer old answer ∧ outcome = .ok second ∧
        second.size = first.size ∧ (∀ id, id ≠ answer.id → first.ReadsAlike second id) ∧
        second.get? answer.id = some { answer with body }) ∧
    ∀ {queries : List (String × Query)} {sent : List JsonValue},
      batch = client.batchOf queries → entries.Perm sent → sent.length = queries.length →
      (∀ index entry, sent[index]? = some entry →
        ∃ answer, SubResponse.IsAnswer entry answer ∧ answer.id = naturalText (index + 1)) →
      ∀ index query, queries[index]? = some query →
        (batch.items[index]?).map (fun item => (item.id, item.url)) =
            some (naturalText (index + 1), client.root.queryPath query.1 query.2) ∧
          ∃ entry answer, sent[index]? = some entry ∧ SubResponse.IsAnswer entry answer ∧
            first.get? (naturalText (index + 1)) = some answer ∧
            ∀ {α : Type} (type : RecordType α),
              first.records type (naturalText (index + 1)) = answer.records type := by
  refine ⟨called_ok_of_perm called distinct,
    fun again same => called_ok_of_replacesBody called distinct again same, ?_⟩
  intro queries sent isBatch perm complete numbered index query isQuery
  have inside : index < sent.length := by
    rw [complete]
    exact (List.getElem?_eq_some_iff.mp isQuery).1
  obtain ⟨entry, answer, isEntry, isAnswer, found⟩ :=
    get?_of_called_batchOf called distinct perm numbered inside
  rw [isBatch]
  refine ⟨client.getElem?_items_batchOf isQuery, entry, answer, isEntry, isAnswer, found, ?_⟩
  intro α type
  rw [BatchResponse.records, found]
  rfl

end Laws

/-- A call on a service that always sends the same entries. -/
theorem called_replyOf {entries : List JsonValue}
    (fit : ∀ entry ∈ entries, entry.fits (JsonSyntax.maxDepth - 2) = true)
    (sorted : ∀ entry ∈ entries, entry.sorted = entry) (batch : Batch) (before : World Unit) :
    (ofReply (replyOf entries)).Called batch before (replyOf entries) (replyMembers entries) entries
      ((ofReply (replyOf entries)).sendBatch batch before).1 :=
  ⟨rfl, repliesWith_replyOf fit sorted batch before, rfl⟩

/-- Such replies differ in their entries only. -/
theorem sameBeside_replyMembers (entries entries' : List JsonValue) :
    Envelope.SameBeside (replyMembers entries) (replyMembers entries') := by
  intro name other
  rw [replyMembers, replyMembers, List.lookup_cons, List.lookup_cons, beq_false_of_ne other]

/-- The second request is answered first, and by a number. The records of both requests are found
under their positions, also if the entries change places, and those of the first request also if the
second entry has no records. -/
theorem answers_by_id_reversed :
    let one := entry (.string "1") 200 (recordsBody [.string "a"])
    let two := entry (.number (.integer 2)) 200 (recordsBody [.string "b"])
    let broken := entry (.number (.integer 2)) 200 .null
    let type := RecordType.untyped "Item"
    let client := ofReply (replyOf [two, one])
    let batch := client.batchOf [("Vendors", .empty), ("Items", .empty)]
    ∃ first, (client.sendBatch batch (.initial ())).1 = .ok first ∧
      first.records type "2" = some [.string "b"] ∧
      (∃ second, ((ofReply (replyOf [one, two])).sendBatch batch (.initial ())).1 = .ok second ∧
        second.records type "2" = some [.string "b"]) ∧
      ∃ second, ((ofReply (replyOf [broken, one])).sendBatch batch (.initial ())).1 = .ok second ∧
        second.records type "1" = some [.string "a"] := by
  intro one two broken type client batch
  have fit : ∀ entry ∈ [one, two, broken], entry.fits (JsonSyntax.maxDepth - 2) = true := by decide
  have sorted : ∀ entry ∈ [one, two, broken], entry.sorted = entry := by
    simp [one, two, broken, sorted_entry, sorted_recordsBody, JsonValue.sorted]
  have isOne : SubResponse.IsAnswer one ⟨"1", 200, [], recordsBody [.string "a"]⟩ :=
    isAnswer_entry.mpr ⟨.text "1", by decide, rfl, rfl, rfl⟩
  have isTwo : SubResponse.IsAnswer two ⟨"2", 200, [], recordsBody [.string "b"]⟩ :=
    isAnswer_entry.mpr ⟨.number 2 (by decide), by decide, rfl, rfl, rfl⟩
  -- Any choice of the entries can be sent.
  have call (entries : List JsonValue) (listed : entries ⊆ [one, two, broken]) :=
    called_replyOf (fun entry inside => fit entry (listed inside))
      (fun entry inside => sorted entry (listed inside)) batch (.initial ())
  have called := call [two, one] (by simp)
  have result := called.eq_ok (isReadable_replyMembers _) (.cons isTwo (.cons isOne .nil))
  rw [result] at called
  obtain ⟨permuted, replaced, queries⟩ := answers_by_id called (by decide)
  obtain ⟨second, isSecond, -, -, alike⟩ := permuted (call [one, two] (by simp))
    (sameBeside_replyMembers _ _) (List.Perm.swap two one [])
  obtain ⟨answer, third, isAnswer, isThird, -, others, -⟩ := replaced (call [broken, one] (by simp))
    (sameBeside_replyMembers _ _) (List.nil_append _).symm (List.nil_append _).symm
    (⟨_, _, _, _, rfl, rfl⟩ : SubResponse.ReplacesBody two broken .null)
  obtain rfl := isAnswer.unique isTwo
  have numbered : ∀ index entry, [one, two][index]? = some entry →
      ∃ answer, SubResponse.IsAnswer entry answer ∧ answer.id = naturalText (index + 1) := by
    intro index entry isEntry
    cases index with
    | zero =>
      obtain rfl := Option.some.inj isEntry
      exact ⟨_, isOne, rfl⟩
    | succ index =>
      cases index with
      | zero =>
        obtain rfl := Option.some.inj isEntry
        exact ⟨_, isTwo, rfl⟩
      | succ index => cases isEntry
  obtain ⟨-, _, answer, isEntry, isAnswer, -, records⟩ :=
    queries rfl (List.Perm.swap one two []) rfl numbered 1 ("Items", .empty) rfl
  obtain rfl := Option.some.inj isEntry
  obtain rfl := isAnswer.unique isTwo
  refine ⟨_, result, records type, ⟨second, isSecond, ?_⟩, third, isThird, ?_⟩
  · rw [(alike "2").records type]
    rfl
  · rw [(others "1" (by decide)).records type]
    rfl

end Client

end ODataClient
