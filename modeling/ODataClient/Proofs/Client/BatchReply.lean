import ODataClient.Client.Batch
import ODataClient.Proofs.Client.Calls
import ODataClient.Proofs.Response.Reading

/-! # Replies to a batch

The reply to a batch is one body, and it is decoded as one: a call has an answer for every entry of the
reply, or it has none at all.

* **`Client.RepliesWith`** — a response to a batch that reports success and carries entries.
* **`Client.sendBatch_ok_iff`**, **`Client.sendBatch_error_iff`** — when a call has a result, and which
  answers it holds.
* **`Client.ofReply`** — the client of a service that always gives the same response.
* **`Client.sendBatch_all_or_none`** — what becomes of the entries together.
-/

namespace ODataClient

/-- Items that are related to something each are related to a list of such things in their order. -/
theorem exists_forall₂_iff {α β : Type} {related : α → β → Prop} {items : List α} :
    (∃ others, List.Forall₂ related items others) ↔ ∀ item ∈ items, ∃ other, related item other := by
  induction items with
  | nil => simp
  | cons item rest ih =>
    rw [List.forall_mem_cons, ← ih]
    constructor
    · rintro ⟨others, all⟩
      obtain ⟨other, others, first, all, -⟩ := List.forall₂_cons_left_iff.mp all
      exact ⟨⟨other, first⟩, others, all⟩
    · rintro ⟨⟨other, first⟩, others, all⟩
      exact ⟨other :: others, .cons first all⟩

namespace Client

variable {σ : Type} {client : Client σ} {batch : Batch} {before after : World σ}
  {response : Response} {members : List (String × JsonValue)} {entries : List JsonValue}

/-- The reply to a batch is a successful response, and its body is an object with entries for
answers. -/
structure RepliesWith (client : Client σ) (batch : Batch) (before : World σ) (response : Response)
    (members : List (String × JsonValue)) (entries : List JsonValue) (after : World σ) : Prop where
  /-- The response comes back to the request that carries the batch. -/
  responds : client.Responds (.postJson client.root.batchUrl batch.text) before response after
  /-- The response reports success. -/
  isSuccess : response.isSuccess = true
  /-- The body is an object. -/
  isObject : JsonValue.parse? response.body = some (.object members)
  /-- The object holds an array of entries. -/
  carried : members.lookup "responses" = some (.array entries)

/-- The envelope that a reply is read as, if it is one. -/
def replyEnvelope? (status : Nat) (members : List (String × JsonValue)) (entries : List JsonValue) :
    Option (Envelope JsonValue) :=
  Envelope.ofFields status [members.lookup "value", members.lookup "@odata.nextLink",
    members.lookup "@odata.count", some (.array entries)]

/-- A call has the status and the answers of the envelope, or gives the body back. -/
theorem sendBatch_of_repliesWith (standard : client.decoder = .standard)
    (replies : client.RepliesWith batch before response members entries after) :
    client.sendBatch batch before =
      (match replyEnvelope? response.status members entries with
        | some envelope => .ok ⟨envelope.status, envelope.answers⟩
        | none => .error (.decode .malformed (some response.body)), after) := by
  have decoded : client.decoder response =
      (match replyEnvelope? response.status members entries with
        | some envelope => .ok envelope
        | none => .error (.decode .malformed (some response.body))) := by
    rw [standard, ResponseDecoder.standard, Envelope.ofResponse, if_pos replies.isSuccess,
      Envelope.ofBody_of_parse? replies.isObject, replies.carried]
    rfl
  rw [sendBatch]
  simp only [execute_of_responds replies.responds, decoded]
  cases replyEnvelope? response.status members entries <;> rfl

/-- **A call has a result** if the rest of the reply is readable and every entry is an answer. The
result holds these answers in order, beside the status of the reply. -/
theorem sendBatch_ok_iff (standard : client.decoder = .standard)
    (replies : client.RepliesWith batch before response members entries after)
    {result : BatchResponse} :
    (client.sendBatch batch before).1 = .ok result ↔
      result.status = response.status ∧ Envelope.IsReadable members ∧
        List.Forall₂ SubResponse.IsAnswer entries result.answers := by
  have made (envelope : Envelope JsonValue) :
      envelope.IsMadeOf response.status members ↔
        replyEnvelope? response.status members entries = some envelope := by
    rw [replyEnvelope?, ← replies.carried, Envelope.ofFields_eq_some_iff]
  rw [sendBatch_of_repliesWith standard replies, ← Envelope.exists_isMadeOf_iff replies.carried]
  obtain ⟨status, answers⟩ := result
  simp only [made]
  cases replyEnvelope? response.status members entries with
  | none => simp
  | some envelope => simp

/-- Otherwise the call fails and gives the body back. -/
theorem sendBatch_error_iff (standard : client.decoder = .standard)
    (replies : client.RepliesWith batch before response members entries after) :
    (client.sendBatch batch before).1 = .error (.decode .malformed (some response.body)) ↔
      ¬ (Envelope.IsReadable members ∧
        ∀ entry ∈ entries, ∃ answer, SubResponse.IsAnswer entry answer) := by
  have either : (∃ result, (client.sendBatch batch before).1 = .ok result) ∨
      (client.sendBatch batch before).1 = .error (.decode .malformed (some response.body)) := by
    rw [sendBatch_of_repliesWith standard replies]
    cases replyEnvelope? response.status members entries with
    | none => exact .inr rfl
    | some envelope => exact .inl ⟨_, rfl⟩
  rw [← exists_forall₂_iff]
  constructor
  · rintro failed ⟨readable, answers, all⟩
    have given : (client.sendBatch batch before).1 = .ok ⟨response.status, answers⟩ :=
      (sendBatch_ok_iff standard replies).mpr ⟨rfl, readable, all⟩
    rw [failed] at given
    cases given
  · intro unreadable
    rcases either with ⟨result, given⟩ | failed
    · obtain ⟨-, readable, all⟩ := (sendBatch_ok_iff standard replies).mp given
      exact absurd ⟨readable, result.answers, all⟩ unreadable
    · exact failed

/-! ## A service with one response -/

/-- The client of a service that gives the same response to every request. -/
def ofReply (response : Response) : Client Unit where
  root := ⟨"http://x", "c", standardVersion, .standard⟩
  decoration := .none
  transport := ⟨⟨fun _ _ => ⟨.ok response, 0, ()⟩⟩, .never, .disabled⟩
  decoder := .standard

/-- The same response comes back to every request. -/
theorem responds_ofReply (response : Response) (request : Request) (before : World Unit) :
    ∃ after, (ofReply response).Responds request before response after :=
  ⟨_, request, before, rfl, rfl⟩

/-- The members of a reply that has entries and nothing else. -/
def replyMembers (entries : List JsonValue) : List (String × JsonValue) :=
  [("responses", .array entries)]

/-- The response that carries such a reply. -/
def replyOf (entries : List JsonValue) : Response :=
  .ofBody 200 (JsonValue.object (replyMembers entries)).text

/-- The rest of such a reply is readable. -/
theorem isReadable_replyMembers (entries : List JsonValue) :
    Envelope.IsReadable (replyMembers entries) :=
  ⟨nofun, nofun, nofun⟩

/-- The body of such a reply is read back, if its entries are. -/
theorem parse?_replyOf {entries : List JsonValue}
    (fit : ∀ entry ∈ entries, entry.fits (JsonSyntax.maxDepth - 2) = true)
    (sorted : ∀ entry ∈ entries, entry.sorted = entry) :
    JsonValue.parse? (replyOf entries).body = some (.object (replyMembers entries)) := by
  have same : entries.map JsonValue.sorted = entries := by
    rw [List.map_congr_left sorted, List.map_id']
  exact (JsonValue.parse?_text_singleton fit).trans (by rw [same]; rfl)

/-- The service replies to every batch. -/
theorem repliesWith_replyOf {entries : List JsonValue}
    (fit : ∀ entry ∈ entries, entry.fits (JsonSyntax.maxDepth - 2) = true)
    (sorted : ∀ entry ∈ entries, entry.sorted = entry) (batch : Batch) (before : World Unit) :
    ∃ after, (ofReply (replyOf entries)).RepliesWith batch before (replyOf entries)
      (replyMembers entries) entries after := by
  obtain ⟨after, responds⟩ := responds_ofReply (replyOf entries)
    (.postJson (ofReply (replyOf entries)).root.batchUrl batch.text) before
  exact ⟨after, responds, rfl, parse?_replyOf fit sorted, rfl⟩

/-- An entry without headers, with its members in the order of their keys. -/
def entry (id : JsonValue) (status : Nat) (body : JsonValue) : JsonValue :=
  .object [("body", body), ("id", id), ("status", .number (.integer status))]

/-- The members of an entry are in order. -/
theorem sorted_entry (id : JsonValue) (status : Nat) (body : JsonValue) :
    (entry id status body).sorted = entry id.sorted status body.sorted := by
  simp only [entry, JsonValue.sorted, JsonValue.sortedMembers, JsonValue.ofMembers,
    List.foldl_cons, List.foldl_nil, JsonValue.insertMember, String.reduceLT, String.reduceEq,
    if_false]

/-- A body that holds records. -/
def recordsBody (records : List JsonValue) : JsonValue := .object [("value", .array records)]

/-- The members of a body with records are in order. -/
theorem sorted_recordsBody (records : List JsonValue) :
    (recordsBody records).sorted = recordsBody (records.map JsonValue.sorted) := by
  rw [recordsBody, JsonValue.sorted_object_singleton, JsonValue.sorted, JsonValue.sortedItems_eq_map,
    recordsBody]

/-- Such an entry is an answer exactly if its id spells one and its status has 16 bits. -/
theorem isAnswer_entry {id body : JsonValue} {status : Nat} {answer : SubResponse} :
    SubResponse.IsAnswer (entry id status body) answer ↔
      SubResponse.SpellsId id answer.id ∧ status ≤ SubResponse.maxStatus ∧
        answer.status = status ∧ answer.headers = [] ∧ answer.body = body := by
  constructor
  · rintro ⟨⟨_, headers, _, fields, spells, given, isBody⟩, bound⟩
    have found : (entry id status body).fields? SubResponse.fieldNames =
        some [some id, some (.number (.integer status)), none, some body] := rfl
    rw [found] at fields
    simp only [Option.some.injEq, List.cons.injEq, JsonValue.number.injEq,
      JsonNumber.integer.injEq, Int.natCast_inj, and_true] at fields
    obtain ⟨rfl, same, rfl, rfl⟩ := fields
    generalize texts : answer.headers = headers at given
    cases given
    exact ⟨spells, same ▸ bound, same.symm, rfl, isBody⟩
  · obtain ⟨text, _, _, _⟩ := answer
    rintro ⟨spells, bound, rfl, rfl, rfl⟩
    exact ⟨⟨id, none, some _, rfl, spells, .absent, rfl⟩, bound⟩

/-! ## All entries together -/

/-- **A reply is taken as a whole or not at all.** A call has a result exactly if the rest of the reply
is readable and every entry is an answer on its own; the result then holds the answer of every entry, in
order, with the id, the status, the headers and the body that the entry gives. If a single entry is no
answer, whatever the others are, the call fails as a whole and gives the body back. -/
theorem sendBatch_all_or_none (standard : client.decoder = .standard)
    (replies : client.RepliesWith batch before response members entries after) :
    (∀ result, (client.sendBatch batch before).1 = .ok result ↔
      result.status = response.status ∧ Envelope.IsReadable members ∧
        List.Forall₂ SubResponse.IsAnswer entries result.answers) ∧
    ((client.sendBatch batch before).1 = .error (.decode .malformed (some response.body)) ↔
      ¬ (Envelope.IsReadable members ∧
        ∀ entry ∈ entries, ∃ answer, SubResponse.IsAnswer entry answer)) :=
  ⟨fun _ => sendBatch_ok_iff standard replies, sendBatch_error_iff standard replies⟩

/-- Two entries, one of them with a numeric id: the result holds both answers. -/
theorem sendBatch_all_or_none_two_entries :
    let body := recordsBody []
    let entries := [entry (.string "1") 200 body, entry (.number (.integer 2)) 404 body]
    ((ofReply (replyOf entries)).sendBatch .empty (.initial ())).1 =
      .ok ⟨200, [⟨"1", 200, [], body⟩, ⟨"2", 404, [], body⟩]⟩ := by
  intro body entries
  have sorted : ∀ entry ∈ entries, entry.sorted = entry := by
    simp [entries, body, sorted_entry, sorted_recordsBody, JsonValue.sorted]
  obtain ⟨after, replies⟩ := repliesWith_replyOf (by decide) sorted .empty (.initial ())
  obtain ⟨ok, -⟩ := sendBatch_all_or_none rfl replies
  have first : SubResponse.IsAnswer (entry (.string "1") 200 body) ⟨"1", 200, [], body⟩ :=
    isAnswer_entry.mpr ⟨.text "1", by decide, rfl, rfl, rfl⟩
  have second : SubResponse.IsAnswer (entry (.number (.integer 2)) 404 body) ⟨"2", 404, [], body⟩ :=
    isAnswer_entry.mpr ⟨.number 2 (by decide), by decide, rfl, rfl, rfl⟩
  exact (ok _).mpr ⟨rfl, isReadable_replyMembers entries, .cons first (.cons second .nil)⟩

/-- The status of the second entry has more than 16 bits. The first entry is an answer, but the call
fails. -/
theorem sendBatch_loses_answer :
    let body := recordsBody []
    let good := entry (.string "1") 200 body
    let entries := [good, entry (.string "2") 70000 body]
    SubResponse.IsAnswer good ⟨"1", 200, [], body⟩ ∧
      JsonValue.parse? (replyOf entries).body = some (.object [("responses", .array entries)]) ∧
      ∀ batch, ((ofReply (replyOf entries)).sendBatch batch (.initial ())).1 =
        .error (.decode .malformed (some (replyOf entries).body)) := by
  intro body good entries
  have fit : ∀ entry ∈ entries, entry.fits (JsonSyntax.maxDepth - 2) = true := by decide
  have sorted : ∀ entry ∈ entries, entry.sorted = entry := by
    simp [entries, good, body, sorted_entry, sorted_recordsBody, JsonValue.sorted]
  refine ⟨isAnswer_entry.mpr ⟨.text "1", by decide, rfl, rfl, rfl⟩, parse?_replyOf fit sorted, ?_⟩
  intro batch
  obtain ⟨after, replies⟩ := repliesWith_replyOf fit sorted batch (.initial ())
  refine (sendBatch_error_iff rfl replies).mpr ?_
  rintro ⟨-, all⟩
  obtain ⟨answer, isAnswer⟩ := all _ (List.mem_cons_of_mem _ List.mem_cons_self)
  obtain ⟨-, bound, -⟩ := isAnswer_entry.mp isAnswer
  exact absurd bound (by decide)

end Client

end ODataClient
