import ODataClient.Proofs.Client.Requests
import ODataClient.Proofs.Json.Values

/-! # What a batch asks for

The body of a batch, read back as JSON, is an object with one element for each query. An element has
the position of its query for an id, and asks for the address that the query alone would be read
from.

* **`Batch.item`** — the request at a position; `Batch.items_ofPaths` says that a batch holds one for
  each path, by induction over the growing list that the ids are counted from.
* **`Batch.element`** — the same request as it is read back; `Batch.sorted_toJson_item` relates the
  two.
* **`Client.batch_read_back`** — the whole body, the request that carries it, and the requests that
  its elements stand for.
-/

namespace ODataClient

namespace Batch

/-! ## Requests of a batch -/

/-- The request at a position that reads a path. -/
def item (position : Nat) (path : String) : BatchItem where
  id := naturalText position
  method := .get
  url := path
  headers := [("Accept", Request.jsonType)]

/-- Added requests have the positions behind those before. -/
theorem items_foldl_add (paths : List String) (batch : Batch) :
    (paths.foldl add batch).items =
      batch.items ++ paths.mapIdx fun index path => item (batch.items.length + index + 1) path := by
  induction paths generalizing batch with
  | nil => rw [List.mapIdx_nil, List.append_nil, List.foldl_nil]
  | cons path rest ih =>
    have added : (batch.add path).items = batch.items ++ [item (batch.items.length + 1) path] := rfl
    rw [List.foldl_cons, ih, List.mapIdx_cons, added, List.append_assoc, List.singleton_append,
      List.length_append, List.length_singleton]
    -- The ids are counted from a list that is longer by one, so the index is shorter by one.
    simp only [Nat.add_assoc, Nat.add_comm 1, Nat.zero_add]

/-- **A batch holds a request for each path**, with its position counted from one. -/
theorem items_ofPaths (paths : List String) :
    (ofPaths paths).items = paths.mapIdx fun index path => item (index + 1) path := by
  rw [ofPaths, items_foldl_add]
  simp only [empty, List.nil_append, List.length_nil, Nat.zero_add]

/-! ## Elements of the body -/

/-- The element at a position that reads a path, with its members in the order of their keys. -/
def element (position : Nat) (path : String) : JsonValue :=
  .object [
    ("headers", .object [("Accept", .string "application/json")]),
    ("id", .string (naturalText position)),
    ("method", .string "GET"),
    ("url", .string path)]

/-- The element of a request is read back with its members in order. -/
theorem sorted_toJson_item (position : Nat) (path : String) :
    (item position path).toJson.sorted = element position path := by
  simp only [BatchItem.toJson, item, element, Method.name, Request.jsonType, List.map_cons,
    List.map_nil, JsonValue.sorted, JsonValue.sortedMembers, JsonValue.ofMembers, List.foldl_cons,
    List.foldl_nil, JsonValue.insertMember, String.reduceLT, String.reduceEq, if_true, if_false]

/-- Elements at different positions have different ids. -/
theorem nodup_ids_elements (paths : List String) :
    ((paths.mapIdx fun index path => element (index + 1) path).map
      fun element => element.fields? ["id"]).Nodup := by
  have id (position : Nat) (path : String) :
      (element position path).fields? ["id"] = some [some (.string (naturalText position))] := rfl
  rw [List.Nodup, List.pairwise_iff_getElem]
  intro first second _ _ before same
  simp only [List.getElem_map, List.getElem_mapIdx, id, Option.some.injEq, List.cons.injEq,
    JsonValue.string.injEq, and_true] at same
  have positions := naturalText_inj same
  omega

/-- **The body of a batch is read back** as its elements in order. -/
theorem parse?_text_ofPaths (paths : List String) :
    JsonValue.parse? (ofPaths paths).text =
      some (.object [("requests",
        .array (paths.mapIdx fun index path => element (index + 1) path))]) := by
  have fit : ∀ value ∈ (ofPaths paths).items.map BatchItem.toJson,
      value.fits (JsonSyntax.maxDepth - 2) = true := by
    intro value isValue
    obtain ⟨request, isRequest, rfl⟩ := List.mem_map.mp isValue
    rw [items_ofPaths] at isRequest
    obtain ⟨index, _, rfl⟩ := List.mem_mapIdx.mp isRequest
    rfl
  have elements : ((ofPaths paths).items.map BatchItem.toJson).map JsonValue.sorted =
      paths.mapIdx fun index path => element (index + 1) path := by
    rw [items_ofPaths, List.map_map]
    refine List.ext_getElem? fun index => ?_
    rw [List.getElem?_map, List.getElem?_mapIdx, List.getElem?_mapIdx, Option.map_map]
    simp only [Function.comp_def, sorted_toJson_item]
  rw [text, toJson, JsonValue.parse?_text_singleton fit, elements]

end Batch

/-! ## The batch of a client -/

namespace Client

variable {σ : Type}

/-- **What a batch asks for.** Sending the batch of some queries submits its text to the address for
batches, and sends nothing else. This text, whatever the names and values of the queries and of the
service root, is read back as an object with one element for each query: the element at a position has
this position for its id, and the path of its query. Reading the query alone reads the address with this
path below the same root, and this address shows all entries of the query, limits included. -/
theorem batch_read_back (client : Client σ) (queries : List (String × Query)) (world : World σ) :
    let batch := client.batchOf queries
    let sent := client.sendBatch batch world
    (∃ url request shown, client.root.TakesBatches url ∧ request.Submits url batch.text ∧
        client.Issues request world sent.1 sent.2 shown) ∧
      ∃ base elements, client.root.IsBase base ∧
        JsonValue.parse? batch.text = some (.object [("requests", .array elements)]) ∧
        elements.length = queries.length ∧
        (elements.map fun element => element.fields? ["id"]).Nodup ∧
        ∀ index entitySet query, queries[index]? = some (entitySet, query) →
          let path := client.root.queryPath entitySet query
          let url := base ++ "/" ++ path
          elements[index]? = some (Batch.element (index + 1) path) ∧
          (∀ steps, query = Query.buildSkipping steps →
            client.root.Addresses (query.entitySet.getD entitySet)
              (query.options.entries ++
                if query.expands = [] then [] else [("$expand", ",".intercalate query.expands)])
              url) ∧
          ∀ {α : Type} (type : RecordType α) (before : World σ), type.entitySet = entitySet →
            let read := client.get type query before
            ∃ request shown, request.Reads url ∧ client.Issues request before read.1 read.2 shown := by
  intro batch sent
  obtain ⟨shown, issues⟩ := client.issues_sendBatch batch world
  refine ⟨⟨_, _, shown, client.root.takesBatches_batchUrl, Request.submits_postJson _ _, issues⟩, _, _,
    client.root.isBase_trimSlashes, Batch.parse?_text_ofPaths _, ?_, Batch.nodup_ids_elements _, ?_⟩
  · rw [List.length_mapIdx, List.length_map]
  · intro index entitySet query isQuery path url
    refine ⟨?_, ?_, ?_⟩
    · rw [List.getElem?_mapIdx, List.getElem?_map, isQuery]
      rfl
    · rintro steps rfl
      exact ServiceRoot.addresses_queryUrl (Query.holds_buildSkipping steps).isEntryName entitySet
    · rintro α type before rfl read
      obtain ⟨shown, issues⟩ := client.issues_fetch type url before
      exact ⟨_, shown, Request.reads_get url, issues⟩

/-- A name that holds a quote, a company that holds a backslash and a root that ends in slashes: the
second element of the batch asks for the path that the query alone is read from, its limit included. -/
theorem batch_read_back_quotes :
    let client : Client (List Outcome) :=
      ⟨⟨"http://x//", "a\\b", "v2.0", .standard⟩, .none,
        ⟨.scripted (.ok (.ofBody 200 "")), .standard, .standard⟩, .standard⟩
    let type := RecordType.untyped "Item"
    let query := Query.buildSkipping [.entitySet "\"Items", .top 5]
    let path := "v2.0/companies(a\\b)/\"Items?$top=5"
    let world := World.initial []
    ∃ elements : List JsonValue,
      JsonValue.parse? (client.batchOf [("Vendors", .empty), (type.entitySet, query)]).text =
          some (.object [("requests", .array elements)]) ∧
        elements[1]? = some (Batch.element 2 path) ∧
        ∃ request shown, request.Reads ("http://x/" ++ path) ∧
          client.Issues request world (client.get type query world).1 (client.get type query world).2
            shown := by
  intro client type query path world
  obtain ⟨-, base, elements, isBase, read, -, -, each⟩ :=
    client.batch_read_back [("Vendors", .empty), (type.entitySet, query)] world
  obtain ⟨element, -, alone⟩ := each 1 type.entitySet query rfl
  obtain ⟨request, shown, reads, issues⟩ := alone type world rfl
  have samePath : client.root.queryPath type.entitySet query = path := by decide
  have sameBase : base = "http://x" := isBase.eq_trimSlashes.trans (by decide)
  rw [samePath] at element reads
  rw [sameBase] at reads
  exact ⟨elements, read, element, request, shown, reads, issues⟩

end Client

end ODataClient
