import ODataClient.Client.Basic

/-! # Pages
The pages of a query are read in order: the first at the address of the query, every other one at the
address that the continuation link of the page before it leads to. The service decides on the size of
pages, so the limits on the outer query are left out. -/

namespace ODataClient

/-- A position among the pages of a query. -/
structure Pages where
  /-- The address of the next page; none if there is no next page. -/
  nextUrl : Option String
  /-- The number of pages read so far. -/
  fetched : Nat
deriving DecidableEq, Repr

namespace Client

variable {σ α : Type}

/-- The position before the first page of a query. -/
def pages (client : Client σ) (type : RecordType α) (query : Query) : Pages :=
  ⟨some (client.root.queryUrl type.entitySet query.withoutPaging), 0⟩

/-- The position behind a page that was read, and the page; the cause why not, if its link leads
nowhere. -/
def follow (client : Client σ) (fetched : Nat) (page : Envelope α) :
    Except Error (Envelope α) × Pages :=
  match page.nextLink with
  | none => (.ok page, ⟨none, fetched⟩)
  | some link =>
    match client.resolveLink link with
    | .ok url => (.ok page, ⟨some url, fetched⟩)
    | .error error => (.error error, ⟨none, fetched⟩)

/-- Read the next page, if there is one. Nothing follows an error. -/
def nextPage (client : Client σ) (type : RecordType α) (pages : Pages) (world : World σ) :
    Option (Except Error (Envelope α)) × Pages × World σ :=
  match pages.nextUrl with
  | none => (none, pages, world)
  | some url =>
    match client.fetch type url world with
    | (.error error, world) => (some (.error error), ⟨none, pages.fetched⟩, world)
    | (.ok page, world) =>
      let (result, pages) := client.follow (pages.fetched + 1) page
      (some result, pages, world)

@[simp] theorem nextPage_exhausted (client : Client σ) (type : RecordType α) (fetched : Nat)
    (world : World σ) :
    client.nextPage type ⟨none, fetched⟩ world = (none, ⟨none, fetched⟩, world) := rfl

/-- What reading on yields, at most a number of times and up to the first time that there is nothing;
beside each result the number of pages read by then. -/
def readOn (client : Client σ) (type : RecordType α) :
    Nat → Pages → World σ → List (Option (Except Error (Envelope α)) × Nat) × World σ
  | 0, _, world => ([], world)
  | times + 1, pages, world =>
    match client.nextPage type pages world with
    | (none, pages, world) => ([(none, pages.fetched)], world)
    | (some result, pages, world) =>
      let (results, world) := readOn client type times pages world
      ((some result, pages.fetched) :: results, world)

/-- The records of the pages that are left, behind those read before, or the first error. Between
pages the reading ends when it is cancelled in the world of that moment. None if `fuel` pages are not
enough. -/
def collect (client : Client σ) (type : RecordType α) (isCancelled : World σ → Bool) :
    Nat → List α → Pages → World σ → Option (Except Error (List α) × World σ)
  | 0, _, _, _ => none
  | fuel + 1, records, pages, world =>
    if isCancelled world then some (.ok records, world)
    else
      match client.nextPage type pages world with
      | (none, _, world) => some (.ok records, world)
      | (some (.error error), _, world) => some (.error error, world)
      | (some (.ok page), pages, world) =>
        collect client type isCancelled fuel (records ++ page.records) pages world

/-- The records of all pages of a query, or the first error; those of the pages read so far, if the
reading is cancelled. None if `fuel` pages are not enough. -/
def getAllUnless (client : Client σ) (type : RecordType α) (isCancelled : World σ → Bool)
    (fuel : Nat) (query : Query) (world : World σ) : Option (Except Error (List α) × World σ) :=
  client.collect type isCancelled fuel [] (client.pages type query) world

/-- The records of all pages of a query, or the first error. None if `fuel` pages are not enough. -/
def getAll (client : Client σ) (type : RecordType α) (fuel : Nat) (query : Query)
    (world : World σ) : Option (Except Error (List α) × World σ) :=
  client.getAllUnless type (fun _ => false) fuel query world

end Client

end ODataClient
