import ODataClient.Filter.Render

/-! # Cached filter text
A bounded cache of rendered conditions. An entry belongs to the address of a shared tree and keeps
that address taken, so as long as the entry stays no other tree can have it. When an insertion makes
the cache too large it forgets the entries of trees that nobody holds any more; if that is not
enough it forgets everything. -/

namespace ODataClient

/-- A shared condition tree: where it lives and what it is. -/
structure SharedExpr where
  /-- The address that identifies the tree while anything refers to it. -/
  address : Nat
  /-- The tree. -/
  tree : Expr
deriving DecidableEq, Repr

/-- The rendered text of the tree at an address. -/
structure FilterCacheEntry where
  /-- The address of the tree. -/
  address : Nat
  /-- Its text in the filter grammar. -/
  text : String
deriving DecidableEq, Repr

/-- A bounded cache of rendered conditions. -/
structure FilterCache where
  /-- The largest number of entries kept. -/
  capacity : Nat
  /-- The entries, oldest first. -/
  entries : List FilterCacheEntry
deriving DecidableEq, Repr

namespace FilterCache

/-- An empty cache; a capacity below one counts as one. -/
def empty (capacity : Nat) : FilterCache := ⟨max capacity 1, []⟩

/-- The number of entries. -/
def size (cache : FilterCache) : Nat := cache.entries.length

/-- Forget every entry. -/
def clear (cache : FilterCache) : FilterCache := { cache with entries := [] }

/-- The text kept for an address. -/
def lookup (cache : FilterCache) (address : Nat) : Option String :=
  (cache.entries.find? (·.address == address)).map (·.text)

/-- Add an entry for an address that has none. -/
def insert (cache : FilterCache) (entry : FilterCacheEntry) : FilterCache :=
  { cache with entries := cache.entries ++ [entry] }

/-- Keep a cache within its capacity: first without the entries of dead trees, then empty. -/
def prune (alive : Nat → Bool) (cache : FilterCache) : FilterCache :=
  if cache.size ≤ cache.capacity then cache
  else
    let kept := { cache with entries := cache.entries.filter (alive ·.address) }
    if kept.size ≤ cache.capacity then kept else cache.clear

/-- The text of a shared tree, from the cache or else rendered and then kept. An error is not kept. -/
def render (alive : Nat → Bool) (cache : FilterCache) (shared : SharedExpr) :
    Except QueryError String × FilterCache :=
  match cache.lookup shared.address with
  | some text => (.ok text, cache)
  | none =>
    match shared.tree.render with
    | .ok text => (.ok text, (cache.insert ⟨shared.address, text⟩).prune alive)
    | .error error => (.error error, cache)

end FilterCache

/-- Named slots that hold shared trees, beside a cache of their texts. -/
structure FilterWorkspace where
  /-- The filled slots. -/
  slots : List (String × SharedExpr)
  /-- The cache. -/
  cache : FilterCache
deriving DecidableEq, Repr

namespace FilterWorkspace

/-- A workspace without trees. -/
def empty (capacity : Nat) : FilterWorkspace := ⟨[], .empty capacity⟩

/-- The tree in a slot. -/
def held (workspace : FilterWorkspace) (slot : String) : Option SharedExpr :=
  workspace.slots.lookup slot

/-- Whether a slot holds the tree at an address. -/
def isAlive (workspace : FilterWorkspace) (address : Nat) : Bool :=
  workspace.slots.any (·.2.address == address)

/-- Whether an address is taken: by a tree in a slot or by an entry of the cache. -/
def isTaken (workspace : FilterWorkspace) (address : Nat) : Bool :=
  workspace.isAlive address || workspace.cache.entries.any (·.address == address)

/-- An address above all that are taken. -/
def freshAddress (workspace : FilterWorkspace) : Nat :=
  (workspace.slots.map (·.2.address) ++ workspace.cache.entries.map (·.address)).foldl max 0 + 1

/-- Release the tree in a slot. -/
def drop (workspace : FilterWorkspace) (slot : String) : FilterWorkspace :=
  { workspace with slots := workspace.slots.filter (·.1 != slot) }

/-- Fill a slot with a shared tree in place of what it held. -/
def hold (workspace : FilterWorkspace) (slot : String) (shared : SharedExpr) : FilterWorkspace :=
  let dropped := workspace.drop slot
  { dropped with slots := (slot, shared) :: dropped.slots }

/-- Put a new tree at an address into a slot. -/
def put (workspace : FilterWorkspace) (slot : String) (address : Nat) (tree : Expr) :
    FilterWorkspace :=
  workspace.hold slot ⟨address, tree⟩

/-- Let a slot share the tree of another one. -/
def share (workspace : FilterWorkspace) (slot source : String) : FilterWorkspace :=
  match workspace.held source with
  | some shared => workspace.hold slot shared
  | none => workspace

/-- The text of the tree in a slot, through the cache. -/
def render (workspace : FilterWorkspace) (slot : String) :
    Option (Except QueryError String) × FilterWorkspace :=
  match workspace.held slot with
  | some shared =>
    let (result, cache) := workspace.cache.render workspace.isAlive shared
    (some result, { workspace with cache })
  | none => (none, workspace)

/-- Forget every cached text. -/
def clear (workspace : FilterWorkspace) : FilterWorkspace :=
  { workspace with cache := workspace.cache.clear }

end FilterWorkspace

end ODataClient
