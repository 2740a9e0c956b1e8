import ODataClient.Lookup
import ODataClient.Query.Basic

/-! # Cached texts are those of the trees

An entry of the cache outlives the tree that it was rendered from, and is found again by its address.
No text of a dead tree is ever handed out all the same: an entry keeps its address taken, so a slot
that holds a tree at this address holds the tree of the entry.

* **`FilterAction`**, **`step?`**, **`play?`** — what is done with a workspace; `none` for a new tree
  at an address that a slot or an entry still refers to. Any other choice of addresses is allowed.
* **`PlainSlots`** — slots that hold trees without addresses, and render them anew each time.
* **`FilterCache.render_fst`**, **`FilterCache.eq_or_mem_of_mem_render`** — what rendering through a
  cache gives, and where the entries behind it come from.
* **`Sound`** — the invariant of all runs. `Sound.step?` is its step; `Sound.plain_step?` says that
  a workspace does what plain slots do.
* **`play?_eq_plain`** — every run yields what plain slots yield. -/

namespace ODataClient

namespace FilterCache

variable {alive : Nat → Bool} {cache : FilterCache} {shared : SharedExpr}

/-- A text that is kept for an address is the text of an entry. -/
theorem mem_of_lookup_eq_some {address : Nat} {text : String}
    (kept : cache.lookup address = some text) : ⟨address, text⟩ ∈ cache.entries := by
  obtain ⟨entry, found, rfl⟩ := Option.map_eq_some_iff.mp kept
  have named : entry.address = address := by simpa using List.find?_some found
  rw [← named]
  exact List.mem_of_find?_eq_some found

/-- Pruning adds no entries. -/
theorem entries_prune_subset (alive : Nat → Bool) (cache : FilterCache) :
    (cache.prune alive).entries ⊆ cache.entries := by
  rw [prune]
  split
  · exact List.Subset.refl _
  · dsimp only
    split
    · exact fun _ member => (List.mem_filter.mp member).1
    · exact List.nil_subset _

/-- Rendering gives the text of the tree, if the entries at its address have this text. -/
theorem render_fst
    (faithful : ∀ entry ∈ cache.entries, entry.address = shared.address →
      shared.tree.render = .ok entry.text) :
    (cache.render alive shared).1 = shared.tree.render := by
  rw [render]
  split
  · rename_i text kept
    exact (faithful _ (mem_of_lookup_eq_some kept) rfl).symm
  · cases shared.tree.render <;> rfl

/-- Behind rendering, an entry was there before, or has the address and the text of the tree. -/
theorem eq_or_mem_of_mem_render {entry : FilterCacheEntry}
    (member : entry ∈ (cache.render alive shared).2.entries) :
    (entry.address = shared.address ∧ shared.tree.render = .ok entry.text) ∨
      entry ∈ cache.entries := by
  rw [render] at member
  split at member
  · exact .inr member
  · split at member
    · rename_i text rendered
      have inserted := entries_prune_subset alive _ member
      rcases List.mem_append.mp inserted with old | new
      · exact .inr old
      · obtain rfl := List.mem_singleton.mp new
        exact .inl ⟨rfl, rendered⟩
    · exact .inr member

end FilterCache

/-! ## Runs -/

/-- What is done with a workspace. -/
inductive FilterAction
  /-- Put a new tree at an address into a slot. -/
  | put (slot : String) (address : Nat) (tree : Expr)
  /-- Let a slot share the tree of another one. -/
  | share (slot source : String)
  /-- Release the tree in a slot. -/
  | drop (slot : String)
  /-- Ask for the text of the tree in a slot. -/
  | render (slot : String)
  /-- Forget every cached text. -/
  | clear
deriving DecidableEq, Repr

/-- The text or the error that an action asks for, if it asks for one. -/
abbrev FilterAnswer := Option (Except QueryError String)

namespace FilterWorkspace

/-- An action, if it can happen, and its answer. A new tree may have any address that nothing refers
to once the slot has released what it held. -/
def step? (action : FilterAction) (workspace : FilterWorkspace) :
    Option (FilterAnswer × FilterWorkspace) :=
  match action with
  | .put slot address tree =>
    if (workspace.drop slot).isTaken address then none
    else some (none, workspace.put slot address tree)
  | .share slot source => some (none, workspace.share slot source)
  | .drop slot => some (none, workspace.drop slot)
  | .render slot => some (workspace.render slot)
  | .clear => some (none, workspace.clear)

/-- The actions of a run in order, if they can happen, and their answers. -/
def play? : List FilterAction → FilterWorkspace → Option (List FilterAnswer × FilterWorkspace)
  | [], workspace => some ([], workspace)
  | action :: rest, workspace => do
    let (answer, next) ← workspace.step? action
    let (answers, last) ← play? rest next
    return (answer :: answers, last)

/-- A run of one more action at the front is the action and then the rest. -/
theorem play?_cons_eq_some {action : FilterAction} {rest : List FilterAction}
    {workspace last : FilterWorkspace} {answers : List FilterAnswer} :
    workspace.play? (action :: rest) = some (answers, last) ↔
      ∃ answer next others, workspace.step? action = some (answer, next) ∧
        next.play? rest = some (others, last) ∧ answers = answer :: others := by
  simp only [play?, Option.bind_eq_bind, Option.bind_eq_some_iff, Prod.exists, Option.pure_def,
    Option.some.injEq, Prod.mk.injEq]
  constructor
  · rintro ⟨answer, next, stepped, others, _, played, rfl, rfl⟩
    exact ⟨answer, next, others, stepped, played, rfl⟩
  · rintro ⟨answer, next, others, stepped, played, rfl⟩
    exact ⟨answer, next, stepped, others, last, played, rfl, rfl⟩

end FilterWorkspace

/-! ## Slots without a cache -/

/-- The tree that each slot holds. -/
abbrev PlainSlots := String → Option Expr

namespace PlainSlots

/-- No slot holds a tree. -/
def empty : PlainSlots := fun _ => none

/-- Let a slot hold a tree, or none. -/
def assign (slots : PlainSlots) (slot : String) (tree : Option Expr) : PlainSlots :=
  fun name => if name = slot then tree else slots name

/-- An action on slots whose trees are rendered anew each time. Addresses do not matter. -/
def step (action : FilterAction) (slots : PlainSlots) : FilterAnswer × PlainSlots :=
  match action with
  | .put slot _ tree => (none, slots.assign slot (some tree))
  | .share slot source =>
    match slots source with
    | some tree => (none, slots.assign slot (some tree))
    | none => (none, slots)
  | .drop slot => (none, slots.assign slot none)
  | .render slot => ((slots slot).map Expr.render, slots)
  | .clear => (none, slots)

/-- The actions of a run in order, and their answers. -/
def play : List FilterAction → PlainSlots → List FilterAnswer × PlainSlots
  | [], slots => ([], slots)
  | action :: rest, slots =>
    let (answer, next) := slots.step action
    let (answers, last) := play rest next
    (answer :: answers, last)

/-- A run of one more action at the front is the action and then the rest. -/
theorem play_cons (action : FilterAction) (rest : List FilterAction) (slots : PlainSlots) :
    slots.play (action :: rest) =
      ((slots.step action).1 :: ((slots.step action).2.play rest).1,
        ((slots.step action).2.play rest).2) := rfl

end PlainSlots

namespace FilterWorkspace

/-- The trees in the slots of a workspace. -/
def trees (workspace : FilterWorkspace) : PlainSlots :=
  fun slot => (workspace.held slot).map SharedExpr.tree

/-! ## What the slots hold after an operation -/

section Held

variable (workspace : FilterWorkspace) (slot : String)

/-- A slot that is released holds nothing, and the others hold what they held. -/
theorem held_drop (name : String) :
    (workspace.drop slot).held name = if name = slot then none else workspace.held name :=
  lookup_filter_bne workspace.slots slot name

/-- A slot that is filled holds the tree, and the others hold what they held. -/
theorem held_hold (shared : SharedExpr) (name : String) :
    (workspace.hold slot shared).held name =
      if name = slot then some shared else workspace.held name := by
  rw [held, hold, lookup_cons_eq_ite]
  by_cases same : name = slot
  · rw [if_pos same, if_pos same]
  · have others := workspace.held_drop slot name
    rw [if_neg same] at others
    rw [if_neg same, if_neg same]
    exact others

/-- Releasing a slot takes its tree away. -/
theorem trees_drop : (workspace.drop slot).trees = workspace.trees.assign slot none := by
  funext name
  rw [trees, held_drop, PlainSlots.assign, apply_ite (Option.map SharedExpr.tree)]
  rfl

/-- Filling a slot gives it the tree. -/
theorem trees_hold (shared : SharedExpr) :
    (workspace.hold slot shared).trees = workspace.trees.assign slot (some shared.tree) := by
  funext name
  rw [trees, held_hold, PlainSlots.assign, apply_ite (Option.map SharedExpr.tree)]
  rfl

end Held

/-- What a slot holds is in the slots. -/
theorem mem_of_held_eq_some {workspace : FilterWorkspace} {slot : String} {shared : SharedExpr}
    (holds : workspace.held slot = some shared) : (slot, shared) ∈ workspace.slots := by
  obtain ⟨front, back, slots, -⟩ := List.lookup_eq_some_iff.mp holds
  rw [slots]
  exact List.mem_append_cons_self

/-- The text of a tree in a slot comes from the cache. -/
theorem render_of_held {workspace : FilterWorkspace} {slot : String} {shared : SharedExpr}
    (holds : workspace.held slot = some shared) :
    workspace.render slot =
      (some (workspace.cache.render workspace.isAlive shared).1,
        { workspace with cache := (workspace.cache.render workspace.isAlive shared).2 }) := by
  rw [render, holds]

/-- No tree in a slot is at an address that is not taken, and no entry either. -/
theorem ne_of_not_isTaken {workspace : FilterWorkspace} {address : Nat}
    (free : workspace.isTaken address = false) :
    (∀ slot ∈ workspace.slots, slot.2.address ≠ address) ∧
      ∀ entry ∈ workspace.cache.entries, entry.address ≠ address := by
  rw [isTaken, isAlive, Bool.or_eq_false_iff, List.any_eq_false, List.any_eq_false] at free
  constructor
  · intro slot member same
    exact free.1 slot member (beq_iff_eq.mpr same)
  · intro entry member same
    exact free.2 entry member (beq_iff_eq.mpr same)

/-! ## The invariant of all runs -/

/-- What holds of a workspace at every moment of every run. -/
structure Sound (workspace : FilterWorkspace) : Prop where
  /-- Slots with one address hold one tree. -/
  tree_eq : ∀ first ∈ workspace.slots, ∀ second ∈ workspace.slots,
    first.2.address = second.2.address → first.2.tree = second.2.tree
  /-- An entry has the text of every tree that a slot holds at its address. -/
  render_eq : ∀ entry ∈ workspace.cache.entries, ∀ slot ∈ workspace.slots,
    slot.2.address = entry.address → slot.2.tree.render = .ok entry.text

/-- A workspace without trees is sound. -/
theorem sound_empty (capacity : Nat) : (empty capacity).Sound where
  tree_eq := nofun
  render_eq := nofun

namespace Sound

variable {workspace : FilterWorkspace} (sound : workspace.Sound)
include sound

/-- The invariant is kept when slots share what slots held and entries are forgotten. -/
theorem of_subset {next : FilterWorkspace}
    (slots : ∀ slot ∈ next.slots, ∃ old ∈ workspace.slots, old.2 = slot.2)
    (entries : next.cache.entries ⊆ workspace.cache.entries) : next.Sound where
  tree_eq first memberFirst second memberSecond same := by
    obtain ⟨oldFirst, memberFirst, heldFirst⟩ := slots first memberFirst
    obtain ⟨oldSecond, memberSecond, heldSecond⟩ := slots second memberSecond
    rw [← heldFirst, ← heldSecond] at same ⊢
    exact sound.tree_eq oldFirst memberFirst oldSecond memberSecond same
  render_eq entry memberEntry slot memberSlot same := by
    obtain ⟨old, memberOld, held⟩ := slots slot memberSlot
    rw [← held] at same ⊢
    exact sound.render_eq entry (entries memberEntry) old memberOld same

/-- Releasing a slot keeps the invariant. -/
theorem drop (slot : String) : (workspace.drop slot).Sound :=
  sound.of_subset (fun kept member => ⟨kept, (List.mem_filter.mp member).1, rfl⟩)
    (List.Subset.refl _)

/-- Sharing the tree of a slot keeps the invariant. -/
theorem share (slot source : String) : (workspace.share slot source).Sound := by
  rw [FilterWorkspace.share]
  split
  · rename_i shared holds
    refine sound.of_subset (fun kept member => ?_) (List.Subset.refl _)
    rcases List.mem_cons.mp member with rfl | old
    · exact ⟨_, mem_of_held_eq_some holds, rfl⟩
    · exact ⟨kept, (List.mem_filter.mp old).1, rfl⟩
  · exact sound

/-- Forgetting every text keeps the invariant. -/
theorem clear : workspace.clear.Sound :=
  sound.of_subset (fun slot member => ⟨slot, member, rfl⟩) (List.nil_subset _)

/-- A new tree keeps the invariant, since nothing refers to its address. -/
theorem put {slot : String} {address : Nat} (free : (workspace.drop slot).isTaken address = false)
    (tree : Expr) : (workspace.put slot address tree).Sound := by
  obtain ⟨otherSlots, otherEntries⟩ := ne_of_not_isTaken free
  have dropped := sound.drop slot
  constructor
  · intro first memberFirst second memberSecond same
    rcases List.mem_cons.mp memberFirst with rfl | oldFirst <;>
      rcases List.mem_cons.mp memberSecond with rfl | oldSecond
    · rfl
    · exact absurd same.symm (otherSlots second oldSecond)
    · exact absurd same (otherSlots first oldFirst)
    · exact dropped.tree_eq first oldFirst second oldSecond same
  · intro entry memberEntry kept memberKept same
    rcases List.mem_cons.mp memberKept with rfl | old
    · exact absurd same.symm (otherEntries entry memberEntry)
    · exact dropped.render_eq entry memberEntry kept old same

/-- The cache gives the text of the tree in a slot, or its error. -/
theorem render_fst {slot : String} {shared : SharedExpr}
    (holds : workspace.held slot = some shared) (alive : Nat → Bool) :
    (workspace.cache.render alive shared).1 = shared.tree.render :=
  FilterCache.render_fst fun entry member same =>
    sound.render_eq entry member _ (mem_of_held_eq_some holds) same.symm

/-- Rendering keeps the invariant: a new entry has the text of the one tree at its address. -/
theorem render (slot : String) : (workspace.render slot).2.Sound := by
  cases holds : workspace.held slot with
  | none =>
    rw [FilterWorkspace.render, holds]
    exact sound
  | some shared =>
    rw [render_of_held holds]
    refine ⟨sound.tree_eq, fun entry memberEntry kept memberKept same => ?_⟩
    rcases FilterCache.eq_or_mem_of_mem_render memberEntry with ⟨address, rendered⟩ | old
    · have tree := sound.tree_eq kept memberKept _ (mem_of_held_eq_some holds) (same.trans address)
      rw [tree]
      exact rendered
    · exact sound.render_eq entry old kept memberKept same

/-- **Every action keeps the invariant.** -/
theorem step? {action : FilterAction} {answer : FilterAnswer} {next : FilterWorkspace}
    (stepped : workspace.step? action = some (answer, next)) : next.Sound := by
  cases action with
  | put slot address tree =>
    rw [FilterWorkspace.step?] at stepped
    split at stepped
    · cases stepped
    · rename_i free
      cases stepped
      exact sound.put (Bool.not_eq_true _ ▸ free) tree
  | share slot source =>
    cases stepped
    exact sound.share slot source
  | drop slot =>
    cases stepped
    exact sound.drop slot
  | render slot =>
    have rendered := sound.render slot
    rwa [Option.some.inj stepped] at rendered
  | clear =>
    cases stepped
    exact sound.clear

/-- **A workspace does what plain slots do**, whatever its cache holds. -/
theorem plain_step? {action : FilterAction} {answer : FilterAnswer} {next : FilterWorkspace}
    (stepped : workspace.step? action = some (answer, next)) :
    workspace.trees.step action = (answer, next.trees) := by
  cases action with
  | put slot address tree =>
    rw [FilterWorkspace.step?] at stepped
    split at stepped
    · cases stepped
    · cases stepped
      exact congrArg (Prod.mk none) (workspace.trees_hold slot ⟨address, tree⟩).symm
  | share slot source =>
    cases stepped
    rw [PlainSlots.step, FilterWorkspace.share, trees]
    cases holds : workspace.held source with
    | none => rfl
    | some shared => exact congrArg (Prod.mk none) (workspace.trees_hold slot shared).symm
  | drop slot =>
    cases stepped
    exact congrArg (Prod.mk none) (workspace.trees_drop slot).symm
  | render slot =>
    have rendered : workspace.render slot = (answer, next) := Option.some.inj stepped
    rw [PlainSlots.step, trees]
    cases holds : workspace.held slot with
    | none =>
      rw [FilterWorkspace.render, holds] at rendered
      cases rendered
      rfl
    | some shared =>
      rw [render_of_held holds, sound.render_fst holds] at rendered
      cases rendered
      rfl
  | clear =>
    cases stepped
    rfl

/-- **Every run does what plain slots do**, and keeps the invariant. -/
theorem play? {actions : List FilterAction} {answers : List FilterAnswer} {last : FilterWorkspace}
    (played : workspace.play? actions = some (answers, last)) :
    last.Sound ∧ workspace.trees.play actions = (answers, last.trees) := by
  induction actions generalizing workspace answers with
  | nil =>
    cases played
    exact ⟨sound, rfl⟩
  | cons action rest ih =>
    obtain ⟨answer, next, others, stepped, othersPlayed, rfl⟩ := play?_cons_eq_some.mp played
    obtain ⟨kept, same⟩ := ih (sound.step? stepped) othersPlayed
    rw [PlainSlots.play_cons, sound.plain_step? stepped, same]
    exact ⟨kept, rfl⟩

end Sound

/-- **A cache of texts cannot be noticed.** In every run, whatever the capacity and whatever the
addresses of new trees, each text or error that is asked for is that of the tree which the slot holds
at this moment, rendered anew. So a query takes the same filter from the cache as from the tree, or
fails with the same error, and leaves the cache as a rendering does. -/
theorem play?_eq_plain (capacity : Nat) {actions : List FilterAction} {answers : List FilterAnswer}
    {last : FilterWorkspace} (played : (empty capacity).play? actions = some (answers, last)) :
    PlainSlots.empty.play actions = (answers, last.trees) ∧
      ∀ slot shared, last.held slot = some shared → ∀ (query : Query) (alive : Nat → Bool),
        query.filterShared alive last.cache shared =
          (query.filter shared.tree, (last.cache.render alive shared).2) := by
  obtain ⟨sound, same⟩ := (sound_empty capacity).play? played
  refine ⟨same, fun slot shared holds query alive => ?_⟩
  rw [Query.filterShared, Query.filter, ← sound.render_fst holds alive]

/-- A cache of one text, and an address that is used again. The text of the tree `x` is forgotten
when both trees are alive and one text too many is kept; then its address goes to the tree `z`. -/
theorem play?_eq_plain_address_again :
    let x := (FieldName.plain "x").expr
    let y := (FieldName.plain "y").expr
    let z := (FieldName.plain "z").expr
    let actions : List FilterAction :=
      [.put "a" 1 x, .render "a", .share "b" "a", .put "a" 2 y, .render "a", .drop "b",
        .put "c" 1 z, .render "c", .put "b" 3 (.collection []), .render "b", .render "a"]
    let answers : List FilterAnswer :=
      [none, some (.ok "x"), none, none, some (.ok "y"), none, none, some (.ok "z"), none,
        some (.error (.unsupportedExpression "collection")), some (.ok "y")]
    ∃ last, (empty 1).play? actions = some (answers, last) ∧ last.held "c" = some ⟨1, z⟩ ∧
      PlainSlots.empty.play actions = (answers, last.trees) ∧
      (Query.empty.filterShared last.isAlive last.cache ⟨1, z⟩).1 = Query.empty.filter z := by
  intro x y z actions answers
  obtain ⟨last, played, holds⟩ : ∃ last, (empty 1).play? actions = some (answers, last) ∧
      last.held "c" = some ⟨1, z⟩ := ⟨_, rfl, rfl⟩
  obtain ⟨plain, filtered⟩ := play?_eq_plain 1 played
  exact ⟨last, played, holds, plain, congrArg Prod.fst (filtered "c" _ holds .empty _)⟩

end FilterWorkspace

end ODataClient
