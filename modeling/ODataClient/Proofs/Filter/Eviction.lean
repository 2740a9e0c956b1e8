import ODataClient.Proofs.Filter.Workspace

/-! # What a cache gives up

A cache of texts has a limit, and what it gives up to stay within it depends on which trees are dead by
then. What it holds behind each action of a run is told here from what it held before, and from the
trees in the slots.

* **`FilterCache.entries_prune_insert_of_lt`**, **`…_of_dead`**, **`…_of_alive`** — what becomes of the
  old entries and a new one: where there is room, where there are dead trees, and where there is neither.
* **`FilterWorkspace.Within`** — the invariant of all runs; `Within.step?` is its step.
* **`FilterWorkspace.TurnsOver`** — the law of one action; `Within.turnsOver` says that actions obey it,
  and `turnsOver_of_play?` that all actions of all runs do. -/

namespace ODataClient

namespace FilterCache

variable {alive : Nat → Bool} {cache : FilterCache}

/-- No text is kept for an address that has no entry. -/
theorem lookup_eq_none_iff {address : Nat} :
    cache.lookup address = none ↔ ∀ entry ∈ cache.entries, entry.address ≠ address := by
  simp only [lookup, Option.map_eq_none_iff, List.find?_eq_none, beq_iff_eq, ne_eq]

/-! ## Pruning -/

/-- Pruning leaves the limit as it is. -/
theorem capacity_prune (alive : Nat → Bool) (cache : FilterCache) :
    (cache.prune alive).capacity = cache.capacity := by
  rw [prune]
  split
  · rfl
  · dsimp only
    split <;> rfl

/-- A new entry is added where there is room. -/
theorem entries_prune_insert_of_lt {entry : FilterCacheEntry} (room : cache.size < cache.capacity) :
    ((cache.insert entry).prune alive).entries = cache.entries ++ [entry] := by
  have size : (cache.insert entry).size = cache.size + 1 := List.length_append
  have fits : (cache.insert entry).size ≤ (cache.insert entry).capacity := size ▸ room
  rw [prune, if_pos fits]
  rfl

section Full

variable {entry : FilterCacheEntry} (full : cache.size = cache.capacity)
  (isAlive : alive entry.address = true)
include full isAlive

/-- A new entry in a full cache has room if fewer entries are left without those of dead trees. -/
theorem entries_prune_insert_of_full :
    ((cache.insert entry).prune alive).entries =
      if (cache.entries.filter (alive ·.address)).length < cache.entries.length then
        cache.entries.filter (alive ·.address) ++ [entry]
      else [] := by
  have size : (cache.insert entry).size = cache.size + 1 := List.length_append
  have capacity : (cache.insert entry).capacity = cache.capacity := rfl
  have exceeds : ¬ (cache.insert entry).size ≤ (cache.insert entry).capacity := by omega
  have kept : (cache.insert entry).entries.filter (alive ·.address) =
      cache.entries.filter (alive ·.address) ++ [entry] := by
    rw [insert, List.filter_append]
    exact congrArg _ (List.filter_cons_of_pos isAlive)
  rw [prune, if_neg exceeds]
  dsimp only
  rw [kept, apply_ite FilterCache.entries, FilterCache.size, List.length_append,
    List.length_singleton, capacity, ← full]
  rfl

/-- If a tree has died, a full cache keeps the entries of living trees and the new one. -/
theorem entries_prune_insert_of_dead (dead : ∃ old ∈ cache.entries, alive old.address ≠ true) :
    ((cache.insert entry).prune alive).entries =
      cache.entries.filter (alive ·.address) ++ [entry] := by
  rw [entries_prune_insert_of_full full isAlive,
    if_pos (List.length_filter_lt_length_iff_exists.mpr dead)]

/-- If all trees are alive, a full cache is emptied, and not even the new entry is kept. -/
theorem entries_prune_insert_of_alive (all : ∀ old ∈ cache.entries, alive old.address = true) :
    ((cache.insert entry).prune alive).entries = [] := by
  have kept : cache.entries.filter (alive ·.address) = cache.entries := List.filter_eq_self.mpr all
  rw [entries_prune_insert_of_full full isAlive, kept, if_neg (Nat.lt_irrefl _)]

end Full

end FilterCache

namespace FilterWorkspace

/-! ## Living trees and texts that are rendered anew -/

/-- Whether a slot holds the tree at an address. -/
def Holds (workspace : FilterWorkspace) (address : Nat) : Prop :=
  ∃ slot shared, workspace.held slot = some shared ∧ shared.address = address

/-- Whether an action asks for the text of a tree that has no entry, and the tree has a text. -/
structure RendersAnew (workspace : FilterWorkspace) (action : FilterAction) (shared : SharedExpr)
    (text : String) : Prop where
  /-- A slot that holds the tree is asked for its text. -/
  asked : ∃ slot, action = .render slot ∧ workspace.held slot = some shared
  /-- The tree has no entry. -/
  unknown : ∀ entry ∈ workspace.cache.entries, entry.address ≠ shared.address
  /-- The tree has this text. -/
  rendered : shared.tree.render = .ok text

/-- A tree that is rendered anew is alive. -/
theorem RendersAnew.holds {workspace : FilterWorkspace} {action : FilterAction}
    {shared : SharedExpr} {text : String} (anew : workspace.RendersAnew action shared text) :
    workspace.Holds shared.address := by
  obtain ⟨slot, -, holds⟩ := anew.asked
  exact ⟨slot, shared, holds, rfl⟩

/-- A text that is rendered anew is kept, and the cache is pruned. -/
theorem RendersAnew.cache_of_step? {workspace next : FilterWorkspace} {action : FilterAction}
    {shared : SharedExpr} {text : String} {answer : FilterAnswer}
    (anew : workspace.RendersAnew action shared text)
    (stepped : workspace.step? action = some (answer, next)) :
    next.cache =
      (workspace.cache.insert ⟨shared.address, text⟩).prune workspace.isAlive := by
  obtain ⟨⟨slot, rfl, holds⟩, unknown, rendered⟩ := anew
  have rendering : workspace.render slot = (answer, next) := Option.some.inj stepped
  rw [render_of_held holds, FilterCache.render, FilterCache.lookup_eq_none_iff.mpr unknown,
    rendered] at rendering
  cases rendering
  rfl

/-- An action that renders nothing anew leaves the cache as it is, unless it clears it. -/
theorem cache_of_step? {workspace next : FilterWorkspace} {action : FilterAction}
    {answer : FilterAnswer} (stepped : workspace.step? action = some (answer, next))
    (noClear : action ≠ .clear)
    (noText : ∀ shared text, ¬ workspace.RendersAnew action shared text) :
    next.cache = workspace.cache := by
  cases action with
  | put slot address tree =>
    rw [step?] at stepped
    split at stepped
    · cases stepped
    · cases stepped
      rfl
  | share slot source =>
    cases stepped
    rw [share]
    split <;> rfl
  | drop slot =>
    cases stepped
    rfl
  | render slot =>
    have rendering : workspace.render slot = (answer, next) := Option.some.inj stepped
    cases holds : workspace.held slot with
    | none =>
      rw [render, holds] at rendering
      cases rendering
      rfl
    | some shared =>
      rw [render_of_held holds] at rendering
      cases rendering
      rw [FilterCache.render]
      split
      · rfl
      · rename_i unknown
        split
        · rename_i text rendered
          have anew : workspace.RendersAnew (.render slot) shared text :=
            ⟨⟨slot, rfl, holds⟩, FilterCache.lookup_eq_none_iff.mp unknown, rendered⟩
          exact absurd anew (noText shared text)
        · rfl
  | clear => exact absurd rfl noClear

/-! ## The invariant of all runs -/

/-- What holds of a workspace at every moment of every run, given the limit of its cache. -/
structure Within (limit : Nat) (workspace : FilterWorkspace) : Prop where
  /-- The limit never changes. -/
  capacity : workspace.cache.capacity = limit
  /-- There are no more entries than that. -/
  bounded : workspace.cache.entries.length ≤ limit
  /-- No tree has two entries. -/
  distinct : (workspace.cache.entries.map (·.address)).Nodup
  /-- No slot is there twice. -/
  named : (workspace.slots.map Prod.fst).Nodup

/-- A workspace without trees is within its limit. -/
theorem within_empty (capacity : Nat) : (empty capacity).Within (max capacity 1) :=
  ⟨rfl, Nat.zero_le _, .nil, .nil⟩

/-- A slot is filled once. -/
theorem nodup_names_hold {workspace : FilterWorkspace} (named : (workspace.slots.map Prod.fst).Nodup)
    (slot : String) (shared : SharedExpr) :
    ((workspace.hold slot shared).slots.map Prod.fst).Nodup := by
  have dropped : ((workspace.drop slot).slots.map Prod.fst).Nodup :=
    named.sublist (List.filter_sublist.map Prod.fst)
  refine List.nodup_cons.mpr ⟨fun member => ?_, dropped⟩
  obtain ⟨entry, kept, same⟩ := List.mem_map.mp member
  have other := (List.mem_filter.mp kept).2
  rw [bne_iff_ne] at other
  exact other same

namespace Within

variable {limit : Nat} {workspace next : FilterWorkspace} (within : workspace.Within limit)
include within

/-- A tree is alive as long as a slot holds it. -/
theorem isAlive_iff {address : Nat} :
    workspace.isAlive address = true ↔ workspace.Holds address := by
  rw [isAlive, List.any_eq_true]
  constructor
  · rintro ⟨⟨slot, shared⟩, member, same⟩
    -- What stands beside a name is what the slot holds, since no name stands there twice.
    exact ⟨slot, shared, lookup_eq_some_of_mem within.named member, beq_iff_eq.mp same⟩
  · rintro ⟨slot, shared, holds, same⟩
    exact ⟨(slot, shared), mem_of_held_eq_some holds, beq_iff_eq.mpr same⟩

variable {action : FilterAction} {answer : FilterAnswer}
  (stepped : workspace.step? action = some (answer, next))

section Anew

variable {shared : SharedExpr} {text : String} (anew : workspace.RendersAnew action shared text)
include stepped anew

/-- **What becomes of the entries when a text is rendered anew.** -/
theorem entries_of_rendersAnew :
    (workspace.cache.entries.length < limit ∧
        next.cache.entries = workspace.cache.entries ++ [⟨shared.address, text⟩]) ∨
      (workspace.cache.entries.length = limit ∧
        (∃ entry ∈ workspace.cache.entries, ¬ workspace.Holds entry.address) ∧
        next.cache.entries = workspace.cache.entries.filter (workspace.isAlive ·.address) ++
          [⟨shared.address, text⟩]) ∨
      (workspace.cache.entries.length = limit ∧
        (∀ entry ∈ workspace.cache.entries, workspace.Holds entry.address) ∧
        next.cache.entries = []) := by
  have isAlive := within.isAlive_iff.mpr anew.holds
  rw [anew.cache_of_step? stepped]
  rcases Nat.lt_or_eq_of_le within.bounded with room | full
  · exact .inl ⟨room, FilterCache.entries_prune_insert_of_lt (within.capacity.symm ▸ room)⟩
  · have size : workspace.cache.size = workspace.cache.capacity := full.trans within.capacity.symm
    by_cases dead : ∃ entry ∈ workspace.cache.entries, ¬ workspace.Holds entry.address
    · obtain ⟨entry, member, unheld⟩ := dead
      have died : workspace.isAlive entry.address ≠ true := mt within.isAlive_iff.mp unheld
      exact .inr (.inl ⟨full, ⟨entry, member, unheld⟩,
        FilterCache.entries_prune_insert_of_dead size isAlive ⟨entry, member, died⟩⟩)
    · have all : ∀ entry ∈ workspace.cache.entries, workspace.Holds entry.address :=
        fun entry member => Classical.not_not.mp fun unheld => dead ⟨entry, member, unheld⟩
      have alive := fun entry member => within.isAlive_iff.mpr (all entry member)
      exact .inr (.inr ⟨full, all, FilterCache.entries_prune_insert_of_alive size isAlive alive⟩)

/-- A text that is rendered anew leaves no more entries than the limit. -/
theorem length_le_of_rendersAnew : next.cache.entries.length ≤ limit := by
  rcases within.entries_of_rendersAnew stepped anew with
    ⟨room, kept⟩ | ⟨full, ⟨entry, member, unheld⟩, kept⟩ | ⟨-, -, kept⟩
  · rw [kept, List.length_append]
    exact room
  · -- At least one entry is given up, which makes room for the new one.
    have died : workspace.isAlive entry.address ≠ true := mt within.isAlive_iff.mp unheld
    have fewer : (workspace.cache.entries.filter (workspace.isAlive ·.address)).length <
        workspace.cache.entries.length :=
      List.length_filter_lt_length_iff_exists.mpr ⟨entry, member, died⟩
    rw [kept, List.length_append, ← full]
    exact fewer
  · rw [kept]
    exact Nat.zero_le limit

/-- A text that is rendered anew leaves one entry for each tree. -/
theorem nodup_of_rendersAnew :
    (next.cache.entries.map FilterCacheEntry.address).Nodup := by
  let entry : FilterCacheEntry := ⟨shared.address, text⟩
  have added :
      ((workspace.cache.entries ++ [entry]).map FilterCacheEntry.address).Nodup := by
    rw [List.map_append, List.nodup_append]
    refine ⟨within.distinct, by simp, fun address member other isNew => ?_⟩
    obtain ⟨old, known, rfl⟩ := List.mem_map.mp member
    rw [List.mem_singleton.mp isNew]
    exact anew.unknown old known
  -- Whatever is given up, a part of these is left.
  refine added.sublist (List.Sublist.map _ ?_)
  rcases within.entries_of_rendersAnew stepped anew with ⟨-, kept⟩ | ⟨-, -, kept⟩ | ⟨-, -, kept⟩
  · exact kept ▸ List.Sublist.refl _
  · rw [kept]
    exact List.filter_sublist.append (List.Sublist.refl _)
  · rw [kept]
    exact List.nil_sublist _

end Anew

include stepped

/-- The slots have different names behind every action. -/
theorem nodup_names_of_step? : (next.slots.map Prod.fst).Nodup := by
  cases action with
  | put slot address tree =>
    rw [FilterWorkspace.step?] at stepped
    split at stepped
    · cases stepped
    · cases stepped
      exact nodup_names_hold within.named slot ⟨address, tree⟩
  | share slot source =>
    cases stepped
    rw [share]
    split
    · exact nodup_names_hold within.named slot _
    · exact within.named
  | drop slot =>
    cases stepped
    exact within.named.sublist (List.filter_sublist.map Prod.fst)
  | render slot =>
    have rendering : workspace.render slot = (answer, next) := Option.some.inj stepped
    rw [render] at rendering
    split at rendering <;> cases rendering <;> exact within.named
  | clear =>
    cases stepped
    exact within.named

/-- **Every action keeps the invariant.** -/
theorem step? : next.Within limit := by
  have named := within.nodup_names_of_step? stepped
  -- Only clearing and a new text change the entries.
  by_cases clears : action = .clear
  · subst clears
    cases stepped
    exact ⟨within.capacity, Nat.zero_le limit, .nil, named⟩
  by_cases anew : ∃ shared text, workspace.RendersAnew action shared text
  · obtain ⟨shared, text, anew⟩ := anew
    refine ⟨?_, within.length_le_of_rendersAnew stepped anew,
      within.nodup_of_rendersAnew stepped anew, named⟩
    rw [anew.cache_of_step? stepped, FilterCache.capacity_prune]
    exact within.capacity
  · have same := cache_of_step? stepped clears fun shared text is => anew ⟨shared, text, is⟩
    refine ⟨?_, ?_, ?_, named⟩
    · exact same ▸ within.capacity
    · exact same ▸ within.bounded
    · exact same ▸ within.distinct

omit stepped

/-- **Every run keeps the invariant.** -/
theorem play? {actions : List FilterAction} {answers : List FilterAnswer}
    (played : workspace.play? actions = some (answers, next)) : next.Within limit := by
  induction actions generalizing workspace answers with
  | nil =>
    cases played
    exact within
  | cons action rest ih =>
    obtain ⟨answer, between, others, stepped, othersPlayed, rfl⟩ := play?_cons_eq_some.mp played
    exact ih (within.step? stepped) othersPlayed

end Within

/-! ## The law of one action -/

/-- What a cache with a limit holds behind an action, told from what it held before it and from the
trees in the slots. -/
structure TurnsOver (limit : Nat) (before : FilterWorkspace) (action : FilterAction)
    (after : FilterWorkspace) : Prop where
  /-- There are no more entries than the limit. -/
  bounded : after.cache.entries.length ≤ limit
  /-- No tree has two entries. -/
  distinct : (after.cache.entries.map FilterCacheEntry.address).Nodup
  /-- Putting, sharing and releasing trees leave the cache as it is. -/
  untouched : (∀ slot, action ≠ .render slot) → action ≠ .clear → after.cache = before.cache
  /-- Clearing forgets every entry. -/
  cleared : action = .clear → after.cache.entries = []
  /-- The text of a tree that has an entry leaves the cache as it is. -/
  hit : ∀ slot shared, action = .render slot → before.held slot = some shared →
    (∃ entry ∈ before.cache.entries, entry.address = shared.address) → after.cache = before.cache
  /-- So does a tree that has no text. -/
  failed : ∀ slot shared error, action = .render slot → before.held slot = some shared →
    shared.tree.render = .error error → after.cache = before.cache
  /-- A new text is added where there is room. -/
  added : ∀ shared text, before.RendersAnew action shared text →
    before.cache.entries.length < limit →
      after.cache.entries = before.cache.entries ++ [⟨shared.address, text⟩]
  /-- In a full cache, if a tree has died, it takes the place of all entries of dead trees. -/
  pruned : ∀ shared text, before.RendersAnew action shared text →
    before.cache.entries.length = limit →
    (∃ entry ∈ before.cache.entries, ¬ before.Holds entry.address) →
      ∀ entry, entry ∈ after.cache.entries ↔
        entry ∈ before.cache.entries ∧ before.Holds entry.address ∨
          entry = ⟨shared.address, text⟩
  /-- In a full cache of living trees, it makes the cache forget every entry and is not kept. -/
  emptied : ∀ shared text, before.RendersAnew action shared text →
    before.cache.entries.length = limit →
    (∀ entry ∈ before.cache.entries, before.Holds entry.address) → after.cache.entries = []
  /-- The entry of a living tree is lost only if the cache is cleared, or if it is full of living
  trees and a text of another living tree is new. -/
  lost : ∀ entry ∈ before.cache.entries, before.Holds entry.address →
    entry ∉ after.cache.entries →
      action = .clear ∨
        ∃ shared text, before.RendersAnew action shared text ∧
          before.cache.entries.length = limit ∧
          (∀ other ∈ before.cache.entries, before.Holds other.address) ∧
          before.Holds shared.address

/-- **Every action obeys the law** within the invariant. -/
theorem Within.turnsOver {limit : Nat} {before after : FilterWorkspace} {action : FilterAction}
    {answer : FilterAnswer} (within : before.Within limit)
    (stepped : before.step? action = some (answer, after)) : before.TurnsOver limit action after where
  bounded := (within.step? stepped).bounded
  distinct := (within.step? stepped).distinct
  untouched := by
    intro noRender noClear
    refine cache_of_step? stepped noClear fun shared text anew => ?_
    obtain ⟨slot, asks, -⟩ := anew.asked
    exact noRender slot asks
  cleared := by
    rintro rfl
    cases stepped
    rfl
  hit := by
    rintro slot shared rfl holds ⟨entry, known, same⟩
    refine cache_of_step? stepped nofun fun other text anew => ?_
    obtain ⟨_, asks, holdsOther⟩ := anew.asked
    cases asks
    obtain rfl : shared = other := Option.some.inj (holds.symm.trans holdsOther)
    exact anew.unknown entry known same
  failed := by
    rintro slot shared error rfl holds fails
    refine cache_of_step? stepped nofun fun other text anew => ?_
    obtain ⟨_, asks, holdsOther⟩ := anew.asked
    cases asks
    obtain rfl : shared = other := Option.some.inj (holds.symm.trans holdsOther)
    cases fails.symm.trans anew.rendered
  added := by
    intro shared text anew room
    rcases within.entries_of_rendersAnew stepped anew with ⟨-, kept⟩ | ⟨full, -⟩ | ⟨full, -⟩
    · exact kept
    · exact absurd full (Nat.ne_of_lt room)
    · exact absurd full (Nat.ne_of_lt room)
  pruned := by
    rintro shared text anew full ⟨dead, known, unheld⟩ entry
    rcases within.entries_of_rendersAnew stepped anew with
      ⟨room, -⟩ | ⟨-, -, kept⟩ | ⟨-, all, -⟩
    · exact absurd full (Nat.ne_of_lt room)
    · rw [kept, List.mem_append, List.mem_filter, List.mem_singleton, within.isAlive_iff]
    · exact absurd (all dead known) unheld
  emptied := by
    intro shared text anew full all
    rcases within.entries_of_rendersAnew stepped anew with
      ⟨room, -⟩ | ⟨-, ⟨dead, known, unheld⟩, -⟩ | ⟨-, -, kept⟩
    · exact absurd full (Nat.ne_of_lt room)
    · exact absurd (all dead known) unheld
    · exact kept
  lost := by
    intro entry known holds gone
    by_cases clears : action = .clear
    · exact .inl clears
    by_cases anew : ∃ shared text, before.RendersAnew action shared text
    · obtain ⟨shared, text, anew⟩ := anew
      rcases within.entries_of_rendersAnew stepped anew with
        ⟨-, kept⟩ | ⟨-, -, kept⟩ | ⟨full, all, -⟩
      · refine absurd ?_ gone
        rw [kept]
        exact List.mem_append_left _ known
      · refine absurd ?_ gone
        rw [kept]
        exact List.mem_append_left _ (List.mem_filter.mpr ⟨known, within.isAlive_iff.mpr holds⟩)
      · exact .inr ⟨shared, text, anew, full, all, anew.holds⟩
    · have same := cache_of_step? stepped clears fun shared text is => anew ⟨shared, text, is⟩
      exact absurd (same ▸ known) gone

/-- **A cache keeps within its limit, and gives up no more than it must.** Behind any run, with any
addresses of new trees, each action obeys the law of turnover: there are never more entries than the
capacity, which counts as one if it is less, and never two of one tree; only a new text makes a full
cache give up entries, those of dead trees if there are any, and else all. -/
theorem turnsOver_of_play? (capacity : Nat) {actions : List FilterAction}
    {answers : List FilterAnswer} {before after : FilterWorkspace} {action : FilterAction}
    {answer : FilterAnswer} (played : (empty capacity).play? actions = some (answers, before))
    (stepped : before.step? action = some (answer, after)) :
    before.TurnsOver (max capacity 1) action after :=
  ((within_empty capacity).play? played).turnsOver stepped

/-- A cache of two texts that is full of one living and one dead tree, and a third tree. -/
theorem turnsOver_of_play?_dead_tree :
    let tree (name : String) := (FieldName.plain name).expr
    let actions : List FilterAction :=
      [.put "a" 1 (tree "x"), .render "a", .put "b" 2 (tree "y"), .render "b", .share "c" "b",
        .put "a" 3 (tree "z")]
    ∃ answers before answer after, (empty 2).play? actions = some (answers, before) ∧
      before.step? (.render "a") = some (answer, after) ∧
      before.TurnsOver 2 (.render "a") after ∧
      before.cache.entries = [⟨1, "x"⟩, ⟨2, "y"⟩] ∧ after.cache.entries = [⟨2, "y"⟩, ⟨3, "z"⟩] := by
  intro tree actions
  obtain ⟨answers, before, played, answer, after, stepped, held, kept⟩ :
      ∃ answers before, (empty 2).play? actions = some (answers, before) ∧
        ∃ answer after, before.step? (.render "a") = some (answer, after) ∧
          before.cache.entries = [⟨1, "x"⟩, ⟨2, "y"⟩] ∧
          after.cache.entries = [⟨2, "y"⟩, ⟨3, "z"⟩] :=
    ⟨_, _, rfl, _, _, rfl, rfl, rfl⟩
  exact ⟨answers, before, answer, after, played, stepped, turnsOver_of_play? 2 played stepped, held,
    kept⟩

end FilterWorkspace

end ODataClient
