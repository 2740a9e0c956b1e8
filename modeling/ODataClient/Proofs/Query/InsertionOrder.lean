import Mathlib.Data.List.DropRight
import Mathlib.Data.List.Nodup
import ODataClient.Proofs.Query.LastWrites

/-! # The order of insertion

Options that are set and removed in any order are told from the list of these changes, without running it.
Of the changes of a name only those since its last removal count: the last of them gives the value, and
the first of them the place among the other names.

* **`OptionChange`** — a name set or removed; `QueryOptions.run` is a run of changes.
* **`settings`** — the values a name was set to since its last removal, each with its place among the
  changes; `settings_set`, `settings_remove` and `settings_of_ne` say what one more change does to them.
* **`QueryOptions.get?_run`**, **`QueryOptions.names_run`** — values and order after any changes, by induction
  over the changes.
* **`QueryOptions.InsertionOrdered`** — the whole law, with what one more change does to the entries;
  `QueryOptions.insertionOrdered_run` says that it holds after any changes. -/

namespace ODataClient

/-! ## Changes and their history -/

/-- A change of the options. -/
inductive OptionChange
  /-- A name is set to a value. -/
  | set (name value : String)
  /-- A name is removed. -/
  | remove (name : String)
deriving DecidableEq, Repr

namespace OptionChange

/-- The name that is changed. -/
def name : OptionChange → String
  | set name _ | remove name => name

/-- The value that the name is set to; none if it is removed. -/
def value? : OptionChange → Option String
  | set _ value => some value
  | remove _ => none

/-- The options after a change. -/
def apply (options : QueryOptions) : OptionChange → QueryOptions
  | set name value => options.set name value
  | remove name => options.remove name

theorem apply_eq_assign (options : QueryOptions) (change : OptionChange) :
    change.apply options = options.assign change.name change.value? := by
  cases change <;> rfl

end OptionChange

/-- The options after some changes. -/
def QueryOptions.run (changes : List OptionChange) : QueryOptions :=
  changes.foldl OptionChange.apply .empty

/-- The changes since a name was last removed, each with the number of changes before it. -/
def sinceRemoval (changes : List OptionChange) (name : String) : List (OptionChange × Nat) :=
  changes.zipIdx.rtakeWhile fun change => change.1 != .remove name

/-- The values that a name was set to since it was last removed, each with the number of changes before. -/
def settings (changes : List OptionChange) (name : String) : List (Nat × String) :=
  (sinceRemoval changes name).filterMap fun change =>
    if change.1.name = name then change.1.value?.map (change.2, ·) else none

/-- The value that a name was last set to since it was last removed. -/
def lastSetting? (changes : List OptionChange) (name : String) : Option String :=
  (settings changes name).getLast?.map Prod.snd

/-- The number of changes before a name was first set since it was last removed. -/
def firstSetting? (changes : List OptionChange) (name : String) : Option Nat :=
  (settings changes name).head?.map Prod.fst

/-- Whether one name was first set before another one was, both since they were last removed. -/
def IsSetBefore (changes : List OptionChange) (first second : String) : Prop :=
  ∃ place ∈ firstSetting? changes first, ∃ later ∈ firstSetting? changes second, place < later

/-! ## One more change -/

section OneMoreChange

variable {changes : List OptionChange} {change : OptionChange} {name other : String}

/-- One more change that is no removal of a name comes behind the changes since its last removal. -/
theorem sinceRemoval_concat (kept : change ≠ .remove name) :
    sinceRemoval (changes ++ [change]) name =
      sinceRemoval changes name ++ [(change, changes.length)] := by
  rw [sinceRemoval, List.zipIdx_append, Nat.zero_add]
  exact List.rtakeWhile_concat_pos _ _ _ (bne_iff_ne.mpr kept)

/-- A change of another name leaves the settings as they are. -/
theorem settings_of_ne (other : change.name ≠ name) :
    settings (changes ++ [change]) name = settings changes name := by
  have kept : change ≠ .remove name := by
    rintro rfl
    exact other rfl
  rw [settings, sinceRemoval_concat kept, List.filterMap_append, settings]
  simp [other]

/-- One more setting comes last. -/
theorem settings_set (changes : List OptionChange) (name value : String) :
    settings (changes ++ [.set name value]) name =
      settings changes name ++ [(changes.length, value)] := by
  have kept : OptionChange.set name value ≠ .remove name := nofun
  rw [settings, sinceRemoval_concat kept, List.filterMap_append, settings]
  simp [OptionChange.name, OptionChange.value?]

/-- A removal takes all settings away. -/
theorem settings_remove (changes : List OptionChange) (name : String) :
    settings (changes ++ [.remove name]) name = [] := by
  have none : sinceRemoval (changes ++ [.remove name]) name = [] := by
    rw [sinceRemoval, List.zipIdx_append]
    exact List.rtakeWhile_concat_neg _ _ _ (by simp)
  rw [settings, none, List.filterMap_nil]

theorem lastSetting?_concat :
    lastSetting? (changes ++ [change]) name =
      if name = change.name then change.value? else lastSetting? changes name := by
  by_cases same : name = change.name
  · subst same
    rw [if_pos rfl, lastSetting?]
    cases change with
    | set name value =>
      rw [OptionChange.name, settings_set, List.getLast?_append]
      rfl
    | remove name =>
      rw [OptionChange.name, settings_remove]
      rfl
  · rw [if_neg same, lastSetting?, settings_of_ne (Ne.symm same), lastSetting?]

/-- The place of a setting is among the changes. -/
theorem lt_of_mem_settings {setting : Nat × String} (member : setting ∈ settings changes name) :
    setting.1 < changes.length := by
  obtain ⟨⟨change, place⟩, since, read⟩ := List.mem_filterMap.mp member
  obtain ⟨-, read⟩ := Option.ite_none_right_eq_some.mp read
  obtain ⟨value, -, rfl⟩ := Option.map_eq_some_iff.mp read
  have among : (change, place) ∈ changes.zipIdx := (List.rtakeWhile_suffix _ _).mem since
  exact (List.mem_zipIdx' among).1

theorem lt_of_firstSetting? {place : Nat} (first : place ∈ firstSetting? changes name) :
    place < changes.length := by
  obtain ⟨setting, isHead, rfl⟩ := Option.map_eq_some_iff.mp first
  exact lt_of_mem_settings (List.mem_of_head? isHead)

/-- A name that has been set keeps its place, as long as it is not removed. -/
theorem firstSetting?_concat (isSet : settings changes name ≠ [])
    (kept : change ≠ .remove name) :
    firstSetting? (changes ++ [change]) name = firstSetting? changes name := by
  by_cases same : change.name = name
  · cases change with
    | set other value =>
      obtain rfl : other = name := same
      rw [firstSetting?, settings_set, List.head?_append_of_ne_nil _ isSet, firstSetting?]
    | remove other =>
      obtain rfl : other = name := same
      exact absurd rfl kept
  · rw [firstSetting?, settings_of_ne same, firstSetting?]

/-- A name that is set anew has its place behind all changes before. -/
theorem firstSetting?_of_unset (unset : settings changes name = [])
    (isSet : settings (changes ++ [change]) name ≠ []) :
    firstSetting? (changes ++ [change]) name = some changes.length := by
  by_cases same : change.name = name
  · cases change with
    | set other value =>
      obtain rfl : other = name := same
      rw [firstSetting?, settings_set, unset]
      rfl
    | remove other =>
      obtain rfl : other = name := same
      exact absurd (settings_remove changes other) isSet
  · rw [settings_of_ne same] at isSet
    exact absurd unset isSet

/-- A name that has been set has a place. -/
theorem exists_firstSetting? (isSet : settings changes name ≠ []) :
    ∃ place, place ∈ firstSetting? changes name := by
  obtain ⟨setting, rest, read⟩ := List.exists_cons_of_ne_nil isSet
  refine ⟨setting.1, ?_⟩
  rw [firstSetting?, read]
  rfl

end OneMoreChange

/-! ## Values and order after any changes -/

namespace QueryOptions

variable {options : QueryOptions} {name : String}

theorem run_concat (changes : List OptionChange) (change : OptionChange) :
    run (changes ++ [change]) = change.apply (run changes) := by
  rw [run, List.foldl_append]
  rfl

/-- **A name has the value that it was last set to**, if that was behind its last removal. -/
theorem get?_run (changes : List OptionChange) (name : String) :
    (run changes).get? name = lastSetting? changes name := by
  induction changes using List.reverseRecOn with
  | nil => rfl
  | append_singleton changes change ih =>
    rw [run_concat, OptionChange.apply_eq_assign, get?_assign, ih, lastSetting?_concat]

/-- A name is there if it was set since it was last removed. -/
theorem mem_names_run {changes : List OptionChange} :
    name ∈ (run changes).names ↔ settings changes name ≠ [] := by
  rw [← contains_iff, contains, get?_run, lastSetting?, Option.isSome_map, List.getLast?_isSome]

theorem nodup_names_run (changes : List OptionChange) : (run changes).names.Nodup := by
  induction changes using List.reverseRecOn with
  | nil => exact .nil
  | append_singleton changes change ih =>
    rw [run_concat, OptionChange.apply_eq_assign]
    exact nodup_names_assign change.name change.value? ih

/-- **Names are in the order in which they were first set**, each since its last removal. -/
theorem names_run (changes : List OptionChange) :
    (run changes).names.Pairwise (IsSetBefore changes) := by
  induction changes using List.reverseRecOn with
  | nil => exact .nil
  | append_singleton changes change ih =>
    -- A name that is there before and behind the change keeps its place.
    have kept {name : String} (before : name ∈ (run changes).names)
        (behind : name ∈ (run (changes ++ [change])).names) :
        firstSetting? (changes ++ [change]) name = firstSetting? changes name := by
      refine firstSetting?_concat (mem_names_run.mp before) ?_
      rintro rfl
      exact mem_names_run.mp behind (settings_remove changes name)
    have written : run (changes ++ [change]) =
        (run changes).write (some (change.name, change.value?)) := by
      rw [run_concat, OptionChange.apply_eq_assign]
      rfl
    rw [written]
    refine pairwise_names_write ih ?_ ?_
    · rw [← written]
      intro first isFirst second isSecond firstBehind secondBehind before
      rwa [IsSetBefore, kept isFirst firstBehind, kept isSecond secondBehind]
    · rw [← written]
      intro first known name unset behind isSet
      have new : firstSetting? (changes ++ [change]) name = some changes.length :=
        firstSetting?_of_unset (Classical.not_not.mp (mt mem_names_run.mpr unset))
          (mem_names_run.mp isSet)
      obtain ⟨place, isPlace⟩ := exists_firstSetting? (mem_names_run.mp known)
      rw [IsSetBefore, new, kept known behind]
      exact ⟨place, isPlace, changes.length, rfl, lt_of_firstSetting? isPlace⟩

/-! ## One change of the entries -/

/-- Entries that do not have a name are passed over when it is set. -/
theorem setEntry_append (name value : String) {before : List (String × String)}
    (rest : List (String × String)) (unset : name ∉ before.map Prod.fst) :
    setEntry name value (before ++ rest) = before ++ setEntry name value rest := by
  induction before with
  | nil => rfl
  | cons entry before ih =>
    rw [List.map_cons, List.mem_cons, not_or] at unset
    rw [List.cons_append, setEntry, if_neg (Ne.symm unset.1), ih unset.2, List.cons_append]

/-- A name that is not there is set at the end. -/
theorem entries_set_of_notMem (unset : name ∉ options.names) (value : String) :
    (options.set name value).entries = options.entries ++ [(name, value)] := by
  have passed := setEntry_append name value [] unset
  rwa [List.append_nil] at passed

/-- A name that is not there is removed without a trace. -/
theorem remove_of_notMem (unset : name ∉ options.names) : options.remove name = options := by
  have others : options.entries.filter (·.1 != name) = options.entries := by
    refine List.filter_eq_self.mpr fun entry member => bne_iff_ne.mpr ?_
    rintro rfl
    exact unset (List.mem_map_of_mem member)
  rw [remove, others]

section Held

variable {before after : List (String × String)} {old : String}

/-- With different names, an entry has its name to itself. -/
theorem notMem_beside (distinct : options.names.Nodup)
    (held : options.entries = before ++ (name, old) :: after) :
    name ∉ before.map Prod.fst ∧ name ∉ after.map Prod.fst := by
  rw [names, held, List.map_append, List.map_cons, List.nodup_middle, List.nodup_cons,
    List.mem_append, not_or] at distinct
  exact distinct.1

/-- An entry has the value of its name. -/
theorem mem_entries_iff (distinct : options.names.Nodup) {value : String} :
    (name, value) ∈ options.entries ↔ options.get? name = some value := by
  rw [get?, List.lookup_eq_some_iff]
  constructor
  · intro member
    obtain ⟨before, after, held⟩ := List.append_of_mem member
    refine ⟨before, after, held, fun entry isBefore => bne_iff_ne.mpr ?_⟩
    rintro rfl
    exact (notMem_beside distinct held).1 (List.mem_map_of_mem isBefore)
  · rintro ⟨before, after, held, -⟩
    rw [held]
    exact List.mem_append_right _ List.mem_cons_self

/-- A name that is there is set in its place. -/
theorem entries_set_of_held (distinct : options.names.Nodup)
    (held : options.entries = before ++ (name, old) :: after) (value : String) :
    (options.set name value).entries = before ++ (name, value) :: after := by
  rw [set, held, setEntry_append name value _ (notMem_beside distinct held).1, setEntry, if_pos rfl]

/-- A name that is there is removed, and the other entries stay. -/
theorem entries_remove_of_held (distinct : options.names.Nodup)
    (held : options.entries = before ++ (name, old) :: after) :
    (options.remove name).entries = before ++ after := by
  obtain ⟨unsetBefore, unsetAfter⟩ := notMem_beside distinct held
  have others {entries : List (String × String)} (unset : name ∉ names ⟨entries⟩) :
      entries.filter (·.1 != name) = entries :=
    congrArg QueryOptions.entries (remove_of_notMem unset)
  rw [remove, held, List.filter_append, List.filter_cons_of_neg (by simp), others unsetBefore,
    others unsetAfter]

/-- A name that is removed and set again comes last. -/
theorem entries_set_remove_of_held (distinct : options.names.Nodup)
    (held : options.entries = before ++ (name, old) :: after) (value : String) :
    ((options.remove name).set name value).entries = before ++ after ++ [(name, value)] := by
  have removed := entries_remove_of_held distinct held
  have unset : name ∉ (options.remove name).names := by
    rw [names, removed, List.map_append, List.mem_append, not_or]
    exact notMem_beside distinct held
  rw [entries_set_of_notMem unset, removed]

end Held

/-! ## The law -/

/-- What options are after some changes. -/
structure InsertionOrdered (changes : List OptionChange) (options : QueryOptions) : Prop where
  /-- No name is there twice. -/
  distinct : options.names.Nodup
  /-- A name has the value of its last setting since its last removal, or none. -/
  value : ∀ name, options.get? name = lastSetting? changes name
  /-- It is there if there was such a setting. -/
  present : ∀ name, options.contains name = (lastSetting? changes name).isSome
  /-- The entries are the names with these values. -/
  entry : ∀ name value, (name, value) ∈ options.entries ↔ lastSetting? changes name = some value
  /-- The names are in the order of their first settings since their last removal. -/
  inOrder : options.names.Pairwise (IsSetBefore changes)
  /-- Setting a name that is there replaces its value in place. -/
  replaced : ∀ before name old after, options.entries = before ++ (name, old) :: after →
    ∀ value, (options.set name value).entries = before ++ (name, value) :: after
  /-- Removing it leaves the other entries in order. -/
  removed : ∀ before name old after, options.entries = before ++ (name, old) :: after →
    (options.remove name).entries = before ++ after
  /-- Removing it and setting it again moves it to the end. -/
  moved : ∀ before name old after, options.entries = before ++ (name, old) :: after →
    ∀ value, ((options.remove name).set name value).entries = before ++ after ++ [(name, value)]
  /-- Removing a name that is not there changes nothing. -/
  untouched : ∀ name, options.contains name = false → options.remove name = options

/-- **Options are ordered by insertion.** After any changes they are what the list of changes says. -/
theorem insertionOrdered_run (changes : List OptionChange) :
    InsertionOrdered changes (run changes) where
  distinct := nodup_names_run changes
  value := get?_run changes
  present name := by rw [contains, get?_run]
  entry name value := by rw [mem_entries_iff (nodup_names_run changes), get?_run]
  inOrder := names_run changes
  replaced _ _ _ _ held := entries_set_of_held (nodup_names_run changes) held
  removed _ _ _ _ held := entries_remove_of_held (nodup_names_run changes) held
  moved _ _ _ _ held := entries_set_remove_of_held (nodup_names_run changes) held
  untouched name absent := by
    refine remove_of_notMem fun member => ?_
    rw [contains_iff.mpr member] at absent
    exact Bool.noConfusion absent

/-- A value set again stays in its place; a name removed and set again moves behind the others. -/
example :
    run [.set "$top" "5", .set "$filter" "no eq 1", .set "$top" "10", .remove "$skip",
        .set "$count" "true", .remove "$filter", .set "$filter" "no eq 2"] =
      ⟨[("$top", "10"), ("$count", "true"), ("$filter", "no eq 2")]⟩ := by decide

end QueryOptions

end ODataClient
