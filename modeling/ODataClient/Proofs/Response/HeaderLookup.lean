import ODataClient.Proofs.Json.Values
import ODataClient.Response.SubResponse

/-! # Headers in any order

The headers of an answer are a map from names to values, and nothing says in which order a map gives its
entries. Names that differ in case only are different names of the map, but a lookup takes the first of
them that it meets. So what it finds may depend on the order, and here it is said when it does.

* **`SubResponse.Carries`** — the values under the spellings of a name.
* **`SubResponse.exists_header?_iff`** — over all orders a lookup finds these values and no others.
* **`SubResponse.header?_by_order`** — the order makes no difference exactly if there is at most one such
  value.
* **`SubResponse.header?_two_orders`** — an answer with two of them. -/

namespace ODataClient.SubResponse

/-- Two names are spellings of one another if they agree up to the case of ASCII letters. -/
def SpelledAlike (first second : String) : Prop :=
  first.toList.map Char.toLower = second.toList.map Char.toLower

instance (first second : String) : Decidable (SpelledAlike first second) :=
  inferInstanceAs (Decidable (_ = _))

/-- An answer carries a value under some spelling of a name. -/
def Carries (answer : SubResponse) (name value : String) : Prop :=
  ∃ spelling, (spelling, value) ∈ answer.headers ∧ SpelledAlike spelling name

/-- An answer whose headers are met in some order. -/
def inOrder (answer : SubResponse) (headers : List (String × String)) : SubResponse :=
  { answer with headers }

variable {answer : SubResponse} {name value : String} {headers : List (String × String)}

/-- A lookup compares names as spellings. -/
theorem equalIgnoringAsciiCase_iff {first second : String} :
    Text.equalIgnoringAsciiCase first second = true ↔ SpelledAlike first second := by
  rw [Text.equalIgnoringAsciiCase, beq_iff_eq, ← String.toList_inj, Text.toList_asciiLower,
    Text.toList_asciiLower, SpelledAlike]

/-- The order of the headers says nothing about what an answer carries. -/
theorem carries_inOrder_iff (reordered : headers.Perm answer.headers) :
    (answer.inOrder headers).Carries name value ↔ answer.Carries name value :=
  exists_congr fun _ => and_congr_left fun _ => reordered.mem_iff

/-- What a lookup finds is carried. -/
theorem carries_of_header?_eq_some (found : answer.header? name = some value) :
    answer.Carries name value := by
  obtain ⟨header, first, rfl⟩ := Option.map_eq_some_iff.mp found
  have alike := List.find?_some first
  exact ⟨header.1, List.mem_of_find?_eq_some first, equalIgnoringAsciiCase_iff.mp alike⟩

/-- A lookup finds nothing if nothing is carried. -/
theorem header?_eq_none_iff : answer.header? name = none ↔ ∀ value, ¬ answer.Carries name value := by
  rw [header?, Option.map_eq_none_iff, List.find?_eq_none]
  constructor
  · rintro unseen value ⟨spelling, listed, alike⟩
    exact unseen (spelling, value) listed (equalIgnoringAsciiCase_iff.mpr alike)
  · rintro bare ⟨spelling, value⟩ listed alike
    exact bare value ⟨spelling, listed, equalIgnoringAsciiCase_iff.mp alike⟩

/-- **A lookup finds any value that is carried, in some order**, and in no order any other. -/
theorem exists_header?_iff :
    (∃ headers, headers.Perm answer.headers ∧
        (answer.inOrder headers).header? name = some value) ↔ answer.Carries name value := by
  constructor
  · rintro ⟨headers, reordered, found⟩
    exact (carries_inOrder_iff reordered).mp (carries_of_header?_eq_some found)
  · rintro ⟨spelling, listed, alike⟩
    obtain ⟨before, after, split⟩ := List.append_of_mem listed
    refine ⟨(spelling, value) :: (before ++ after), ?_, ?_⟩
    · rw [split]
      exact List.perm_middle.symm
    · have first : ((spelling, value) :: (before ++ after)).find?
          (Text.equalIgnoringAsciiCase ·.1 name) = some (spelling, value) :=
        List.find?_cons_of_pos (equalIgnoringAsciiCase_iff.mpr alike)
      rw [header?, inOrder, first, Option.map_some]

/-- A lookup that finds nothing in one order finds nothing in any. -/
theorem header?_inOrder_eq_none_iff (reordered : headers.Perm answer.headers) :
    (answer.inOrder headers).header? name = none ↔ ∀ value, ¬ answer.Carries name value := by
  rw [header?_eq_none_iff]
  exact forall_congr' fun _ => not_congr (carries_inOrder_iff reordered)

/-- **The order makes no difference** if no two different values are carried, and otherwise it does. -/
theorem header?_inOrder_eq_iff :
    (∀ headers, headers.Perm answer.headers →
        (answer.inOrder headers).header? name = answer.header? name) ↔
      ∀ first second, answer.Carries name first → answer.Carries name second → first = second := by
  constructor
  · intro fixed first second carriesFirst carriesSecond
    obtain ⟨headers, reordered, found⟩ := exists_header?_iff.mpr carriesFirst
    obtain ⟨others, reorderedToo, foundToo⟩ := exists_header?_iff.mpr carriesSecond
    rw [fixed headers reordered] at found
    rw [fixed others reorderedToo] at foundToo
    exact Option.some.inj (found.symm.trans foundToo)
  · intro single headers reordered
    cases found : (answer.inOrder headers).header? name with
    | none =>
      exact (header?_eq_none_iff.mpr ((header?_inOrder_eq_none_iff reordered).mp found)).symm
    | some value =>
      have carries : answer.Carries name value := exists_header?_iff.mp ⟨headers, reordered, found⟩
      cases direct : answer.header? name with
      | none => exact absurd carries (header?_eq_none_iff.mp direct value)
      | some other => rw [single value other carries (carries_of_header?_eq_some direct)]

/-- **Headers in any order.** Over all orders in which the headers of an answer may be met, a lookup finds
the values that the answer carries under the spellings of the name, and no others; it finds nothing in one
order if it does in all of them. The order makes no difference exactly if no two different values are
carried. -/
theorem header?_by_order (answer : SubResponse) (name : String) :
    (∀ value, (∃ headers, headers.Perm answer.headers ∧
        (answer.inOrder headers).header? name = some value) ↔ answer.Carries name value) ∧
    (∀ headers, headers.Perm answer.headers →
      ((answer.inOrder headers).header? name = none ↔ ∀ value, ¬ answer.Carries name value)) ∧
    ((∀ headers, headers.Perm answer.headers →
        (answer.inOrder headers).header? name = answer.header? name) ↔
      ∀ first second, answer.Carries name first → answer.Carries name second → first = second) :=
  ⟨fun _ => exists_header?_iff, fun _ => header?_inOrder_eq_none_iff, header?_inOrder_eq_iff⟩

/-- Two spellings of one name with the same value: every order gives it. -/
theorem header?_by_order_same_value :
    let answer : SubResponse := ⟨"1", 200, [("ETag", "a"), ("X", "b"), ("etag", "a")], .null⟩
    ∀ headers, headers.Perm answer.headers → (answer.inOrder headers).header? "Etag" = some "a" := by
  intro answer headers reordered
  have only : ∀ header ∈ answer.headers, SpelledAlike header.1 "Etag" → header.2 = "a" := by decide
  have carried {value : String} : answer.Carries "Etag" value → value = "a" := by
    rintro ⟨spelling, listed, alike⟩
    exact only (spelling, value) listed alike
  obtain ⟨found, -, fixed⟩ := header?_by_order answer "Etag"
  have same := fixed.mpr fun first second isFirst isSecond =>
    (carried isFirst).trans (carried isSecond).symm
  obtain ⟨others, reorderedToo, isFound⟩ := (found "a").mpr ⟨"ETag", by decide, by decide⟩
  rw [same headers reordered, ← same others reorderedToo, isFound]

/-- An entry with two spellings of one name. -/
def spelledTwice : JsonValue :=
  .object [("headers", .object [("Retry-After", .string "5"), ("retry-after", .string "120")]),
    ("id", .string "1"), ("status", .number (.integer 200))]

/-- **The order can make a difference.** An entry with two spellings of one name is read from a text, and
each of the two orders gives another value. -/
theorem header?_two_orders :
    JsonValue.parse? spelledTwice.text = some spelledTwice ∧
    ∃ answer, ofValue? spelledTwice = some answer ∧
      ¬ ∀ headers, headers.Perm answer.headers →
        (answer.inOrder headers).header? "retry-after" = answer.header? "retry-after" := by
  have sorted : spelledTwice.sorted = spelledTwice := by
    simp only [spelledTwice, JsonValue.sorted, JsonValue.sortedMembers, JsonValue.ofMembers,
      List.foldl_cons, List.foldl_nil, JsonValue.insertMember, String.reduceLT, String.reduceEq,
      if_false]
  refine ⟨?_, ⟨"1", 200, [("Retry-After", "5"), ("retry-after", "120")], .null⟩, rfl, fun fixed => ?_⟩
  · rw [JsonValue.parse?_text_of_fits (by decide), sorted]
  · have same := header?_inOrder_eq_iff.mp fixed "5" "120" ⟨"Retry-After", by decide, by decide⟩
      ⟨"retry-after", by decide, by decide⟩
    exact absurd same (by decide)

end ODataClient.SubResponse
