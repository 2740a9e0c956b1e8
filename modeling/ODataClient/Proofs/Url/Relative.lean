import Mathlib.Data.List.Basic
import ODataClient.Url.Parse

/-! # Relative texts

A text without a scheme names an address against a base. Most such texts lead down from the directory of
the base: parts of a path, and a query behind them. What they name is written as the directory with the
text behind it, and what cannot stand there is percent-encoded.

* **`takeWhile_append_of_head`** — the text in front of a mark, and the one from there on.
* **`IsOrdinary`** — parts that are nothing but names; `resolvePath_intercalate` adds them to a path.
* **`PathText`** — parts of a path and a query, as they are written; `PathText.withPath_text` reads them.
* **`Descent`** — texts that lead down from a directory; `Descent.join_text` says what they name.
* **`SameService`** — what a relative text keeps of the base unless it begins with two slashes;
  `exists_join_sameService`. -/

namespace ODataClient

/-! ## Texts between marks -/

-- There are finitely many characters, but what holds of those of a text is decided along the text.
instance (priority := high) decidableForallChars (chars : List Char) (condition : Char → Prop)
    [DecidablePred condition] : Decidable (∀ char ∈ chars, condition char) :=
  List.decidableBAll condition chars

/-- What stands in front of the first element that does not satisfy a condition, and what stands from
there on. -/
theorem takeWhile_append_of_head {α : Type} {condition : α → Bool} {front : List α} (back : List α)
    (inFront : ∀ item ∈ front, condition item = true)
    (ends : ∀ item ∈ back.head?, condition item = false) :
    (front ++ back).takeWhile condition = front ∧ (front ++ back).dropWhile condition = back := by
  rw [List.takeWhile_append_of_pos inFront, List.dropWhile_append_of_pos inFront]
  cases back with
  | nil => simp
  | cons item rest =>
    have stops : condition item = false := ends item rfl
    simp [stops]

/-- What is dropped at the front does not end before a mark that comes later only. -/
theorem dropWhile_append_ne_cons {α : Type} {condition : α → Bool} {mark : α} {front back : List α}
    (free : mark ∉ front) (stops : ∀ item ∈ back.head?, condition item = false ∧ item ≠ mark) :
    ∀ rest, (front ++ back).dropWhile condition ≠ mark :: rest := by
  induction front with
  | nil =>
    intro rest same
    cases back with
    | nil => cases same
    | cons item others =>
      obtain ⟨outside, noMark⟩ := stops item rfl
      rw [List.nil_append, List.dropWhile_cons_of_neg (by simp [outside])] at same
      exact noMark (List.cons.inj same).1
  | cons item others ih =>
    rw [List.mem_cons, not_or] at free
    intro rest same
    rw [List.cons_append, List.dropWhile_cons] at same
    split at same
    · exact ih free.2 rest same
    · exact free.1 (List.cons.inj same).1.symm

/-- What holds of the separator and of all elements of the parts holds of the joined parts. -/
theorem forall_mem_intercalate {α : Type} {condition : α → Prop} {separator : α}
    {parts : List (List α)} (between : condition separator)
    (inside : ∀ part ∈ parts, ∀ item ∈ part, condition item) :
    ∀ item ∈ [separator].intercalate parts, condition item := by
  induction parts with
  | nil => simp
  | cons part rest ih =>
    rw [List.forall_mem_cons] at inside
    cases rest with
    | nil => simpa using inside.1
    | cons next others =>
      have behind := ih inside.2
      simp only [List.intercalate_cons_cons, List.mem_append, List.mem_singleton]
      rintro item ((inPart | rfl) | inRest)
      · exact inside.1 item inPart
      · exact between
      · exact behind item inRest

namespace Url

/-! ## Visible texts -/

/-- Whether a character is neither a blank nor a control character of ASCII. -/
def isVisible (char : Char) : Bool := 32 < char.toNat

/-- A visible text has nothing to trim. -/
theorem trim_of_visible {text : String} (visible : ∀ char ∈ text.toList, isVisible char = true) :
    trim text = text.toList := by
  have kept {chars : List Char} (visible : ∀ char ∈ chars, isVisible char = true) :
      chars.dropWhile (fun char => decide (char.toNat ≤ 32)) = chars := by
    cases chars with
    | nil => rfl
    | cons char rest =>
      have first : 32 < char.toNat := of_decide_eq_true (visible char List.mem_cons_self)
      simp [first]
  have reversed : ∀ char ∈ text.toList.reverse, isVisible char = true := by simpa using visible
  rw [trim, kept visible, kept reversed, List.reverse_reverse]

/-- A visible text has nothing to pass over. -/
theorem withoutBreaks_of_visible {chars : List Char}
    (visible : ∀ char ∈ chars, isVisible char = true) : withoutBreaks chars = chars := by
  refine List.filter_eq_self.mpr fun char member => ?_
  have above : 32 < char.toNat := of_decide_eq_true (visible char member)
  have noBreak (other : Char) (low : other.toNat ≤ 32) : char ≠ other := by
    rintro rfl
    omega
  simp [isBreak, noBreak '\t' (by decide), noBreak '\n' (by decide),
    noBreak '\r' (by decide)]

/-- Nothing is encoded in a text that is free of the characters to be encoded. -/
theorem encode_of_free {isEncoded : Char → Bool} {chars : List Char}
    (free : ∀ char ∈ chars, isEncoded char = false) : encode isEncoded chars = String.ofList chars := by
  rw [encode]
  congr 1
  induction chars with
  | nil => rfl
  | cons char rest ih =>
    rw [List.forall_mem_cons] at free
    simp [free.1, ih free.2]

/-! ## Parts of a path -/

/-- A part of a path that is none but its name: it has no blanks, no slashes and no end of a path in it,
and is not written with dots alone. -/
structure IsOrdinary (part : String) : Prop where
  /-- Its characters are visible, and none ends a part. -/
  inside : ∀ char ∈ part.toList, isVisible char = true ∧ endsAuthority true char = false
  /-- It does not stand for the directory itself. -/
  noDot : isDot (segmentText part.toList) = false
  /-- It does not stand for the directory above. -/
  noDoubleDot : isDoubleDot (segmentText part.toList) = false

/-- Whether a text is one of some others in lower case can be read off its characters. -/
theorem contains_asciiLower (texts : List String) (text : String) :
    texts.contains (Text.asciiLower text) =
      (texts.map String.toList).contains (text.toList.map Char.toLower) := by
  rw [Bool.eq_iff_iff, List.contains_iff_mem, List.contains_iff_mem, ← Text.toList_asciiLower,
    List.mem_map_of_injective fun _ _ => String.toList_inj.mp]

instance (part : String) : Decidable (IsOrdinary part) :=
  let chars := (segmentText part.toList).toList.map Char.toLower
  decidable_of_iff
    ((∀ char ∈ part.toList, isVisible char = true ∧ endsAuthority true char = false) ∧
      ([".", "%2e"].map String.toList).contains chars = false ∧
      (["..", ".%2e", "%2e.", "%2e%2e"].map String.toList).contains chars = false)
    (by
      rw [← contains_asciiLower, ← contains_asciiLower]
      exact ⟨fun ⟨inside, noDot, noDoubleDot⟩ => ⟨inside, noDot, noDoubleDot⟩,
        fun ⟨inside, noDot, noDoubleDot⟩ => ⟨inside, noDot, noDoubleDot⟩⟩)

/-- Ordinary parts are added to a path one by one. -/
theorem addSegments_of_ordinary {parts : List String} (ordinary : ∀ part ∈ parts, IsOrdinary part)
    (before : List String) :
    addSegments false before (parts.map String.toList) =
      before ++ parts.map fun part => segmentText part.toList := by
  induction parts generalizing before with
  | nil => simp [addSegments]
  | cons part rest ih =>
    rw [List.forall_mem_cons] at ordinary
    obtain ⟨⟨-, noDot, noDoubleDot⟩, others⟩ := ordinary
    have entered : enterSegment false before part.toList = before ++ [segmentText part.toList] := by
      simp [enterSegment, keptSegments, noDot, noDoubleDot]
    cases rest with
    | nil => simp [addSegments, entered, noDot, noDoubleDot]
    | cons next others' =>
      rw [List.map_cons, List.map_cons, addSegments, entered, ← List.map_cons, ih others]
      · simp
      · simp

/-- The schemes of the web are special, and none is the one of files. -/
theorem isSpecialScheme_of_isWeb {scheme : String} (isWeb : (defaultPort? scheme).isSome = true) :
    isFileScheme scheme = false ∧ isSpecialScheme scheme = true := by
  constructor
  · refine beq_eq_false_iff_ne.mpr ?_
    rintro rfl
    cases isWeb
  · rw [isSpecialScheme, isWeb, Bool.or_true]

/-- No character of an ordinary part is a slash or ends a path. -/
theorem IsOrdinary.not_mem {part : String} (ordinary : IsOrdinary part) {char : Char}
    (ends : endsAuthority true char = true) : char ∉ part.toList := fun member =>
  Bool.false_ne_true ((ordinary.inside char member).2.symm.trans ends)

/-- **Joined parts are added to a path one by one** under the schemes of the web. -/
theorem resolvePath_intercalate {scheme : String} (isWeb : (defaultPort? scheme).isSome = true)
    {parts : List String} (filled : parts ≠ []) (ordinary : ∀ part ∈ parts, IsOrdinary part)
    (before : List String) :
    resolvePath scheme before (['/'].intercalate (parts.map String.toList)) =
      before ++ parts.map fun part => segmentText part.toList := by
  obtain ⟨noFile, special⟩ := isSpecialScheme_of_isWeb isWeb
  -- A backslash would be read as a slash, but ordinary parts hold neither.
  have slashes : ∀ char ∈ ['/'].intercalate (parts.map String.toList),
      (if isSlash true char then '/' else char) = char := by
    refine forall_mem_intercalate (by rfl) ?_
    simp only [List.forall_mem_map]
    intro part member char inside
    have noSlash := ((ordinary part member).inside char inside).2
    rw [endsAuthority, Bool.or_eq_false_iff] at noSlash
    rw [noSlash.1, if_neg Bool.false_ne_true]
  have apart : splitAtSlashes true (['/'].intercalate (parts.map String.toList)) =
      parts.map String.toList := by
    rw [splitAtSlashes, List.map_congr_left slashes, List.map_id']
    refine Text.splitAtChar_intercalate ?_ (by simpa using filled)
    simp only [List.forall_mem_map]
    exact fun part member => (ordinary part member).not_mem (by rfl)
  simp only [resolvePath, noFile, special, apart, Bool.false_eq_true, if_false]
  exact addSegments_of_ordinary ordinary before

/-! ## Behind a slash -/

/-- What is written behind a slash: parts of a path, and a query behind them. -/
structure PathText where
  /-- The parts. -/
  parts : List String
  /-- The query, if there is one. -/
  query : Option String
  /-- There is a part. -/
  filled : parts ≠ []
  /-- The parts are ordinary. -/
  ordinary : ∀ part ∈ parts, IsOrdinary part
  /-- The query is visible, and no fragment begins in it. -/
  queried : ∀ text ∈ query, ∀ char ∈ text.toList, isVisible char = true ∧ char ≠ '#'

namespace PathText

/-- The text itself. -/
def text (written : PathText) : String :=
  "/".intercalate written.parts ++ markedText "?" written.query

/-- The parts with what is encoded in a path percent-encoded. -/
def encodedParts (written : PathText) : List String :=
  written.parts.map fun part => encode encodedInPath part.toList

/-- The query with what is encoded in a query percent-encoded. -/
def encodedQuery (written : PathText) : Option String :=
  written.query.map fun text => encode (encodedInQuery true) text.toList

/-- The text with its parts and its query encoded. -/
def encodedText (written : PathText) : String :=
  "/".intercalate written.encodedParts ++ markedText "?" written.encodedQuery

/-- Nothing of a text is encoded if no character of it is encoded in its place. -/
theorem encoded_of_free {written : PathText}
    (path : ∀ part ∈ written.parts, ∀ char ∈ part.toList, encodedInPath char = false)
    (query : ∀ text ∈ written.query, ∀ char ∈ text.toList, encodedInQuery true char = false) :
    written.encodedParts = written.parts ∧ written.encodedQuery = written.query := by
  constructor
  · refine (List.map_congr_left fun part member => ?_).trans (List.map_id _)
    rw [encode_of_free (path part member), String.ofList_toList, id]
  · cases isQuery : written.query with
    | none => rw [encodedQuery, isQuery, Option.map_none]
    | some text =>
      rw [encodedQuery, isQuery, Option.map_some, encode_of_free (query text isQuery),
        String.ofList_toList]

variable (written : PathText)

/-- The characters of the path. -/
def pathChars : List Char := ['/'].intercalate (written.parts.map String.toList)

/-- The characters behind the path. -/
def queryChars : List Char := (markedText "?" written.query).toList

/-- The text is its path and what is behind it. -/
theorem toList_text : written.text.toList = written.pathChars ++ written.queryChars := by
  rw [text, String.toList_append, String.toList_intercalate]
  rfl

/-- The path is visible and holds neither a backslash nor an end of a path. -/
theorem inside_pathChars : ∀ char ∈ written.pathChars,
    isVisible char = true ∧ char ≠ '\\' ∧ endsPath char = false := by
  refine forall_mem_intercalate (by decide) ?_
  simp only [List.forall_mem_map]
  intro part member char inside
  obtain ⟨visible, ends⟩ := (written.ordinary part member).inside char inside
  rw [endsAuthority, isSlash, Bool.or_eq_false_iff, Bool.or_eq_false_iff] at ends
  exact ⟨visible, by simpa using ends.1.2, ends.2⟩

/-- What is behind the path is visible. -/
theorem visible_queryChars : ∀ char ∈ written.queryChars, isVisible char = true := by
  rw [queryChars]
  cases isQuery : written.query with
  | none => simp [markedText]
  | some text =>
    have mark : "?".toList = ['?'] := rfl
    rw [markedText, String.toList_append, mark, List.singleton_append, List.forall_mem_cons]
    exact ⟨by decide, fun char member => (written.queried text isQuery char member).1⟩

/-- What is behind the path begins with the end of a path. -/
theorem head_queryChars : ∀ char ∈ written.queryChars.head?, char = '?' := by
  rw [queryChars]
  cases written.query with
  | none => simp [markedText]
  | some text =>
    have mark : "?".toList = ['?'] := rfl
    simp [markedText, mark]

/-- The text is visible. -/
theorem visible_text : ∀ char ∈ written.text.toList, isVisible char = true := by
  rw [written.toList_text]
  intro char member
  rcases List.mem_append.mp member with inPath | inQuery
  · exact (written.inside_pathChars char inPath).1
  · exact written.visible_queryChars char inQuery

/-- The end of an address as it is read from behind the path. -/
theorem tail_queryChars {scheme : String} (special : isSpecialScheme scheme = true) :
    tail scheme written.queryChars = (written.encodedQuery, none) := by
  rw [tail, withoutBreaks_of_visible written.visible_queryChars, special, queryChars, encodedQuery]
  cases isQuery : written.query with
  | none => rfl
  | some text =>
    have mark : "?".toList = ['?'] := rfl
    have inside : ∀ char ∈ text.toList, (char != '#') = true := fun char member =>
      bne_iff_ne.mpr (written.queried text isQuery char member).2
    obtain ⟨query, fragment⟩ := takeWhile_append_of_head [] inside (by simp)
    rw [List.append_nil] at query fragment
    simp only [markedText, String.toList_append, mark, List.singleton_append, query, fragment,
      Option.map_some]

/-- The parts of a text are added to the path of the address that it is read behind, and the query
comes from the text. -/
theorem withPath_text {url : Url} (isWeb : (defaultPort? url.scheme).isSome = true)
    (before : List String) :
    url.withPath before written.text.toList =
      { url with
        path := .segments (before ++ written.encodedParts)
        query := written.encodedQuery
        fragment := none } := by
  have inPath : ∀ char ∈ written.pathChars, (!endsPath char) = true := fun char member => by
    rw [(written.inside_pathChars char member).2.2, Bool.not_false]
  have behind : ∀ char ∈ written.queryChars.head?, (!endsPath char) = false := by
    intro char head
    rw [written.head_queryChars char head]
    rfl
  obtain ⟨path, rest⟩ := takeWhile_append_of_head _ inPath behind
  have encoded : (written.parts.map fun part => segmentText part.toList) = written.encodedParts := by
    refine List.map_congr_left fun part member => ?_
    have visible := fun char inside => ((written.ordinary part member).inside char inside).1
    rw [segmentText, withoutBreaks_of_visible visible]
  have resolved := resolvePath_intercalate isWeb written.filled written.ordinary before
  simp only [withPath, written.toList_text, path, rest, withTail,
    written.tail_queryChars (isSpecialScheme_of_isWeb isWeb).2]
  rw [pathChars, resolved, encoded]

end PathText

/-! ## Down from a directory -/

/-- A text that leads down from a directory. -/
structure Descent extends PathText where
  /-- The first part is not empty, and no scheme ends in it. -/
  begins : ∃ first rest, parts = first :: rest ∧ first ≠ "" ∧ ':' ∉ first.toList

/-- An address of the web that is a directory: a slash is at its end, and nothing behind it. -/
structure IsDirectory (base : Url) (segments : List String) : Prop where
  /-- The scheme is one of the web. -/
  isWeb : (defaultPort? base.scheme).isSome = true
  /-- There is a host. -/
  hosted : base.host.isSome = true
  /-- Behind the segments of the path is an empty one. -/
  path_eq : base.path = .segments (segments ++ [""])
  /-- There is no query. -/
  query_eq : base.query = none
  /-- There is no fragment. -/
  fragment_eq : base.fragment = none

/-- With a host, a path is written with a slash in front of each segment. -/
theorem pathText_of_hosted (url : Url) (hosted : url.host.isSome = true) {segments : List String}
    (path : url.path = .segments segments) : url.pathText = String.join (segments.map ("/" ++ ·)) := by
  have noPlace : url.host ≠ none := Option.isSome_iff_ne_none.mp hosted
  simp [pathText, path, noPlace]

/-- Segments with a slash in front of each are joined segments behind a slash. -/
theorem join_map_slash {segments : List String} (filled : segments ≠ []) :
    String.join (segments.map ("/" ++ ·)) = "/" ++ "/".intercalate segments := by
  induction segments with
  | nil => exact absurd rfl filled
  | cons segment rest ih =>
    cases rest with
    | nil => simp
    | cons next others =>
      rw [List.map_cons, String.join_cons, ih (by simp), String.intercalate_cons_cons]
      simp only [String.append_assoc]

namespace IsDirectory

variable {base : Url} {segments : List String}

/-- What a text behind a directory names is written as the directory with the parts of the path and the
query behind it. -/
theorem text_append (directory : base.IsDirectory segments) {parts : List String}
    (filled : parts ≠ []) (query : Option String) :
    text { base with path := .segments (segments ++ parts), query } =
      base.text ++ ("/".intercalate parts ++ markedText "?" query) := by
  have before : base.pathText = String.join (segments.map ("/" ++ ·)) ++ "/" := by
    rw [pathText_of_hosted base directory.hosted directory.path_eq, List.map_append, String.join_append]
    simp
  have behind : pathText { base with path := .segments (segments ++ parts), query } =
      String.join (segments.map ("/" ++ ·)) ++ ("/" ++ "/".intercalate parts) := by
    rw [pathText_of_hosted { base with path := .segments (segments ++ parts), query }
      directory.hosted rfl, List.map_append, String.join_append, join_map_slash filled]
  rw [text, text, behind, before, directory.query_eq, directory.fragment_eq]
  simp only [markedText, authorityText, String.append_assoc, String.append_empty]

end IsDirectory

namespace Descent

variable {base : Url} {segments : List String} (descent : Descent)

/-- The path begins with a character that is neither a slash nor the end of a path. -/
theorem exists_pathChars_eq_cons :
    ∃ char rest, descent.pathChars = char :: rest ∧ endsAuthority true char = false := by
  obtain ⟨first, others, isParts, filled, -⟩ := descent.begins
  have ordinary := descent.ordinary first (isParts ▸ List.mem_cons_self)
  obtain ⟨char, rest, isFirst⟩ : ∃ char rest, first.toList = char :: rest :=
    List.exists_cons_of_ne_nil (mt String.toList_eq_nil_iff.mp filled)
  have inside := (ordinary.inside char (isFirst ▸ List.mem_cons_self)).2
  rw [PathText.pathChars, isParts, List.map_cons, isFirst]
  cases others with
  | nil => exact ⟨char, rest, by simp, inside⟩
  | cons next others => exact ⟨char, _, by rw [List.map_cons, List.intercalate_cons_cons]; rfl, inside⟩

/-- **A text that leads down from a directory** names the address with its parts behind the segments of
the directory. -/
theorem join_eq (directory : base.IsDirectory segments) :
    join base descent.text = .ok
      { base with
        path := .segments (segments ++ descent.encodedParts)
        query := descent.encodedQuery } := by
  obtain ⟨noFile, special⟩ := isSpecialScheme_of_isWeb directory.isWeb
  obtain ⟨first, rest, isPath, ordinary⟩ := descent.exists_pathChars_eq_cons
  have chars : descent.text.toList = first :: (rest ++ descent.queryChars) := by
    rw [descent.toList_text, isPath, List.cons_append]
  rw [endsAuthority, endsPath, Bool.or_eq_false_iff, Bool.or_eq_false_iff, beq_eq_false_iff_ne,
    beq_eq_false_iff_ne] at ordinary
  obtain ⟨noSlash, noQuery, noFragment⟩ := ordinary
  have hierarchical : base.isOpaque = false := by rw [isOpaque, directory.path_eq]
  have before : base.pathSegments.dropLast = segments := by
    simp [pathSegments, directory.path_eq]
  -- The first character shows that this is no query, no fragment and no path from the root.
  have relative : readRelative base descent.text.toList =
      .ok (base.withPath segments descent.text.toList) := by
    rw [chars]
    unfold readRelative
    split
    · contradiction
    · rename_i same
      exact absurd (List.cons.inj same).1 noQuery
    · rename_i same
      exact absurd (List.cons.inj same).1 noFragment
    · rename_i same
      cases same
      rw [noSlash, special, before]
      rfl
  have noHash : descent.text.toList.head? ≠ some '#' := by
    rw [chars]
    simpa using noFragment
  rw [join, trim_of_visible descent.visible_text, if_neg noHash, hierarchical,
    if_neg Bool.false_ne_true, noFile, if_neg Bool.false_ne_true,
    withoutBreaks_of_visible descent.visible_text, relative, descent.withPath_text directory.isWeb,
    directory.fragment_eq]

/-- It is written as the directory with the encoded text behind it. -/
theorem join_text (directory : base.IsDirectory segments) :
    (join base descent.text).map Url.text = .ok (base.text ++ descent.encodedText) := by
  have filled : descent.encodedParts ≠ [] := mt List.map_eq_nil_iff.mp descent.filled
  rw [descent.join_eq directory, Except.map, directory.text_append filled]
  rfl

/-- A text that leads down from a directory names nothing by itself. -/
theorem parse_text : parse descent.text = .error .missingBase := by
  obtain ⟨first, others, isParts, -, noColon⟩ := descent.begins
  let isInside : Char → Bool := fun char => isSchemeChar char || isBreak char
  -- Behind the first part comes a slash or the question mark of the query.
  obtain ⟨back, chars, stops⟩ : ∃ back, descent.text.toList = first.toList ++ back ∧
      ∀ char ∈ back.head?, isInside char = false ∧ char ≠ ':' := by
    rw [descent.toList_text, PathText.pathChars, isParts, List.map_cons]
    cases others with
    | nil =>
      refine ⟨descent.queryChars, by simp, fun char head => ?_⟩
      rw [descent.head_queryChars char head]
      decide
    | cons next others =>
      refine ⟨'/' :: (['/'].intercalate ((next :: others).map String.toList) ++ descent.queryChars), ?_,
        by simpa using by decide⟩
      rw [List.map_cons, List.intercalate_cons_cons]
      simp
  have noScheme : splitScheme? descent.text.toList = none := by
    rw [splitScheme?]
    split
    · rename_i rest _ ends
      rw [chars] at ends
      exact absurd ends (dropWhile_append_ne_cons noColon stops rest)
    · rfl
  rw [parse, trim_of_visible descent.visible_text, noScheme]

end Descent

/-! ## The service of a base -/

/-- Two addresses are those of one service: they differ in what is behind the host and port only. -/
structure SameService (url base : Url) : Prop where
  /-- The schemes are the same. -/
  scheme_eq : url.scheme = base.scheme
  /-- The names of users are the same. -/
  userInfo_eq : url.userInfo = base.userInfo
  /-- The hosts are the same. -/
  host_eq : url.host = base.host
  /-- The ports are the same. -/
  port_eq : url.port = base.port

/-- A text begins with two slashes, of either kind. -/
def BeginsWithSlashes (text : String) : Prop :=
  ∃ first second rest, withoutBreaks (trim text) = first :: second :: rest ∧
    isSlash true first = true ∧ isSlash true second = true

/-- A path is read below the service. -/
theorem sameService_withPath (base : Url) (before : List String) (chars : List Char) :
    (base.withPath before chars).SameService base := ⟨rfl, rfl, rfl, rfl⟩

/-- **A relative text keeps the service of the base**, and always names an address, unless it begins with
two slashes. -/
theorem exists_join_sameService {base : Url} (hierarchical : base.isOpaque = false)
    (noFile : isFileScheme base.scheme = false) {text : String} (single : ¬ BeginsWithSlashes text) :
    ∃ url, join base text = .ok url ∧ url.SameService base := by
  rw [join]
  split
  · exact ⟨_, rfl, rfl, rfl, rfl, rfl⟩
  · rw [hierarchical, if_neg Bool.false_ne_true, noFile, if_neg Bool.false_ne_true]
    unfold readRelative
    split
    · exact ⟨_, rfl, rfl, rfl, rfl, rfl⟩
    · exact ⟨_, rfl, rfl, rfl, rfl, rfl⟩
    · exact ⟨_, rfl, rfl, rfl, rfl, rfl⟩
    · rename_i first behind _ _ chars
      split
      · rename_i isFirst
        split
        · rename_i second rest
          have noSlash : ¬ isSlash true second = true := fun isSecond =>
            single ⟨first, second, rest, chars, isFirst, isSecond⟩
          rw [if_neg noSlash]
          exact ⟨_, rfl, sameService_withPath _ _ _⟩
        · exact ⟨_, rfl, sameService_withPath _ _ _⟩
      · dsimp only
        split
        · exact ⟨_, rfl, sameService_withPath _ _ _⟩
        · exact ⟨_, rfl, sameService_withPath _ _ _⟩

end Url

end ODataClient
