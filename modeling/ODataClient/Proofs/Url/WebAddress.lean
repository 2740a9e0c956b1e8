import ODataClient.Proofs.Text.Percent
import ODataClient.Proofs.Url.Relative

/-! # Web addresses read back

An address of the web is written as it is kept if nothing in it has another form: the domain is in lower
case, nothing has to be encoded, and no port is named that goes without saying. Such an address is read
back from its text.

* **`Domain.Plain`** — domains that are their own ASCII form, by `Domain.Plain.toAscii?_chars`.
* **`Url.WebAddress`** — addresses that are written as they are kept; `Url.WebAddress.parse_text` reads
  them back, authority first (`Url.WebAddress.afterSlashes_chars`). -/

namespace ODataClient

/-! ## Domains -/

namespace Domain

/-- No character of ASCII runs from right to left. -/
theorem runsRightToLeft_of_ascii {char : Char} (ascii : char.toNat < 128) :
    Text.runsRightToLeft char = false := by
  have below : ¬ 0x590 ≤ char.toNat := by omega
  rw [Text.runsRightToLeft, decide_eq_false below, Bool.false_and]

/-- A domain that is written as it is kept, by its labels. -/
structure Plain where
  /-- The labels. -/
  labels : List String
  /-- There is a label. -/
  filled : labels ≠ []
  /-- The domain is not empty. -/
  named : labels ≠ [""]
  /-- The characters are those of ASCII in lower case that a label may hold. -/
  inside : ∀ label ∈ labels, ∀ char ∈ label.toList,
    char.toNat < 128 ∧ char.toLower = char ∧ isForbidden char = false ∧ char ≠ '.'
  /-- No label stands for another one. -/
  unmarked : ∀ label ∈ labels, punycodeMark.isPrefixOf label.toList = false
  /-- The domain is no address of the internet protocol. -/
  unnumbered : Host.endsInNumber (['.'].intercalate (labels.map String.toList)) = false

namespace Plain

variable (domain : Plain)

/-- The characters of a domain. -/
def chars : List Char := ['.'].intercalate (domain.labels.map String.toList)

/-- The text of a domain. -/
def text : String := ".".intercalate domain.labels

/-- The text consists of the characters. -/
theorem toList_text : domain.text.toList = domain.chars := by
  rw [text, String.toList_intercalate]
  rfl

/-- The characters of a domain are those of its labels, and dots. -/
theorem inside_chars : ∀ char ∈ domain.chars,
    char.toNat < 128 ∧ char.toLower = char ∧ isForbidden char = false := by
  refine forall_mem_intercalate (by decide) ?_
  simp only [List.forall_mem_map]
  intro label member char inside
  obtain ⟨ascii, lower, allowed, -⟩ := domain.inside label member char inside
  exact ⟨ascii, lower, allowed⟩

/-- A character that no domain may hold is not in it. -/
theorem notMem_chars {char : Char} (forbidden : isForbidden char = true) : char ∉ domain.chars :=
  fun member => Bool.false_ne_true ((domain.inside_chars char member).2.2.symm.trans forbidden)

/-- A domain has a first character. -/
theorem chars_ne_nil : domain.chars ≠ [] := by
  obtain ⟨first, rest, isLabels⟩ := List.exists_cons_of_ne_nil domain.filled
  rw [chars, isLabels]
  cases rest with
  | nil =>
    have filled : first ≠ "" := by
      rintro rfl
      exact domain.named isLabels
    simpa using filled
  | cons next others => simp [List.intercalate_cons_cons]

/-- A domain is not empty. -/
theorem text_ne_empty : domain.text ≠ "" := by
  rw [Ne, ← String.toList_eq_nil_iff, domain.toList_text]
  exact domain.chars_ne_nil

/-- A label is in ASCII. -/
theorem isAscii_label {label : String} (member : label ∈ domain.labels) :
    isAscii label.toList = true :=
  List.all_eq_true.mpr fun char inside => decide_eq_true (domain.inside label member char inside).1

/-- **The labels of a domain** are read as they are written. -/
theorem labels?_chars : labels? domain.chars = some (domain.labels.map String.toList) := by
  have allowed : domain.chars.any isForbidden = false := by
    rw [List.any_eq_false]
    exact fun char member => by rw [(domain.inside_chars char member).2.2]; exact Bool.false_ne_true
  have apart : Text.splitAtChar '.' domain.chars = domain.labels.map String.toList := by
    refine Text.splitAtChar_intercalate ?_ (by simpa using domain.filled)
    simp only [List.forall_mem_map]
    exact fun label member inside => (domain.inside label member '.' inside).2.2.2 rfl
  have meant : (domain.labels.map String.toList).mapM meaning? =
      some (domain.labels.map String.toList) := by
    -- The induction needs the labels only, not the domain that they make.
    have each := domain.unmarked
    generalize domain.labels = labels at each
    induction labels with
    | nil => rfl
    | cons label rest ih =>
      rw [List.forall_mem_cons] at each
      simp [meaning?_of_not_marked each.1, ih each.2]
  -- Labels in ASCII are sound by themselves, and none of them turns the direction of the domain.
  have sound : areSound (domain.labels.map String.toList) = true := by
    have single : (domain.labels.map String.toList).all isSound = true := by
      simp only [List.all_map, List.all_eq_true, Function.comp_apply]
      exact fun label member => isSound_of_isAscii (domain.isAscii_label member)
    have forwards : ((domain.labels.map String.toList).any (·.any Text.runsRightToLeft)) = false := by
      simp only [List.any_eq_false, List.forall_mem_map, List.any_eq_true, not_exists, not_and]
      intro label member char inside
      rw [runsRightToLeft_of_ascii (domain.inside label member char inside).1]
      exact Bool.false_ne_true
    rw [areSound, single, forwards]
    rfl
  simp [labels?, allowed, apart, meant, sound]

/-- **A plain domain is its own ASCII form.** -/
theorem toAscii?_text : toAscii? domain.text = some domain.chars := by
  have decoded : String.fromUTF8? (Text.unescape (Text.utf8Bytes domain.text)).toByteArray =
      some domain.text := by
    refine Text.percentDecode?_of_plain fun char member => ?_
    rw [domain.toList_text] at member
    refine ⟨(domain.inside_chars char member).1, ?_⟩
    rintro rfl
    exact domain.notMem_chars (by decide) member
  have read : read? domain.chars = some domain.chars := by
    rw [read?_of_ascii fun char member => (domain.inside_chars char member).1]
    congr 1
    refine (List.map_congr_left fun char member => ?_).trans (List.map_id _)
    exact (domain.inside_chars char member).2.1
  have forms : (domain.labels.map String.toList).map asciiForm = domain.labels.map String.toList := by
    rw [List.map_map]
    exact List.map_congr_left fun label member => asciiForm_of_isAscii (domain.isAscii_label member)
  simp only [toAscii?, decoded, domain.toList_text, read, domain.labels?_chars, forms,
    Option.bind_eq_bind, Option.bind_some]
  rfl

end Plain

end Domain

/-! ## Addresses -/

namespace Url

/-- The schemes of the web begin with a letter, and are names in lower case. -/
theorem scheme_of_isWeb {scheme : String} (isWeb : (defaultPort? scheme).isSome = true) :
    (∀ char ∈ scheme.toList, isSchemeChar char = true ∧ isVisible char = true) ∧
      (∃ first rest, scheme.toList = first :: rest ∧ first.isAlpha = true) ∧
      Text.asciiLower scheme = scheme := by
  have lower {name : String} (same : name.toList.map Char.toLower = name.toList) :
      Text.asciiLower name = name :=
    String.toList_inj.mp ((Text.toList_asciiLower name).trans same)
  unfold defaultPort? at isWeb
  split at isWeb
  case h_6 => cases isWeb
  all_goals exact ⟨by decide, ⟨_, _, rfl, by decide⟩, lower (by decide)⟩

/-- The scheme of a text is what stands in front of the colon. -/
theorem splitScheme?_append {scheme : String} (isWeb : (defaultPort? scheme).isSome = true)
    (rest : List Char) : splitScheme? (scheme.toList ++ ':' :: rest) = some (scheme, rest) := by
  obtain ⟨inside, ⟨first, others, isScheme, letter⟩, lower⟩ := scheme_of_isWeb isWeb
  have inFront : ∀ char ∈ scheme.toList, (isSchemeChar char || isBreak char) = true :=
    fun char member => by rw [(inside char member).1, Bool.true_or]
  obtain ⟨name, behind⟩ := takeWhile_append_of_head (':' :: rest) inFront (by simp; decide)
  have whole : withoutBreaks scheme.toList = scheme.toList :=
    withoutBreaks_of_visible fun char member => (inside char member).2
  simp only [splitScheme?, name, behind, whole, String.ofList_toList, lower]
  simp [isScheme, letter]

/-- What names a port behind a host. -/
def portChars : Option Nat → List Char
  | some port => ':' :: (naturalText port).toList
  | none => []

/-- A port is read as it is written, if it fits and does not go without saying. -/
theorem readPort_portChars {scheme : String} {port : Option Nat}
    (fits : ∀ number ∈ port, number ≤ 65535 ∧ defaultPort? scheme ≠ some number) :
    readPort scheme (portChars port) = .ok port := by
  cases port with
  | none => rfl
  | some number =>
    obtain ⟨few, noDefault⟩ := fits number rfl
    have text : (naturalText number).toList = Nat.toDigits 10 number := Nat.toList_repr
    have digits : (Nat.toDigits 10 number).all Char.isDigit = true :=
      List.all_eq_true.mpr fun char member =>
        Nat.isDigit_of_mem_toDigits (by decide) (by decide) member
    have filled : (Nat.toDigits 10 number).isEmpty = false := by simp
    simp [portChars, readPort, text, digits, filled, Nat.not_lt.mpr few, noDefault]

/-- A host ends before the colon of a port. -/
theorem splitHost_append {host : List Char} (noColon : ':' ∉ host) (noBracket : '[' ∉ host)
    (port : Option Nat) : splitHost false (host ++ portChars port) = (host, portChars port) := by
  induction host with
  | nil => cases port <;> rfl
  | cons char rest ih =>
    rw [List.mem_cons, not_or] at noColon noBracket
    rw [List.cons_append, splitHost]
    simp [Ne.symm noColon.1, Ne.symm noBracket.1, ih noColon.2 noBracket.2]

/-- An address of the web that is written as it is kept. -/
structure WebAddress where
  /-- The scheme. -/
  scheme : String
  /-- The scheme is one of the web. -/
  isWeb : (defaultPort? scheme).isSome = true
  /-- The domain. -/
  domain : Domain.Plain
  /-- The port, if it is named. -/
  port : Option Nat
  /-- The port fits, and does not go without saying. -/
  portFits : ∀ number ∈ port, number ≤ 65535 ∧ defaultPort? scheme ≠ some number
  /-- The path and the query, behind the first slash. -/
  path : PathText
  /-- No part of the path has to be encoded. -/
  pathFree : ∀ part ∈ path.parts, ∀ char ∈ part.toList, encodedInPath char = false
  /-- The query does not have to be encoded. -/
  queryFree : ∀ text ∈ path.query, ∀ char ∈ text.toList, encodedInQuery true char = false

namespace WebAddress

variable (address : WebAddress)

/-- The parts of an address. -/
def url : Url where
  scheme := address.scheme
  userInfo := ""
  host := some address.domain.text
  port := address.port
  path := .segments address.path.parts
  query := address.path.query
  fragment := none

/-- What stands in front of the path: the host and the port. -/
def authority : List Char := address.domain.chars ++ portChars address.port

/-- What stands behind the two slashes of an address. -/
def charsBehind : List Char := address.authority ++ '/' :: address.path.text.toList

/-- The text of an address is its scheme and what stands behind the slashes. -/
theorem toList_text : address.url.text.toList =
    address.scheme.toList ++ ':' :: '/' :: '/' :: address.charsBehind := by
  have path : address.url.pathText = "/" ++ "/".intercalate address.path.parts := by
    rw [pathText_of_hosted address.url rfl rfl, join_map_slash address.path.filled]
  have authority : address.url.authorityText.toList = '/' :: '/' :: address.authority := by
    rw [authorityText, authority, ← address.domain.toList_text]
    cases isPort : address.port with
    | none => simp [url, isPort, portChars]
    | some number => simp [url, isPort, portChars]
  have colon : ":".toList = [':'] := rfl
  have slash : "/".toList = ['/'] := rfl
  have noFragment : markedText "#" address.url.fragment = "" := rfl
  rw [text, path, noFragment, String.append_empty]
  simp only [String.toList_append, authority, colon, slash, charsBehind, PathText.text,
    List.append_assoc, List.cons_append, List.nil_append]
  rfl

/-- The host and the port are visible, and nothing in them has a meaning in front of a path. -/
theorem inside_authority : ∀ char ∈ address.authority,
    isVisible char = true ∧ endsAuthority true char = false ∧ char ≠ '@' := by
  have allowed {char : Char} (ascii : char.toNat < 128) (free : Domain.isForbidden char = false) :
      isVisible char = true ∧ endsAuthority true char = false ∧ char ≠ '@' := by
    have each : ∀ code < 128, Domain.isForbidden (Char.ofNat code) = false →
        isVisible (Char.ofNat code) = true ∧ endsAuthority true (Char.ofNat code) = false ∧
          Char.ofNat code ≠ '@' := by decide
    simpa using each char.toNat ascii (by simpa using free)
  intro char member
  rcases List.mem_append.mp member with inDomain | inPort
  · obtain ⟨ascii, -, free⟩ := address.domain.inside_chars char inDomain
    exact allowed ascii free
  · cases isPort : address.port with
    | none => simp [isPort, portChars] at inPort
    | some number =>
      rw [isPort, portChars, List.mem_cons] at inPort
      rcases inPort with rfl | digit
      · decide
      · -- A port consists of digits, whose codes a domain may hold as well.
        rw [naturalText, Nat.toList_repr] at digit
        have isDigit := Nat.isDigit_of_mem_toDigits (by decide) (by decide) digit
        have code : 48 ≤ char.toNat ∧ char.toNat ≤ 57 := by
          simpa [Char.isDigit, UInt32.le_iff_toNat_le] using isDigit
        have free : Domain.isForbidden char = false := by
          have each : ∀ code < 58, 48 ≤ code → Domain.isForbidden (Char.ofNat code) = false := by decide
          simpa using each char.toNat (by omega) code.1
        exact allowed (by omega) free

/-- The host is the domain. -/
theorem readHost_chars :
    readHost address.scheme (String.ofList address.domain.chars) = .ok address.domain.text := by
  obtain ⟨-, special⟩ := isSpecialScheme_of_isWeb address.isWeb
  have same : String.ofList address.domain.chars = address.domain.text := by
    rw [← address.domain.toList_text, String.ofList_toList]
  have filled : address.domain.text.isEmpty = false := by
    simpa using address.domain.text_ne_empty
  have noBracket : address.domain.chars.head? ≠ some '[' := fun head =>
    address.domain.notMem_chars (by decide) (List.mem_of_head? head)
  have chars : address.domain.chars.isEmpty = false := by
    simpa using address.domain.chars_ne_nil
  have noNumber : Host.endsInNumber address.domain.chars = false := address.domain.unnumbered
  rw [same, readHost, special, if_pos rfl, filled, if_neg Bool.false_ne_true, Host.special,
    address.domain.toList_text, if_neg noBracket, address.domain.toAscii?_text]
  simp only [chars, noNumber, Bool.false_eq_true, if_false, same]

/-- What stands behind the slashes is read as the address. -/
theorem afterSlashes_charsBehind :
    afterSlashes address.scheme address.charsBehind = .ok address.url := by
  obtain ⟨-, special⟩ := isSpecialScheme_of_isWeb address.isWeb
  have inFront : ∀ char ∈ address.authority, (!endsAuthority true char) = true :=
    fun char member => by rw [(address.inside_authority char member).2.1, Bool.not_false]
  obtain ⟨authority, behind⟩ := takeWhile_append_of_head
    ('/' :: address.path.text.toList) inFront (by simp; decide)
  have noUser : splitAtLast '@' address.authority = none :=
    if_neg fun member => (address.inside_authority '@' member).2.2 rfl
  have noBackslash : ∀ char ∈ portChars address.port, (char != '\\') = true := by
    intro char member
    rw [bne_iff_ne]
    rintro rfl
    have inside := address.inside_authority '\\' (List.mem_append_right _ member)
    exact Bool.false_ne_true (inside.2.1.symm.trans (by rfl))
  obtain ⟨port, noRest⟩ := takeWhile_append_of_head [] noBackslash (by simp)
  rw [List.append_nil] at port noRest
  have host : splitHost false address.authority = (address.domain.chars, portChars address.port) :=
    splitHost_append (address.domain.notMem_chars (by decide)) (address.domain.notMem_chars (by decide))
      address.port
  have noInfo : userInfoText [] = "" := by rfl
  have slash : isSlash true '/' = true := by decide
  have path : withPath ⟨address.scheme, "", some address.domain.text, address.port, .segments [], none,
      none⟩ [] address.path.text.toList = address.url := by
    obtain ⟨parts, query⟩ := address.path.encoded_of_free address.pathFree address.queryFree
    rw [address.path.withPath_text address.isWeb, parts, query]
    rfl
  simp [afterSlashes, special, charsBehind, authority, behind, noUser, noInfo, host, port, noRest,
    address.readHost_chars, address.domain.text_ne_empty, readPort_portChars address.portFits, slash,
    path, bind, pure, Except.bind, Except.pure]

/-- What stands behind the slashes is visible, and begins with the domain. -/
theorem inside_charsBehind : (∀ char ∈ address.charsBehind, isVisible char = true) ∧
    ∃ first rest, address.charsBehind = first :: rest ∧ isSlash true first = false := by
  constructor
  · intro char member
    rw [charsBehind, List.mem_append, List.mem_cons] at member
    rcases member with inFront | rfl | inPath
    · exact (address.inside_authority char inFront).1
    · decide
    · exact address.path.visible_text char inPath
  · obtain ⟨first, rest, isDomain⟩ := List.exists_cons_of_ne_nil address.domain.chars_ne_nil
    have inFront : first ∈ address.authority := by
      rw [authority, isDomain]
      exact List.mem_cons_self
    have ends := (address.inside_authority first inFront).2.1
    rw [endsAuthority, Bool.or_eq_false_iff] at ends
    exact ⟨first, _, by rw [charsBehind, authority, isDomain]; rfl, ends.1⟩

/-- **An address is read back from its text.** -/
theorem parse_text : parse address.url.text = .ok address.url := by
  obtain ⟨noFile, special⟩ := isSpecialScheme_of_isWeb address.isWeb
  obtain ⟨visible, first, rest, begins, noSlash⟩ := address.inside_charsBehind
  have behind : ∀ char ∈ '/' :: '/' :: address.charsBehind, isVisible char = true := by
    simpa using ⟨by decide, visible⟩
  have whole : ∀ char ∈ address.url.text.toList, isVisible char = true := by
    rw [address.toList_text]
    intro char member
    rcases List.mem_append.mp member with inScheme | inRest
    · exact ((scheme_of_isWeb address.isWeb).1 char inScheme).2
    · rcases List.mem_cons.mp inRest with rfl | inRest
      · decide
      · exact behind char inRest
  have slashes : ('/' :: '/' :: address.charsBehind).dropWhile (isSlash true) = address.charsBehind := by
    rw [begins, List.dropWhile_cons_of_pos (by decide), List.dropWhile_cons_of_pos (by decide),
      List.dropWhile_cons_of_neg (by simp [noSlash])]
  rw [parse, trim_of_visible whole, address.toList_text, splitScheme?_append address.isWeb]
  simp only [noFile, special, withoutBreaks_of_visible behind, slashes, Bool.false_eq_true, if_false,
    if_true]
  exact address.afterSlashes_charsBehind

/-- An address whose path ends in an empty part, with no query behind it, is a directory. -/
theorem isDirectory_url {segments : List String} (parts : address.path.parts = segments ++ [""])
    (query : address.path.query = none) : address.url.IsDirectory segments where
  isWeb := address.isWeb
  hosted := rfl
  path_eq := congrArg UrlPath.segments parts
  query_eq := query
  fragment_eq := rfl

end WebAddress

end Url

end ODataClient
