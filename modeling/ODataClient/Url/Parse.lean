import ODataClient.Url.Basic

/-! # Reading web addresses
A text is an address by itself if it begins with a scheme. Any other text is relative and names an
address only against a base: its query, its path, or its authority and all behind it replace those of
the base.

Tabs and line breaks are passed over wherever they stand; only in the path of a file one of them can
part the letter of a drive from what follows it, so the text of a file keeps them up to there. -/

namespace ODataClient.Url

/-! ## The parts of a text -/

/-- A text without the spaces and control characters around it. -/
def trim (text : String) : List Char :=
  let isEdge := fun char : Char => char.toNat ≤ 32
  ((text.toList.dropWhile isEdge).reverse.dropWhile isEdge).reverse

/-- A character that may occur in a scheme. -/
def isSchemeChar (char : Char) : Bool :=
  char.isAlphanum || char == '+' || char == '-' || char == '.'

/-- The scheme of a text in lower case, and the rest behind the colon. -/
def splitScheme? (chars : List Char) : Option (String × List Char) :=
  let isInside := fun char => isSchemeChar char || isBreak char
  let name := withoutBreaks (chars.takeWhile isInside)
  match name.head?, chars.dropWhile isInside with
  | some first, ':' :: rest =>
    if first.isAlpha then some (Text.asciiLower (String.ofList name), rest) else none
  | _, _ => none

/-- The query and fragment at the end of a text. -/
def tail (scheme : String) (chars : List Char) : Option String × Option String :=
  let fragment := fun chars => encode encodedInFragment chars
  match withoutBreaks chars with
  | '?' :: rest =>
    let query := encode (encodedInQuery (isSpecialScheme scheme)) (rest.takeWhile (· != '#'))
    match rest.dropWhile (· != '#') with
    | _ :: behind => (some query, some (fragment behind))
    | [] => (some query, none)
  | '#' :: rest => (none, some (fragment rest))
  | _ => (none, none)

/-- An address with the query and fragment of a text. -/
def withTail (url : Url) (chars : List Char) : Url :=
  let (query, fragment) := tail url.scheme chars
  { url with query, fragment }

/-- An address with a path read from the front of a text behind its first slash, and the query and
fragment behind it. -/
def withPath (url : Url) (before : List String) (chars : List Char) : Url :=
  let path := resolvePath url.scheme before (chars.takeWhile (!endsPath ·))
  { url with path := .segments path }.withTail (chars.dropWhile (!endsPath ·))

/-! ## Authorities -/

/-- The texts before and behind the last occurrence of a character. -/
def splitAtLast (separator : Char) (chars : List Char) : Option (List Char × List Char) :=
  if separator ∈ chars then
    let reversed := chars.reverse
    some ((reversed.dropWhile (· != separator)).tail.reverse,
      (reversed.takeWhile (· != separator)).reverse)
  else none

/-- User name and password with their separators; an empty password has none. -/
def userInfoText (chars : List Char) : String :=
  let name := encode encodedInUserInfo (chars.takeWhile (· != ':'))
  let password := encode encodedInUserInfo ((chars.dropWhile (· != ':')).drop 1)
  let text := if password.isEmpty then name else name ++ ":" ++ password
  if text.isEmpty then "" else text ++ "@"

/-- The text of a host and the rest behind it: a colon ends it outside of brackets. -/
def splitHost : Bool → List Char → List Char × List Char
  | _, [] => ([], [])
  | inBrackets, char :: rest =>
    if char = ':' ∧ !inBrackets then ([], char :: rest)
    else
      let inside := if char = '[' then true else if char = ']' then false else inBrackets
      let (host, behind) := splitHost inside rest
      (char :: host, behind)

/-- The host that a text denotes under a scheme. -/
def readHost (scheme text : String) : Except UrlError String :=
  if isSpecialScheme scheme then
    if text.isEmpty then .error .emptyHost else Host.special text
  else if text.toList.head? = some '[' then Host.bracketed? text.toList
  else if text.toList.any Host.isForbiddenInHost then .error .invalidHostCharacter
  else .ok (encode isControlOrWide text.toList)

/-- The port behind a host, with its colon; none if it is the one of the scheme or missing. -/
def readPort (scheme : String) : List Char → Except UrlError (Option Nat)
  | ':' :: digits =>
    if digits.all Char.isDigit then
      let port := Nat.ofDigitChars 10 digits 0
      if 65535 < port then .error .invalidPort
      else if digits.isEmpty || defaultPort? scheme = some port then .ok none
      else .ok (some port)
    else .error .invalidPort
  | _ => .ok none

/-- The address behind two slashes. A backslash ends a port under any scheme. -/
def afterSlashes (scheme : String) (chars : List Char) : Except UrlError Url := do
  let ends := endsAuthority (isSpecialScheme scheme)
  let authority := chars.takeWhile (!ends ·)
  let rest := chars.dropWhile (!ends ·)
  let (info, hostAndPort) ←
    match splitAtLast '@' authority with
    | none => .ok ([], authority)
    | some ([], []) => if rest.isEmpty then .ok ([], []) else .error .emptyHost
    | some parts => .ok parts
  let userInfo := userInfoText info
  let (hostText, behindHost) := splitHost false hostAndPort
  let portText := behindHost.takeWhile (· != '\\')
  let rest := behindHost.dropWhile (· != '\\') ++ rest
  let host ← readHost scheme (String.ofList hostText)
  if host.isEmpty && !portText.isEmpty then .error .emptyHost
  let port ← readPort scheme portText
  if host.isEmpty && !userInfo.isEmpty then .error .emptyHost
  let url : Url :=
    { scheme, userInfo, host := some host, port, path := .segments []
      query := none, fragment := none }
  match rest with
  | char :: behind =>
    if isSlash (isSpecialScheme scheme) char then return url.withPath [] behind
    else if isSpecialScheme scheme || !endsPath char then return url.withPath [] rest
    else return url.withTail rest
  | [] => return if isSpecialScheme scheme then url.withPath [] [] else url

/-! ## Files -/

/-- An address of a file without host and path. -/
def emptyFile : Url :=
  { scheme := "file", userInfo := "", host := some "", port := none, path := .segments []
    query := none, fragment := none }

/-- The address of a file behind two slashes: a host, which may be empty, and a path. A drive has no
host. -/
def fileAfterSlashes (chars : List Char) : Except UrlError Url := do
  let hostText := String.ofList (withoutBreaks (chars.takeWhile (!endsAuthority true ·)))
  let rest := chars.dropWhile (!endsAuthority true ·)
  if isDriveLetter hostText then return emptyFile.withPath [] chars
  else
    let path :=
      match rest with
      | char :: behind => if isSlash true char then behind else rest
      | [] => []
    if hostText.isEmpty then return emptyFile.withPath [] path
    else
      let host ← Host.special hostText
      let isLocal := host == "localhost" ||
        entersDrive [] (splitAtSlashes true (path.takeWhile (!endsPath ·)))
      return { emptyFile with host := some (if isLocal then "" else host) }.withPath [] path

/-- A path to be written right behind the letter of a drive: dots in front of it lead nowhere else. -/
def behindDrive (chars : List Char) : List Char :=
  let segment := segmentText (chars.takeWhile (!endsAuthority true ·))
  let rest := chars.dropWhile (!endsAuthority true ·)
  if isDoubleDot segment then rest
  else if isDot segment then if rest.head?.any (isSlash true) then rest else '/' :: rest
  else chars

/-- The address of a file that a text without scheme denotes, against another one if there is one. -/
def readFile (base : Option Url) (chars : List Char) : Except UrlError Url :=
  match chars.dropWhile isBreak with
  | first :: behind =>
    if isSlash true first then
      match behind.dropWhile isBreak with
      | second :: rest =>
        if isSlash true second then fileAfterSlashes rest
        else .ok (fileRooted base behind)
      | [] => .ok (fileRooted base behind)
    else
      match base with
      | none => .ok (emptyFile.withPath [] chars)
      | some base =>
        if first = '?' then .ok (base.withTail chars)
        else if first = '#' then
          .ok { base with fragment := (tail base.scheme chars).2 }
        else if beginsWithDrive chars then .ok (emptyFile.withPath [] chars)
        else .ok (fileBeside base chars)
  | [] =>
    match base with
    | none => .ok (emptyFile.withPath [] [])
    | some base => .ok { base with fragment := none }
where
  /-- The address of a path beside the other address. The letter of a drive stays: in front of the path
  it is the directory, and further on the path is written right behind it. -/
  fileBeside (base : Url) (chars : List Char) : Url :=
    let directory := base.pathSegments.dropLast
    match base.pathSegments.getLast? with
    | some last =>
      if isNormalDriveLetter last then
        if directory.isEmpty then base.withPath [last] chars
        else base.withPath directory (last.toList ++ behindDrive chars)
      else base.withPath directory chars
    | none => base.withPath [] chars
  /-- The address of a path from the root, on the drive or host of the other address. -/
  fileRooted (base : Option Url) (behind : List Char) : Url :=
    match base with
    | none => emptyFile.withPath [] behind
    | some base =>
      if beginsWithDrive behind then emptyFile.withPath [] behind
      else
        match base.pathSegments with
        | drive :: _ =>
          if isNormalDriveLetter drive then emptyFile.withPath [drive] behind
          else { emptyFile with host := base.host }.withPath [] behind
        | [] => { emptyFile with host := base.host }.withPath [] behind

/-! ## Whole texts -/

/-- The address behind a scheme that is not special. -/
def readPlain (scheme : String) (chars : List Char) : Except UrlError Url :=
  let url : Url :=
    { scheme, userInfo := "", host := none, port := none, path := .segments []
      query := none, fragment := none }
  match chars with
  | '/' :: '/' :: rest => afterSlashes scheme rest
  | '/' :: rest => .ok (url.withPath [] rest)
  | _ =>
    let path := encode isControlOrWide (chars.takeWhile (!endsPath ·))
    .ok ({ url with path := .plain path }.withTail (chars.dropWhile (!endsPath ·)))

/-- The address that a text without scheme denotes against a base with a hierarchy. -/
def readRelative (base : Url) (chars : List Char) : Except UrlError Url :=
  let isSpecial := isSpecialScheme base.scheme
  match chars with
  | [] => .ok { base with fragment := none }
  | '?' :: _ => .ok (base.withTail chars)
  | '#' :: _ => .ok { base with fragment := (tail base.scheme chars).2 }
  | first :: behind =>
    if isSlash true first then
      match behind with
      | second :: rest =>
        if isSlash true second then
          if first = '/' ∧ second = '/' then afterSlashes base.scheme rest
          else afterSlashes base.scheme (rest.dropWhile (isSlash true))
        else .ok (base.withPath [] behind)
      | [] => .ok (base.withPath [] behind)
    else if isSpecial || !base.pathSegments.isEmpty then
      .ok (base.withPath base.pathSegments.dropLast chars)
    else .ok (base.withPath [] chars)

/-- The address that a text denotes by itself. -/
def parse (text : String) : Except UrlError Url :=
  match splitScheme? (trim text) with
  | none => .error .missingBase
  | some (scheme, rest) =>
    if isFileScheme scheme then readFile none rest
    else
      let rest := withoutBreaks rest
      if isSpecialScheme scheme then afterSlashes scheme (rest.dropWhile (isSlash true))
      else readPlain scheme rest

/-- The address that a text without scheme denotes against a base. -/
def join (base : Url) (text : String) : Except UrlError Url :=
  let chars := trim text
  if chars.head? = some '#' then .ok { base with fragment := (tail base.scheme chars).2 }
  else if base.isOpaque then .error .opaqueBase
  else if isFileScheme base.scheme then readFile (some base) chars
  else readRelative base (withoutBreaks chars)

end ODataClient.Url
