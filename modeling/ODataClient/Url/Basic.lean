import ODataClient.Text.Lowercase
import ODataClient.Url.Host

/-! # Web addresses
The parts of a web address and its text. The special schemes of the web have a host and a hierarchical
path, and treat a backslash like a slash; in the path every character of the encode set of that place
is percent-encoded. -/

namespace ODataClient

/-- The path of an address. -/
inductive UrlPath
  /-- A path without hierarchy, as it is written. -/
  | plain (text : String)
  /-- Segments, each behind a slash. -/
  | segments (segments : List String)
deriving DecidableEq, Repr

/-- A web address. -/
structure Url where
  /-- The scheme in lower case. -/
  scheme : String
  /-- User name and password with the separators that belong to them. -/
  userInfo : String
  /-- The host, which may be empty; none without an authority. -/
  host : Option String
  /-- The port, unless it is the one of the scheme. -/
  port : Option Nat
  /-- The path. -/
  path : UrlPath
  /-- What follows the question mark. -/
  query : Option String
  /-- What follows the hash. -/
  fragment : Option String
deriving DecidableEq, Repr

namespace Url

/-- The port of a scheme. -/
def defaultPort? : String → Option Nat
  | "http" => some 80
  | "https" => some 443
  | "ws" => some 80
  | "wss" => some 443
  | "ftp" => some 21
  | _ => none

/-- Whether a scheme is the one of files. -/
def isFileScheme (scheme : String) : Bool := scheme == "file"

/-- Whether a scheme is one of the special ones of the web. -/
def isSpecialScheme (scheme : String) : Bool :=
  isFileScheme scheme || (defaultPort? scheme).isSome

/-- Whether an address has a path without hierarchy. -/
def isOpaque (url : Url) : Bool :=
  match url.path with
  | .plain _ => true
  | .segments _ => false

/-- The segments of a path. -/
def pathSegments (url : Url) : List String :=
  match url.path with
  | .plain _ => []
  | .segments segments => segments

/-! ## Text -/

/-- The text of a path. Without an authority, a path that begins with an empty segment is kept apart
from one by a dot. -/
def pathText (url : Url) : String :=
  match url.path with
  | .plain text => text
  | .segments segments =>
    let text := String.join (segments.map ("/" ++ ·))
    if url.host = none ∧ 1 < segments.length ∧ segments.head? = some "" then "/." ++ text else text

/-- The text of the authority. -/
def authorityText (url : Url) : String :=
  match url.host with
  | none => ""
  | some host =>
    "//" ++ url.userInfo ++ host ++
      (match url.port with
      | some port => ":" ++ naturalText port
      | none => "")

/-- A part behind its mark, if it is there. -/
def markedText (mark : String) : Option String → String
  | some text => mark ++ text
  | none => ""

/-- The text of an address. -/
def text (url : Url) : String :=
  url.scheme ++ ":" ++ url.authorityText ++ url.pathText ++ markedText "?" url.query ++
    markedText "#" url.fragment

/-! ## Encode sets -/

/-- The characters that are always encoded: control characters and all beyond ASCII. -/
def isControlOrWide (char : Char) : Bool := char.toNat < 32 || 126 < char.toNat

/-- The characters encoded in a fragment. -/
def encodedInFragment (char : Char) : Bool :=
  isControlOrWide char || " \"<>`".toList.contains char

/-- The characters encoded in a path. -/
def encodedInPath (char : Char) : Bool :=
  encodedInFragment char || "#?\x7b\x7d".toList.contains char

/-- The characters encoded in user names and passwords. -/
def encodedInUserInfo (char : Char) : Bool :=
  encodedInPath char || "/:;=@[\\]^|".toList.contains char

/-- The characters encoded in a query; special schemes encode the quote too. -/
def encodedInQuery (isSpecial : Bool) (char : Char) : Bool :=
  isControlOrWide char || " \"#<>".toList.contains char || (isSpecial && char == '\'')

/-- Whether a character is a tab or line break. -/
def isBreak (char : Char) : Bool := char == '\t' || char == '\n' || char == '\r'

/-- A text with its tabs and line breaks passed over. -/
def withoutBreaks (chars : List Char) : List Char := chars.filter (!isBreak ·)

/-- A text with the characters of an encode set percent-encoded. -/
def encode (isEncoded : Char → Bool) (chars : List Char) : String :=
  String.ofList (chars.flatMap fun char =>
    if isEncoded char then (String.utf8EncodeChar char).flatMap Text.escapedByte else [char])

/-! ## Paths -/

/-- Whether a character separates segments. -/
def isSlash (isSpecial : Bool) (char : Char) : Bool := char == '/' || (isSpecial && char == '\\')

/-- What a path ends before: a question mark or a hash. -/
def endsPath (char : Char) : Bool := char == '?' || char == '#'

/-- Whether a character ends an authority, or a segment of a path. -/
def endsAuthority (isSpecial : Bool) (char : Char) : Bool :=
  isSlash isSpecial char || endsPath char

/-- Whether a segment stands for the directory itself. -/
def isDot (segment : String) : Bool := ["." , "%2e"].contains (Text.asciiLower segment)

/-- Whether a segment stands for the directory above. -/
def isDoubleDot (segment : String) : Bool :=
  ["..", ".%2e", "%2e.", "%2e%2e"].contains (Text.asciiLower segment)

/-- Whether a segment is the letter of a drive, behind it a colon or a bar. -/
def isDriveLetter (segment : String) : Bool :=
  match segment.toList with
  | [letter, mark] => letter.isAlpha && (mark == ':' || mark == '|')
  | _ => false

/-- Whether a segment is the letter of a drive and a colon. -/
def isNormalDriveLetter (segment : String) : Bool :=
  isDriveLetter segment && segment.toList.getLast? == some ':'

/-- Whether a text begins with the letter of a drive as a segment. -/
def beginsWithDrive (chars : List Char) : Bool :=
  match withoutBreaks chars with
  | letter :: mark :: rest =>
    isDriveLetter (String.ofList [letter, mark]) &&
      (match rest.head? with
      | some char => endsAuthority true char
      | none => true)
  | _ => false

/-- The directory above the one of a path. There is none above the letter of a drive, whatever the
scheme; a backslash may follow it where that is no slash. -/
def climb (segments : List String) : List String :=
  if segments.getLast?.any (beginsWithDrive ·.toList) then segments else segments.dropLast

/-- The text of a segment that is written between slashes. -/
def segmentText (part : List Char) : String := encode encodedInPath (withoutBreaks part)

/-- The letter of a drive with its colon, and what a tab or line break parts from it. -/
def partedDrive? (part : List Char) : Option (String × List Char) :=
  match part.dropWhile isBreak with
  | letter :: marked =>
    match marked.dropWhile isBreak with
    | ':' :: behind =>
      let rest := withoutBreaks behind
      if letter.isAlpha && behind.head?.any isBreak && !rest.isEmpty then
        some (String.ofList [letter, ':'], rest)
      else none
    | _ => none
  | [] => none

/-- The segments that a written one is kept as. In front of a file path the mark behind the letter of
a drive is a colon, and what a tab or line break parts from a drive is a segment of its own, even if
it is dots. -/
def keptSegments (isFile : Bool) (before : List String) (part : List Char) : List String :=
  let segment := segmentText part
  if isFile && before.isEmpty then
    match partedDrive? part with
    | some (drive, rest) => [drive, encode encodedInPath rest]
    | none =>
      if isDriveLetter segment then [String.ofList (segment.toList.take 1 ++ [':'])] else [segment]
  else [segment]

/-- A path after one more written segment, dots resolved. -/
def enterSegment (isFile : Bool) (before : List String) (part : List Char) : List String :=
  let segment := segmentText part
  if isDoubleDot segment then climb before
  else if isDot segment then before
  else before ++ keptSegments isFile before part

/-- A path with written segments added. The last one has no slash behind it, so dots there leave an
empty segment at the end. -/
def addSegments (isFile : Bool) : List String → List (List Char) → List String
  | before, [] => before
  | before, [last] =>
    let segment := segmentText last
    let path := enterSegment isFile before last
    if isDoubleDot segment || isDot segment then path ++ [""] else path
  | before, part :: rest => addSegments isFile (enterSegment isFile before part) rest

/-- Whether a whole written segment of a file path is the letter of a drive, with nothing before it. -/
def entersDrive : List String → List (List Char) → Bool
  | _, [] => false
  | before, part :: rest =>
    before.isEmpty && isDriveLetter (segmentText part) ||
      entersDrive (enterSegment true before part) rest

/-- The parts of a text between slashes. -/
def splitAtSlashes (isSpecial : Bool) (chars : List Char) : List (List Char) :=
  Text.splitAtChar '/' (chars.map fun char => if isSlash isSpecial char then '/' else char)

/-- A file path without the empty segments at its front. -/
def trimFilePath (segments : List String) : List String :=
  match segments.dropWhile (· == "") with
  | [] => [""]
  | rest => rest

/-- The path that a text adds to the segments before it. -/
def resolvePath (scheme : String) (before : List String) (chars : List Char) : List String :=
  let isFile := isFileScheme scheme
  let segments := addSegments isFile before (splitAtSlashes (isSpecialScheme scheme) chars)
  if isFile then trimFilePath segments else segments

end Url

end ODataClient
