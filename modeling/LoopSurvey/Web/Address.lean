import LoopSurvey.Text.Percent
/-!
# Web addresses

Addresses of the schemes `http` and `https`: reading them, writing them in normal form, and resolving
references against a base. In normal form the path has no dot segments, default ports are left out,
and characters that may not stand in their place are percent-encoded.
-/

namespace LoopSurvey

/-- A web address. -/
structure WebAddress where
  scheme : String
  /-- Host, with port and user where they are given. -/
  authority : String
  segments : List String
  query : Option String := none
  fragment : Option String := none
deriving DecidableEq, Repr

/-- Why a text is no address. -/
inductive AddressError
  | relativeWithoutBase
  | emptyHost
  | invalidPort
  | notABase
deriving DecidableEq, Repr

/-- The wording of an address error. -/
def AddressError.reason : AddressError → String
  | .relativeWithoutBase => "relative URL without a base"
  | .emptyHost => "empty host"
  | .invalidPort => "invalid port number"
  | .notABase => "relative URL with a cannot-be-a-base base"

/-- The wording of an address error about a text. -/
def AddressError.message (e : AddressError) (text : String) : String :=
  "invalid url '" ++ text ++ "': " ++ e.reason

namespace WebAddress

/-! ## Writing -/

/-- The address as a text. -/
def toText (a : WebAddress) : String :=
  let mark (c : String) : Option String → String
    | some s => c ++ s
    | none => ""
  a.scheme ++ "://" ++ a.authority ++ "/" ++ String.intercalate "/" a.segments ++ mark "?" a.query
    ++ mark "#" a.fragment

/-! ## Reading -/

/-- Percent-encodes the characters outside printable ASCII and those of a set. -/
def encodeIn (reserved : List Char) (cs : List Char) : String :=
  String.ofList (cs.flatMap fun c =>
    if c.toNat ≤ 32 ∨ 126 < c.toNat ∨ c ∈ reserved then
      (String.utf8EncodeChar c).flatMap Text.Percent.encodeByte
    else [c])

/-- Characters encoded in paths. -/
def pathReserved : List Char := ['"', '<', '>', Char.ofNat 96, '#', '?', '\x7b', '\x7d']

/-- Characters encoded in queries. -/
def queryReserved : List Char := ['"', '<', '>', '#', Char.ofNat 39]

/-- Characters encoded in fragments. -/
def fragmentReserved : List Char := ['"', '<', '>', Char.ofNat 96]

/-- The text without control characters and blanks at its ends and without tabs and line ends. -/
def cleaned (text : String) : List Char :=
  let isEdge (c : Char) : Bool := c.toNat ≤ 32
  let inner := ((text.toList.dropWhile isEdge).reverse.dropWhile isEdge).reverse
  inner.filter fun c => c ≠ '\t' ∧ c ≠ '\n' ∧ c ≠ '\r'

/-- The scheme of a text in lower case, and what follows its colon. -/
def scheme? (cs : List Char) : Option (String × List Char) :=
  let isSchemeChar (c : Char) : Bool := c.isAlphanum || c == '+' || c == '-' || c == '.'
  match cs.takeWhile isSchemeChar, cs.dropWhile isSchemeChar with
  | c :: more, ':' :: rest =>
    if c.isAlpha then some (String.ofList ((c :: more).map Char.toLower), rest) else none
  | _, _ => none

/-- Whether a scheme is one of the web. -/
def isWeb (scheme : String) : Bool := scheme == "http" || scheme == "https"

/-- Slashes and backslashes both part the segments of a path. -/
def isSlash (c : Char) : Bool := c == '/' || c == '\\'

/-- The segments of a path, for a text without query and fragment. -/
def split : List Char → List (List Char)
  | [] => [[]]
  | c :: rest =>
    if isSlash c then [] :: split rest
    else match split rest with
      | s :: more => (c :: s) :: more
      | [] => [[c]]

/-- Whether a segment stands for the place it is at. -/
def isSingleDot (s : List Char) : Bool :=
  let s := s.map Char.toLower
  s = ".".toList || s = "%2e".toList

/-- Whether a segment stands for the place above. -/
def isDoubleDot (s : List Char) : Bool :=
  let s := s.map Char.toLower
  s = "..".toList || s = ".%2e".toList || s = "%2e.".toList || s = "%2e%2e".toList

/-- The path that segments lead to from the place below some others, given in reverse. A dot segment
at the end leads to a place, not to a file. -/
def walk (reversed : List String) : List (List Char) → List String
  | [] => reversed.reverse
  | [last] =>
    if isDoubleDot last then ("" :: reversed.drop 1).reverse
    else if isSingleDot last then ("" :: reversed).reverse
    else (encodeIn pathReserved last :: reversed).reverse
  | s :: rest =>
    if isDoubleDot s then walk (reversed.drop 1) rest
    else if isSingleDot s then walk reversed rest
    else walk (encodeIn pathReserved s :: reversed) rest

/-- The text before the first occurrence of a character, and the text behind it if there is one. -/
def partAt (c : Char) (cs : List Char) : List Char × Option (List Char) :=
  match cs.dropWhile (· ≠ c) with
  | [] => (cs, none)
  | _ :: rest => (cs.takeWhile (· ≠ c), some rest)

/-- The path, the query and the fragment of a text. -/
def parts (cs : List Char) : List Char × Option String × Option String :=
  let (rest, fragment) := partAt '#' cs
  let (path, query) := partAt '?' rest
  (path, query.map (encodeIn queryReserved), fragment.map (encodeIn fragmentReserved))

/-- The port that addresses of a scheme have unless they name another. -/
def defaultPort (scheme : String) : Nat := if scheme = "http" then 80 else 443

/-- The normal form of a host with an optional port and an optional user. -/
def authority? (scheme : String) (cs : List Char) : Except AddressError String :=
  let (user, hostPort) := match (cs.reverse.span (· ≠ '@')) with
    | (host, _ :: user) => (String.ofList user.reverse ++ "@", host.reverse)
    | (host, []) => ("", host.reverse)
  let user := if user = "@" then "" else user
  let (host, port) := partAt ':' hostPort
  if host.isEmpty then .error .emptyHost
  else
    let name := user ++ String.ofList (host.map Char.toLower)
    match port with
    | none | some [] => .ok name
    | some ds =>
      let n := ds.foldl (fun n c => n * 10 + (c.toNat - 48)) 0
      if !ds.all Char.isDigit || 65535 < n then .error .invalidPort
      else .ok (if n = defaultPort scheme then name else name ++ ":" ++ Nat.repr n)

/-- The address whose text behind the scheme and its slashes is given. -/
def afterSlashes (scheme : String) (cs : List Char) : Except AddressError WebAddress := do
  let isEnd (c : Char) : Bool := isSlash c || c == '?' || c == '#'
  let authority ← authority? scheme (cs.takeWhile (!isEnd ·))
  let (path, query, fragment) := parts (cs.dropWhile (!isEnd ·))
  let segments := walk [] (split (path.drop 1))
  pure { scheme, authority, segments, query, fragment }

/-- Resolves a reference that names no scheme. -/
def join (base : WebAddress) (cs : List Char) : Except AddressError WebAddress :=
  match cs with
  | a :: b :: rest =>
    if isSlash a && isSlash b then afterSlashes base.scheme (rest.dropWhile isSlash)
    else .ok (below (a :: b :: rest))
  | cs => .ok (below cs)
where
  /-- The address with another path, query or fragment on the same host. -/
  below (cs : List Char) : WebAddress :=
    let (path, query, fragment) := parts cs
    match path with
    | [] =>
      match query with
      | some _ => { base with query, fragment }
      | none => { base with fragment }
    | c :: rest =>
      let segments :=
        if isSlash c then walk [] (split rest)
        else walk (base.segments.dropLast.reverse) (split (c :: rest))
      { base with segments, query, fragment }

end WebAddress

/-- An address of the web, or one of another scheme, which is kept as it is and is no base. -/
inductive Address
  | web (address : WebAddress)
  | other (scheme rest : String)
deriving DecidableEq, Repr

namespace Address

open WebAddress (cleaned scheme? isWeb isSlash)

/-- The address as a text. -/
def toText : Address → String
  | web a => a.toText
  | other scheme rest => scheme ++ ":" ++ rest

/-- The address of a scheme with the text behind its colon. -/
def ofScheme (scheme : String) (rest : List Char) : Except AddressError Address :=
  if isWeb scheme then
    (WebAddress.afterSlashes scheme (rest.dropWhile isSlash)).map web
  else .ok (other scheme (String.ofList rest))

/-- Reads an address. -/
def parse (text : String) : Except AddressError Address :=
  match scheme? (cleaned text) with
  | none => .error .relativeWithoutBase
  | some (scheme, rest) => ofScheme scheme rest

/-- Resolves a reference against a base. The scheme of the base may be repeated in front of a path. -/
def join (base : Address) (text : String) : Except AddressError Address :=
  match scheme? (cleaned text), base with
  | some (scheme, rest), web b =>
    if scheme = b.scheme ∧ (rest.takeWhile isSlash).length < 2 then (b.join rest).map web
    else ofScheme scheme rest
  | some (scheme, rest), other .. => ofScheme scheme rest
  | none, web b => (b.join (cleaned text)).map web
  | none, other .. => .error .notABase

end Address

end LoopSurvey
