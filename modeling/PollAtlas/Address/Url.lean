import PollAtlas.Address.Host

/-!
# Addresses

An address on the web, read and normalised by the URL standard: scheme, authority, path,
query and fragment.

* `Url.parse`: the address of a text.
* `Url.text`: an address as it is written.
* `Url.appendSegments?`: an address with more path segments at its end.
-/

namespace PollAtlas.Address

/-- A name and a host that answer for an address. -/
structure Authority where
  user : List Char
  password : List Char
  host : Host
  /-- The port, unless it is the usual one of the scheme. -/
  port : Option Nat
  deriving DecidableEq, Repr

/-- The path of an address. -/
inductive Path where
  /-- A path that nothing is relative to. -/
  | bare (text : List Char)
  | segments (list : List (List Char))
  deriving DecidableEq, Repr

/-- An address. -/
structure Url where
  scheme : String
  authority : Option Authority
  /-- The path is written behind a slash and a point. An address without an authority whose
  path begins with two slashes is written so, and stays so when its path changes. -/
  guarded : Bool
  path : Path
  query : Option (List Char)
  fragment : Option (List Char)
  deriving DecidableEq, Repr

/-! ## Schemes -/

/-- The usual ports of the well-known schemes. -/
def usualPorts : List (String × Option Nat) :=
  [("http", some 80), ("https", some 443), ("ws", some 80), ("wss", some 443),
    ("ftp", some 21), ("file", none)]

/-- A well-known scheme: an authority always stands behind it. -/
def isSpecial (scheme : String) : Bool := (usualPorts.lookup scheme).isSome

def isFile (scheme : String) : Bool := scheme == "file"

def usualPort? (scheme : String) : Option Nat := (usualPorts.lookup scheme).join

def isSchemeChar (c : Char) : Bool := c.isAlphanum || c == '+' || c == '-' || c == '.'

/-- The scheme of a text in lower case, and what follows its colon. -/
def cutScheme? (cs : List Char) : Option (String × List Char) :=
  match cs with
  | [] => none
  | first :: _ =>
    if !first.isAlpha then none
    else
      match cs.dropWhile isSchemeChar with
      | ':' :: rest =>
        some (String.ofList ((cs.takeWhile isSchemeChar).map Char.toLower), rest)
      | _ => none

/-- Separates segments: in an address of a well-known scheme a backslash does too. -/
def isSlash (special : Bool) (c : Char) : Bool := c == '/' || (special && c == '\\')

/-! ## Authority -/

/-- A port, which may be left empty. The usual one of the scheme is dropped. -/
def portOf (usual : Option Nat) (cs : List Char) : Except AddressError (Option Nat) :=
  if !cs.all Char.isDigit then .error .invalidPort
  else if cs.isEmpty then .ok none
  else
    let port := natOfDigits cs
    if 65535 < port then .error .invalidPort
    else .ok (if usual = some port then none else some port)

/-- A host and the port behind it; a colon between brackets belongs to the host. -/
def cutPort (inBrackets : Bool) : List Char → List Char × Option (List Char)
  | [] => ([], none)
  | c :: rest =>
    if c == ':' && !inBrackets then ([], some rest)
    else
      let inBrackets := if c == '[' then true else if c == ']' then false else inBrackets
      let (host, port) := cutPort inBrackets rest
      (c :: host, port)

/-- The name and the password before the last at sign. -/
def credentialsOf (cs : List Char) : List Char × List Char :=
  let (user, password) := Text.cutAt (· == ':') cs
  (Part.credentials.encode user, Part.credentials.encode (password.getD []))

/-- The authority of an address that is no file, and what is left of its text: a port ends
before a backslash. A host may be missing in an address of another scheme than the well-known
ones, but not beside a port, beside a name or password, or between an at sign alone and the
rest of the address. -/
def authorityOf (scheme : String) (isLast : Bool) (cs : List Char) :
    Except AddressError (Authority × List Char) := do
  let special := isSpecial scheme
  let credentials := Text.cutAtLast? (· == '@') cs
  let (user, password) := credentialsOf ((credentials.map Prod.fst).getD [])
  let (hostText, port) := cutPort false ((credentials.map Prod.snd).getD cs)
  if hostText.isEmpty ∧ (special ∨ port.isSome ∨ user ≠ [] ∨ password ≠ [] ∨
      (cs = ['@'] ∧ !isLast)) then
    .error .emptyHost
  else
    let host ← if special then Host.ofSpecial hostText else Host.ofOther hostText
    let (portText, left) := (port.getD []).span (· ≠ '\\')
    let port ← portOf (usualPort? scheme) portText
    return (⟨user, password, host, port⟩, left)

/-- An authority as it is written. -/
def Authority.text (a : Authority) : List Char :=
  a.user ++ (if a.password.isEmpty then [] else ':' :: a.password) ++
    (if a.user.isEmpty && a.password.isEmpty then [] else ['@']) ++ a.host.text ++
    (match a.port with
      | none => []
      | some port => ':' :: Nat.toDigits 10 port)

/-- The name and the password can be taken out of an address: the name is the encoding of a
text, and so is the password if it stands alone. -/
def Authority.hasReadableCredentials (a : Authority) : Bool :=
  (percentDecode? a.user).isSome && (!a.user.isEmpty || (percentDecode? a.password).isSome)

/-- An authority without a name and a password, if these can be taken out. -/
def Authority.withoutCredentials (a : Authority) : Authority :=
  if a.hasReadableCredentials then { a with user := [], password := [] } else a

/-! ## Path -/

/-- A segment that stands for the place it is in. -/
def isSingleDot (segment : List Char) : Bool :=
  [".", "%2e"].contains (String.ofList (segment.map Char.toLower))

/-- A segment that stands for the place one step up. -/
def isDoubleDot (segment : List Char) : Bool :=
  ["..", "%2e.", ".%2e", "%2e%2e"].contains (String.ofList (segment.map Char.toLower))

/-- A letter and a colon or a bar. -/
def isDrive : List Char → Bool
  | [letter, mark] => letter.isAlpha && (mark == ':' || mark == '|')
  | _ => false

/-- A segment is a drive up to its first backslash. -/
def holdsDrive (segment : List Char) : Bool := isDrive (segment.takeWhile (· ≠ '\\'))

/-- A path one step up; a drive is not left. -/
def stepUp (path : List (List Char)) : List (List Char) :=
  if (path.getLast?.map holdsDrive).getD false then path else path.dropLast

/-- A path with one more segment, which is the last one or not. -/
def addSegment (isLast : Bool) (path : List (List Char)) (segment : List Char) :
    List (List Char) :=
  if isDoubleDot segment then stepUp path ++ (if isLast then [[]] else [])
  else if isSingleDot segment then path ++ (if isLast then [[]] else [])
  else path ++ [segment]

/-- A path with more segments, the last one of which ends the text. -/
def addSegments : List (List Char) → List (List Char) → List (List Char)
  | path, [] => path
  | path, [last] => addSegment true path last
  | path, segment :: rest => addSegments (addSegment false path segment) rest

/-- The path of a file has no empty segments at its head. -/
def withoutEmptyHead : List (List Char) → List (List Char)
  | [] :: second :: rest => withoutEmptyHead (second :: rest)
  | path => path

/-- The segments of a path. One of a well-known scheme has at least one. -/
def segmentsOf (scheme : String) (cs : List Char) : List (List Char) :=
  let special := isSpecial scheme
  let rest :=
    match cs with
    | c :: rest => if isSlash special c then rest else c :: rest
    | [] => []
  if cs.isEmpty && !special then []
  else
    let segments := (Text.splitWhere (isSlash special) rest).map Part.path.encode
    let path := addSegments [] segments
    if isFile scheme then withoutEmptyHead path else path

/-! ## Reading -/

/-- What stands between the first character that ends an authority and the ends of the
text. -/
def cutAuthority (special : Bool) (cs : List Char) : List Char × List Char :=
  (cs.takeWhile fun c => !isSlash special c, cs.dropWhile fun c => !isSlash special c)

/-- The authority and the path of a file. A drive is no host, and the own machine is not
named. -/
def fileParts (cs : List Char) : Except AddressError (Host × List (List Char)) := do
  let noHost : Host := .name ""
  match cs with
  | a :: b :: rest =>
    if isSlash true a && isSlash true b then
      let (hostText, path) := cutAuthority true rest
      if isDrive hostText then return (noHost, segmentsOf "file" rest)
      else
        let host ← if hostText.isEmpty then pure noHost else Host.ofSpecial hostText
        return (if host == .name "localhost" then noHost else host, segmentsOf "file" path)
    else return (noHost, segmentsOf "file" cs)
  | _ => return (noHost, segmentsOf "file" cs)

/-- The authority and the path of an address, which may be the end of its text. -/
def hierarchyOf (scheme : String) (isLast : Bool) (cs : List Char) :
    Except AddressError (Option Authority × Path) := do
  if isFile scheme then
    let (host, path) ← fileParts cs
    return (some ⟨[], [], host, none⟩, .segments path)
  else if isSpecial scheme then
    let (authority, path) := cutAuthority true (cs.dropWhile (isSlash true))
    let (authority, left) ← authorityOf scheme (isLast && path.isEmpty) authority
    return (some authority, .segments (segmentsOf scheme (left ++ path)))
  else
    match cs with
    | '/' :: '/' :: rest =>
      let (authority, path) := cutAuthority false rest
      let (authority, left) ← authorityOf scheme (isLast && path.isEmpty) authority
      return (some authority, .segments (segmentsOf scheme (left ++ path)))
    | '/' :: rest => return (none, .segments (segmentsOf scheme ('/' :: rest)))
    | _ => return (none, .bare (Part.plain.encode cs))

/-- A control character or a space, which an address has none of at its ends. -/
def isEdge (c : Char) : Bool := c ≤ ' '

/-- A tabulator or the end of a line, which an address has none of at all. -/
def isSkipped (c : Char) : Bool := c == '\t' || c == '\n' || c == '\r'

/-- The characters of a text that count. -/
def significant (text : String) : List Char :=
  let cs := text.toList.dropWhile isEdge
  (cs.reverse.dropWhile isEdge).reverse.filter fun c => !isSkipped c

/-- Two slashes begin the path. -/
def Path.beginsEmpty : Path → Bool
  | .segments ([] :: _ :: _) => true
  | _ => false

namespace Url

/-- The address of a text. -/
def parse (text : String) : Except AddressError Url := do
  match cutScheme? (significant text) with
  | none => .error .relativeWithoutBase
  | some (scheme, rest) =>
    let (rest, fragment) := Text.cutAt (· == '#') rest
    let (rest, query) := Text.cutAt (· == '?') rest
    let (authority, path) ← hierarchyOf scheme (query.isNone && fragment.isNone) rest
    return {
      scheme := scheme
      authority := authority
      guarded := authority.isNone && path.beginsEmpty
      path := path
      query := query.map (Part.query (isSpecial scheme)).encode
      fragment := fragment.map Part.fragment.encode }

/-! ## Writing -/

/-- Segments, each behind a slash. -/
def segmentsText (segments : List (List Char)) : List Char :=
  segments.flatMap ('/' :: ·)

/-- The path as it is written. -/
def pathText (url : Url) : List Char :=
  (if url.guarded then ['/', '.'] else []) ++
    match url.path with
    | .bare text => text
    | .segments segments => segmentsText segments

def optionalText (mark : Char) : Option (List Char) → List Char
  | none => []
  | some text => mark :: text

/-- An address as it is written. -/
def text (url : Url) : String :=
  String.ofList (url.scheme.toList ++ ':' ::
    (match url.authority with
      | none => []
      | some authority => '/' :: '/' :: authority.text) ++
    url.pathText ++ optionalText '?' url.query ++ optionalText '#' url.fragment)

/-- The address without a name and a password. -/
def withoutCredentials (url : Url) : Url :=
  { url with authority := url.authority.map Authority.withoutCredentials }

/-! ## More segments -/

/-- A path without an empty last segment, unless that is the only one. -/
def trimmedPath (path : List (List Char)) : List (List Char) :=
  if 1 < path.length ∧ path.getLast? = some [] then path.dropLast else path

/-- A path with a text as one more segment, in which nothing separates. A text that is
one or two dots is passed over. -/
def appendSegment (special : Bool) (path : List (List Char)) (text : String) :
    List (List Char) :=
  if text = "." ∨ text = ".." then path
  else
    let segment := (Part.segment special).encode (text.toList.filter fun c => !isSkipped c)
    addSegment true (if path = [[]] then [] else path) segment

/-- An address with more segments at the end of its path, if its path has segments. -/
def appendSegments? (url : Url) (texts : List String) : Option Url :=
  match url.path with
  | .bare _ => none
  | .segments path =>
    let path := texts.foldl (appendSegment (isSpecial url.scheme)) (trimmedPath path)
    some { url with path := .segments path }

end Url

end PollAtlas.Address
