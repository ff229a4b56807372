import PollAtlas.Address.Query
import PollAtlas.Election.Candidacy
import PollAtlas.Journal
import PollAtlas.Text.Quoted

/-!
# The polling service

The addresses of the service's answers. A base is given; the path of an answer is put
behind the path of the base, and its parameters behind the base's own.

* `mapLatest`: the latest observations of all regions.
* `regionElections`: the elections of one region.
* `fetch`: a request, as far as it goes without a connection.
-/

namespace PollAtlas.Service

open PollAtlas.Address (Url)

/-! ## Errors -/

/-- Why there is no answer. -/
inductive RequestError where
  /-- The address cannot be built. -/
  | invalidUrl (cause : String)
  /-- No requests are made of addresses of this scheme. -/
  | unsupportedScheme (url : Url)
  /-- No request can name this address. -/
  | unnamable (url : Url)
  /-- No connection to the service. -/
  | unreachable (url : Url)
  deriving DecidableEq, Repr

namespace RequestError

/-- The wording of an error. -/
def message : RequestError → String
  | invalidUrl cause => "Invalid URL: " ++ cause
  | unsupportedScheme url => "HTTP request failed: builder error for url (" ++ url.text ++ ")"
  | unnamable url => "HTTP request failed: builder error for url (" ++ url.text ++ ")"
  | unreachable url =>
    "HTTP request failed: error sending request for url (" ++ url.text ++ ")"

/-- Where a connection goes to, if the host is a number. -/
def peer? (url : Url) : Option String :=
  url.authority.bind fun authority =>
    match authority.host, authority.port.or (Address.usualPort? url.scheme) with
    | .name _, _ => none
    | _, none => none
    | host, some port => some (String.ofList host.text ++ ":" ++ toString port)

/-- A connection that was refused, as diagnostics show it. -/
def refusal (url : Url) : String :=
  "hyper_util::client::legacy::Error(Connect, ConnectError(\"tcp connect error\", " ++
    ((peer? url).map (· ++ ", ")).getD "" ++
    "Os \x7b code: 111, kind: ConnectionRefused, message: \"Connection refused\" \x7d))"

/-- A failed request, as diagnostics show it: how far it came, its address and the cause. -/
def requestDiagnostic (stage : String) (url : Url) (cause : String) : String :=
  "Http(reqwest::Error \x7b kind: " ++ stage ++ ", url: " ++ Text.quoted url.text ++
    ", source: " ++ cause ++ " \x7d)"

/-- An error as diagnostics show it. -/
def diagnostic : RequestError → String
  | invalidUrl cause => "InvalidUrl \x7b message: " ++ Text.quoted cause ++ " \x7d"
  | unsupportedScheme url => requestDiagnostic "Builder" url "BadScheme"
  | unnamable url => requestDiagnostic "Builder" url (Text.quoted "Parsed Url is not a valid Uri")
  | unreachable url => requestDiagnostic "Request" url (refusal url)

end RequestError

/-! ## Addresses -/

/-- The address that a text is. -/
def addressOf (text : String) : Except RequestError Url :=
  match Url.parse text with
  | .ok url => .ok url
  | .error e => .error (.invalidUrl (text ++ ": " ++ e.message))

/-- The address of an answer of the service. -/
def endpoint (base : String) (segments : List String) : Except RequestError Url := do
  let url ← addressOf base
  match url.appendSegments? (["api", "v1"] ++ segments) with
  | some url => return url
  | none => .error (.invalidUrl (base ++ " cannot be a base URL"))

/-- The latest observations of all regions, at most `limit` of them. -/
def mapLatest (base : String) (limit : Option Nat) : Except RequestError Url := do
  let url ← endpoint base ["dashboard", "map-latest"]
  match limit with
  | none => return url
  | some limit => return url.appendPair "limit" (toString limit)

/-- The elections of a region in a data set, the official one unless another is named. -/
def regionElections (base regionCode : String) (topology version : Option String) :
    Except RequestError Url := do
  let url ← endpoint base ["regions", regionCode, "elections"]
  let url := url.appendPair "topology" (topology.getD Election.officialTopology)
  match version.filter (· ≠ "") with
  | none => return url
  | some version => return url.appendPair "version_id" version

/-! ## Requests -/

/-- The schemes that requests are made of. -/
def requestSchemes : List String := ["http", "https"]

/-- Characters of a domain name that the address in a request cannot hold. -/
def unnamableChars : List Char := ['"', '\x60', '\x7b', '\x7d']

/-- The longest address in a request. -/
def longestAddress : Nat := 65534

/-- A request can name the address. -/
def isNamable (url : Url) : Bool :=
  let host := ((url.authority.map fun authority => authority.host.text)).getD []
  !host.any unnamableChars.contains && url.text.length ≤ longestAddress

/-- The answer to a request. The program has no connection to any network, so a request
ends where its connection would begin. The name and the password of an address are sent
apart from it. -/
def fetch (url : Except RequestError Url) : Except RequestError String :=
  url.bind fun url =>
    let url := url.withoutCredentials
    if !requestSchemes.contains url.scheme then .error (.unsupportedScheme url)
    else if !isNamable url then .error (.unnamable url)
    else .error (.unreachable url)

/-- The note on a request that is made. -/
def fetchNotes (url : Except RequestError Url) : List Note :=
  match url with
  | .ok url => [⟨.debug, "GET " ++ url.text⟩]
  | .error _ => []

/-! ## Where things are -/

/-- The variable that holds the base of the service. -/
def baseVariable : String := "POLL_MAP_API_BASE"

/-- The base of the service unless another is given. -/
def defaultBase : String := "http://127.0.0.1:8100"

/-- The variable that holds the place of the boundaries. -/
def boundariesVariable : String := "POLL_MAP_GEOJSON"

/-- The place of the boundaries unless another is given. -/
def defaultBoundaries : String := "public/geo/kr_adm1_simplified.geojson"

/-- The given value, or the one that a variable holds, or the default. -/
def setting (given held : Option String) (default : String) : String :=
  (given.or held).getD default

/-- A place on the web and not in a file. -/
def isRemote (location : String) : Bool :=
  "http://".toList.isPrefixOf location.toList || "https://".toList.isPrefixOf location.toList

end PollAtlas.Service
