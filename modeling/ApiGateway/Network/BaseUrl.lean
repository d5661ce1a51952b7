import ApiGateway.Network.Host

/-! # Base URLs

`Url.parse` reads as much of a URL as the gateway judges: the scheme, the host, and whether a query
or a fragment follows. `checkBaseUrl` accepts a URL with a host and without a query or fragment,
with scheme `https`, or with `http` if the host is this machine.
-/

set_option autoImplicit false

namespace ApiGateway.Network

/-- What the gateway reads of a URL. -/
structure Url where
  scheme : String
  host : Option Host
  /-- A query or a fragment follows. -/
  hasSuffix : Bool
  deriving DecidableEq

/-! ## Parts of a URL -/

/-- The text without the controls and spaces around it and without tabs and line ends. -/
def cleaned (cs : List Char) : List Char :=
  let edge (c : Char) : Bool := c.toNat ≤ 32
  (((cs.dropWhile edge).reverse.dropWhile edge).reverse).filter fun c =>
    c != '\t' && c != '\n' && c != '\r'

/-- The scheme, in lower case, and what follows its colon. -/
def takeScheme? (cs : List Char) : Option (String × List Char) :=
  match Text.cutAt ':' cs with
  | some (c :: name, rest) =>
    if c.isAlpha && name.all fun c => c.isAlphanum || c == '+' || c == '-' || c == '.' then
      some (Text.asciiLower (String.ofList (c :: name)), rest)
    else none
  | _ => none

/-- The schemes whose URLs always have a host that is a domain name or an IP address. -/
def isSpecial (scheme : String) : Bool := ["http", "https", "ws", "wss", "ftp"].contains scheme

/-- A character that ends the authority; a backslash does so for special schemes. -/
def endsAuthority (special : Bool) (c : Char) : Bool :=
  c == '/' || c == '?' || c == '#' || (special && c == '\\')

/-- The text before and after the last `@`. -/
def cutUserinfo (cs : List Char) : Option (List Char × List Char) :=
  (Text.cutAt '@' cs.reverse).map fun (after, before) => (before.reverse, after.reverse)

/-- The host and what follows it: a colon inside brackets belongs to the host. -/
def spanHost (inBrackets : Bool) : List Char → List Char × List Char
  | [] => ([], [])
  | c :: rest =>
    if c = ':' ∧ ¬ inBrackets then ([], c :: rest)
    else
      let (host, rest) := spanHost ((inBrackets || c == '[') && c != ']') rest
      (c :: host, rest)

/-- Some query or fragment begins. -/
def beginsSuffix (cs : List Char) : Bool := cs.any fun c => c == '?' || c == '#'

/-- A port, if anything but a backslash follows the colon, is a number below 65536. -/
def checkPort (cs : List Char) : Except UrlFault Unit :=
  let digits := cs.takeWhile (· != '\\')
  if digits.all Char.isDigit && Decimal.ofDigits digits ≤ 65535 then .ok () else .error .port

/-- Reads what follows the slashes of the authority. -/
def parseAuthority (scheme : String) (cs : List Char) : Except UrlFault Url := do
  let special := isSpecial scheme
  let authority := cs.takeWhile fun c => !endsAuthority special c
  let after := cs.dropWhile fun c => !endsAuthority special c
  let (user, hostAndPort) := (cutUserinfo authority).getD ([], authority)
  if hostAndPort.isEmpty && (cutUserinfo authority).isSome && user.isEmpty && !after.isEmpty then
    throw .emptyHost
  let (hostText, rest) := spanHost false hostAndPort
  if special && hostText.isEmpty then throw .emptyHost
  let host ← if special then Host.parse hostText else Host.parseOpaque hostText
  let absent := hostText.isEmpty
  match rest with
  | ':' :: port =>
    if absent then throw .emptyHost
    checkPort port
  | _ => pure ()
  -- A user without a host is an error, unless both its name and its password are empty.
  if absent && !user.isEmpty && user != [':'] then throw .emptyHost
  return ⟨scheme, if absent then none else some host, beginsSuffix after⟩

/-- A letter and a colon or a bar, as they name a drive. -/
def isDriveLetter : List Char → Bool
  | [c, d] => c.isAlpha && (d == ':' || d == '|')
  | _ => false

/-- Reads what follows `file:`. A local file has no host, and neither has a path that begins with
a drive letter. -/
def parseFile (cs : List Char) : Except UrlFault Url := do
  let slash (c : Char) : Bool := c == '/' || c == '\\'
  match cs with
  | a :: b :: rest =>
    if slash a && slash b then
      let hostText := rest.takeWhile fun c => !endsAuthority true c
      let after := rest.dropWhile fun c => !endsAuthority true c
      let firstSegment := (after.drop 1).takeWhile fun c => !endsAuthority true c
      if hostText.isEmpty || isDriveLetter hostText then
        return ⟨"file", none, beginsSuffix after⟩
      let host ← Host.parse hostText
      let absent := host == .domain "localhost" || isDriveLetter firstSegment
      return ⟨"file", if absent then none else some host, beginsSuffix after⟩
    else return ⟨"file", none, beginsSuffix cs⟩
  | _ => return ⟨"file", none, beginsSuffix cs⟩

/-- Reads a URL. -/
def Url.parse (text : String) : Except UrlFault Url :=
  match takeScheme? (cleaned text.toList) with
  | none => .error .relative
  | some (scheme, rest) =>
    if scheme = "file" then parseFile rest
    else if isSpecial scheme then
      parseAuthority scheme (rest.dropWhile fun c => c == '/' || c == '\\')
    else
      match rest with
      | '/' :: '/' :: rest => parseAuthority scheme rest
      | _ => .ok ⟨scheme, none, beginsSuffix rest⟩

/-! ## Base URLs -/

/-- Why a text is no base URL. -/
inductive BaseUrlError where
  | invalid (url : String) (fault : UrlFault)
  | missingHost (url : String)
  | insecureScheme (url scheme : String)
  | unexpectedSuffix (url : String)
  deriving DecidableEq

/-- The wording of an error. -/
def BaseUrlError.message : BaseUrlError → String
  | .invalid url fault => "invalid base URL '" ++ url ++ "': " ++ fault.message
  | .missingHost url => "base URL '" ++ url ++ "' must include a host"
  | .insecureScheme url scheme =>
    "base URL '" ++ url ++ "' must use https for non-localhost hosts; got '" ++ scheme ++ "://'"
  | .unexpectedSuffix url => "base URL '" ++ url ++ "' must not carry a query string or fragment"

/-- Accepts a base URL or says why not. -/
def checkBaseUrl (url : String) : Except BaseUrlError Unit :=
  match Url.parse url with
  | .error fault => .error (.invalid url fault)
  | .ok u =>
    match u.host with
    | none => .error (.missingHost url)
    | some host =>
      if u.hasSuffix then .error (.unexpectedSuffix url)
      else if u.scheme = "https" ∨ (u.scheme = "http" ∧ host.isLocal) then .ok ()
      else .error (.insecureScheme url u.scheme)

end ApiGateway.Network
