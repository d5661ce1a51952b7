import ApiGateway.Network.Address
import ApiGateway.Network.DomainName

/-! # Hosts of URLs

The host of a URL with a well-known scheme is an IPv6 address in brackets, an IPv4 address in any
of its notations, or a domain name. A text whose last label is a number has to be an IPv4 address.
The percent triplets of names and addresses are decoded first. Hosts of other schemes are opaque
texts.
-/

set_option autoImplicit false

namespace ApiGateway.Network

/-- Why a text is no URL. -/
inductive UrlFault where
  | relative
  | emptyHost
  | port
  | ipv4
  | ipv6
  | domainName
  | domainCharacter
  deriving DecidableEq

/-- The wording of a fault. -/
def UrlFault.message : UrlFault → String
  | .relative => "relative URL without a base"
  | .emptyHost => "empty host"
  | .port => "invalid port number"
  | .ipv4 => "invalid IPv4 address"
  | .ipv6 => "invalid IPv6 address"
  | .domainName => "invalid international domain name"
  | .domainCharacter => "invalid domain character"

/-- The host of a URL. -/
inductive Host where
  | domain (name : String)
  | v4 (address : Nat)
  | v6 (address : Ipv6)
  | opaqueText (text : String)
  deriving DecidableEq

/-! ## Domain names -/

/-- The bytes of a text, with percent triplets replaced by the bytes they stand for. -/
def percentDecode : List Char → List UInt8
  | [] => []
  | '%' :: a :: b :: rest =>
    match Text.hexValue? a, Text.hexValue? b with
    | some x, some y => UInt8.ofNat (16 * x + y) :: percentDecode rest
    | _, _ => 37 :: percentDecode (a :: b :: rest)
  | c :: rest => String.utf8EncodeChar c ++ percentDecode rest
termination_by cs => cs.length

/-- The domain name that a text stands for. -/
def domain? (cs : List Char) : Option String := do
  let text ← String.fromUTF8? ⟨(percentDecode cs).toArray⟩
  return String.ofList (← DomainName.read? text.toList)

/-! ## IPv4 in its older notations -/

/-- A number in decimal, in octal behind a zero, or in hexadecimal behind `0x`. -/
def anyBase? (cs : List Char) : Option Nat :=
  match cs with
  | [] => none
  | '0' :: 'x' :: digits | '0' :: 'X' :: digits =>
    if digits.isEmpty then some 0 else Text.hexNumber? digits
  | '0' :: d :: digits =>
    if (d :: digits).all fun c => '0' ≤ c && c ≤ '7' then
      some ((d :: digits).foldl (fun n c => 8 * n + Decimal.digitValue c) 0)
    else none
  | _ => if cs.all Char.isDigit then some (Decimal.ofDigits cs) else none

/-- The labels of a name; a point at the end adds none. -/
def labels (name : String) : List (List Char) :=
  let parts := Text.splitOn '.' name.toList
  if parts.getLast? = some [] then parts.dropLast else parts

/-- The last label of a name is a number. -/
def endsInNumber (name : String) : Bool :=
  match (labels name).getLast? with
  | none => false
  | some last => (!last.isEmpty && last.all Char.isDigit) || (anyBase? last).isSome

/-- The address that one to four numbers write: the last one fills all the bytes that are left. -/
def address? (numbers : List Nat) : Option Nat :=
  match numbers.getLast? with
  | none => none
  | some last =>
    let first := numbers.dropLast
    if first.length ≤ 3 ∧ first.all (· ≤ 255) ∧ last < Nat.pow 256 (4 - first.length) then
      some (first.foldr (fun n acc => (acc.1 * 256, acc.2 + n * acc.1 * 256))
        (Nat.pow 256 (3 - first.length), 0)).2 |>.map (· + last)
    else none

/-- Reads an IPv4 address in any notation. -/
def readIpv4? (name : String) : Option Nat := ((labels name).mapM anyBase?).bind address?

/-! ## Hosts -/

/-- The address between brackets. -/
def bracketed (cs : List Char) : Except UrlFault Host :=
  if cs.getLast? = some ']' then
    match Ipv6.parse? (cs.drop 1).dropLast with
    | some address => .ok (.v6 address)
    | none => .error .ipv6
  else .error .ipv6

/-- Reads the host of a URL with a well-known scheme. -/
def Host.parse (cs : List Char) : Except UrlFault Host :=
  if cs.head? = some '[' then bracketed cs
  else
    match domain? cs with
    | none => .error .domainName
    | some name =>
      if name.isEmpty then .error .emptyHost
      else if endsInNumber name then
        match readIpv4? name with
        | some address => .ok (.v4 address)
        | none => .error .ipv4
      else .ok (.domain name)

/-- A character that no opaque host may hold. -/
def isForbiddenOpaque (c : Char) : Bool :=
  ['\x00', '\t', '\n', '\r', ' ', '#', '/', ':', '<', '>', '?', '@', '[', '\\', ']', '^',
    '|'].contains c

/-- Reads the host of a URL with another scheme. -/
def Host.parseOpaque (cs : List Char) : Except UrlFault Host :=
  if cs.head? = some '[' then bracketed cs
  else if cs.any isForbiddenOpaque then .error .domainCharacter
  else .ok (.opaqueText (String.ofList cs))

/-- The host is this machine: `localhost`, 127.0.0.1 or `::1`. -/
def Host.isLocal : Host → Bool
  | .domain name => name == "localhost"
  | .v4 address => address == 0x7F000001
  | .v6 address => address.groups == [0, 0, 0, 0, 0, 0, 0, 1]
  | .opaqueText _ => false

end ApiGateway.Network
