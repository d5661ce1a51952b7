import ApiGateway.Decimal.Text
import ApiGateway.Text.Letter
import ApiGateway.Text.Occurrence

/-! # Network addresses

IPv4 and IPv6 addresses, and the address of a listening socket: an IP address with a port. An IPv6
address is written as eight groups of hexadecimal digits, the longest run of zero groups shortened
to `::`, and its last two groups may be written as an IPv4 address.
-/

set_option autoImplicit false

namespace ApiGateway.Network

/-! ## IPv4 -/

/-- The four parts of an IPv4 address. -/
structure Ipv4 where
  a : UInt8
  b : UInt8
  c : UInt8
  d : UInt8
  deriving DecidableEq

/-- A part of an IPv4 address: up to three digits without a leading zero. -/
def octet? (cs : List Char) : Option UInt8 :=
  if cs.length ≤ 3 ∧ ¬ (cs.head? = some '0' ∧ 1 < cs.length) ∧ cs.all Char.isDigit then
    (Decimal.readNat? 255 cs).map UInt8.ofNat
  else none

/-- Reads four parts with points between them. -/
def Ipv4.parse? (cs : List Char) : Option Ipv4 :=
  match (Text.splitOn '.' cs).mapM octet? with
  | some [a, b, c, d] => some ⟨a, b, c, d⟩
  | _ => none

/-- The text of an IPv4 address. -/
def Ipv4.text (i : Ipv4) : String :=
  ".".intercalate ([i.a, i.b, i.c, i.d].map fun n => Nat.repr n.toNat)

/-! ## IPv6 -/

/-- The eight groups of an IPv6 address. -/
structure Ipv6 where
  groups : List UInt16
  deriving DecidableEq

/-- A group of an IPv6 address: one to four hexadecimal digits. -/
def group? (cs : List Char) : Option UInt16 :=
  if cs.length ≤ 4 then (Text.hexNumber? cs).map UInt16.ofNat else none

/-- The two groups that an IPv4 address fills. -/
def Ipv4.groups (i : Ipv4) : List UInt16 :=
  [UInt16.ofNat (256 * i.a.toNat + i.b.toNat), UInt16.ofNat (256 * i.c.toNat + i.d.toNat)]

/-- Groups with colons between them; where `mixed` holds, the last part may be an IPv4 address. -/
def groups? (mixed : Bool) (cs : List Char) : Option (List UInt16) :=
  if cs.isEmpty then some []
  else
    let parts := Text.splitOn ':' cs
    match (if mixed then parts.getLast?.bind Ipv4.parse? else none) with
    | some last => (parts.dropLast.mapM group?).map (· ++ last.groups)
    | none => parts.mapM group?

/-- The text before and after the first `::`. -/
def cutDoubleColon : List Char → Option (List Char × List Char)
  | ':' :: ':' :: rest => some ([], rest)
  | c :: rest => (cutDoubleColon rest).map fun (before, after) => (c :: before, after)
  | [] => none

/-- Reads an IPv6 address. `::` stands for at least one group. -/
def Ipv6.parse? (cs : List Char) : Option Ipv6 :=
  match cutDoubleColon cs with
  | some (before, after) => do
    let head ← groups? false before
    let tail ← groups? true after
    let missing := 8 - head.length - tail.length
    if missing = 0 then none else some ⟨head ++ List.replicate missing 0 ++ tail⟩
  | none => (groups? true cs).bind fun all => if all.length = 8 then some ⟨all⟩ else none

/-- The number of zero groups in front. -/
def leadingZeros (groups : List UInt16) : Nat := (groups.takeWhile (· == 0)).length

/-- The start and the length of the first longest run of zero groups in groups that begin at a
position. -/
def longestZeros (position : Nat) : List UInt16 → Nat × Nat
  | [] => (position, 0)
  | g :: rest =>
    let here := leadingZeros (g :: rest)
    let later := longestZeros (position + 1) rest
    if later.2 ≤ here then (position, here) else later

/-- The lower-case hexadecimal digits of a group. -/
def groupText (g : UInt16) : String := String.ofList (Nat.toDigits 16 g.toNat)

/-- Groups with colons between them. -/
def groupsText (groups : List UInt16) : String := ":".intercalate (groups.map groupText)

/-- The text of an IPv6 address. The groups of an IPv4 address behind five zero groups and `ffff`
are written in its own form. -/
def Ipv6.text (i : Ipv6) : String :=
  match i.groups with
  | [0, 0, 0, 0, 0, 0xffff, x, y] =>
    let parts := [x.toNat / 256, x.toNat % 256, y.toNat / 256, y.toNat % 256]
    "::ffff:" ++ ".".intercalate (parts.map Nat.repr)
  | groups =>
    let (start, length) := longestZeros 0 groups
    if length < 2 then groupsText groups
    else groupsText (groups.take start) ++ "::" ++ groupsText (groups.drop (start + length))

/-! ## Socket addresses -/

/-- Where a service listens. -/
inductive SocketAddress where
  | v4 (host : Ipv4) (port : UInt16)
  | v6 (host : Ipv6) (scope : UInt32) (port : UInt16)
  deriving DecidableEq

namespace SocketAddress

/-- Digits that write a number up to a limit. -/
def digits? (limit : Nat) (cs : List Char) : Option Nat :=
  if cs.all Char.isDigit then Decimal.readNat? limit cs else none

/-- Reads an IPv6 address with an optional scope behind a percent sign. -/
def scoped? (cs : List Char) : Option (Ipv6 × UInt32) :=
  match Text.cutAt '%' cs with
  | none => (Ipv6.parse? cs).map (·, 0)
  | some (host, scope) => do
    return (← Ipv6.parse? host, UInt32.ofNat (← digits? 4294967295 scope))

/-- Reads an address: an IPv4 address, or an IPv6 address in brackets, a colon and a port. -/
def parse? (s : String) : Option SocketAddress :=
  match s.toList with
  | '[' :: rest => do
    let (host, rest) ← Text.cutAt ']' rest
    let (host, scope) ← scoped? host
    match rest with
    | ':' :: port => return .v6 host scope (UInt16.ofNat (← digits? 65535 port))
    | _ => none
  | cs => do
    let (host, port) ← Text.cutAt ':' cs
    return .v4 (← Ipv4.parse? host) (UInt16.ofNat (← digits? 65535 port))

/-- The text of an address. -/
def text : SocketAddress → String
  | .v4 host port => host.text ++ ":" ++ Nat.repr port.toNat
  | .v6 host scope port =>
    let scope := if scope = 0 then "" else "%" ++ Nat.repr scope.toNat
    "[" ++ host.text ++ scope ++ "]:" ++ Nat.repr port.toNat

end SocketAddress

end ApiGateway.Network
