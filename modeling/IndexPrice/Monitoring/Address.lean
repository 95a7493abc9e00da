import IndexPrice.Decimal.Reading

/-!
# Listening addresses

An address is a host and a port, joined by the last colon.  A host is an IPv4 address
of one to four numbers, an IPv6 address, which may stand in brackets, or the name
`localhost`.  A service can listen on any IPv4 address; of the IPv6 addresses it can
listen on the unspecified one and on those that stand for IPv4 addresses.
-/

namespace IndexPrice.Monitoring

/-! ## Numbers -/

def digitIn? (base : Nat) (c : Char) : Option Nat :=
  let n :=
    if c.isDigit then c.toNat - '0'.toNat
    else if 'a' ≤ c.toLower && c.toLower ≤ 'f' then c.toLower.toNat - 'a'.toNat + 10
    else base
  if n < base then some n else none

def numberIn? (base : Nat) (digits : List Char) : Option Nat :=
  if digits.isEmpty then none
  else digits.foldlM (fun n c => (digitIn? base c).map (base * n + ·)) 0

def numberUpTo? (limit : Nat) (digits : List Char) : Option Nat :=
  (numberIn? 10 digits).filter (· ≤ limit)

/-- A number in the base that its first digits tell: sixteen, eight or ten. -/
def prefixedNumber? : List Char → Option Nat
  | '0' :: 'x' :: digits | '0' :: 'X' :: digits => numberIn? 16 digits
  | '0' :: digits => numberIn? 8 ('0' :: digits)
  | digits => numberIn? 10 digits

/-! ## Hosts -/

/-- The numbers of an IPv4 address: the last one fills all the places that are left. -/
def isIPv4 (host : List Char) : Bool :=
  match (host.splitOn '.').mapM prefixedNumber? with
  | none => false
  | some numbers =>
    numbers.length ≤ 4 && numbers.dropLast.all (· ≤ 255) &&
      numbers.getLast?.all fun last => decide (last < Nat.pow 256 (5 - numbers.length))

/-- Four decimal numbers without needless zeros, as two groups of an IPv6 address. -/
def dottedGroups? (text : List Char) : Option (List Nat) :=
  let parts := text.splitOn '.'
  if parts.any fun part => part.head? = some '0' && part.length ≠ 1 then none
  else
    match parts.mapM (numberUpTo? 255) with
    | some [a, b, c, d] => some [256 * a + b, 256 * c + d]
    | _ => none

def group? (text : List Char) : Option Nat :=
  if text.length ≤ 4 then numberIn? 16 text else none

/-- Groups separated by colons; the last may be a dotted IPv4 address where `dotted`. -/
def groups? (dotted : Bool) (text : List Char) : Option (List Nat) :=
  if text.isEmpty then some []
  else
    let parts := text.splitOn ':'
    match parts.mapM group? with
    | some groups => some groups
    | none =>
      if dotted then do
        let start ← parts.dropLast.mapM group?
        let last ← dottedGroups? (parts.getLast?.getD [])
        return start ++ last
      else none

def splitAtGap : List Char → Option (List Char × List Char)
  | ':' :: ':' :: rest => some ([], rest)
  | c :: rest => (splitAtGap rest).map fun (before, after) => (c :: before, after)
  | [] => none

def ipv6Groups? (text : List Char) : Option (List Nat) :=
  match splitAtGap text with
  | none => (groups? true text).filter (·.length = 8)
  | some (before, after) => do
    let start ← groups? false before
    let rest ← groups? true after
    if start.length + rest.length ≤ 7 then
      return start ++ List.replicate (8 - start.length - rest.length) 0 ++ rest
    else none

def isOpenIPv6 (text : List Char) : Bool :=
  match ipv6Groups? text with
  | some groups =>
    groups.all (· = 0) || (groups.take 5).all (· = 0) && groups[5]? = some 0xFFFF
  | none => false

/-- An IPv6 address, after which a percent sign and the number of a zone may stand. -/
def isOpenZonedIPv6 (text : List Char) : Bool :=
  match text.span (· != '%') with
  | (address, []) => isOpenIPv6 address
  | (address, _ :: zone) => isOpenIPv6 address && (numberUpTo? (Nat.pow 2 32 - 1) zone).isSome

/-! ## Addresses -/

def splitPort? (address : List Char) : Option (List Char × List Char) :=
  match address.reverse.span (· != ':') with
  | (port, _ :: host) => some (host.reverse, port.reverse)
  | (_, []) => none

def port? (digits : List Char) : Option Nat := numberUpTo? 65535 digits

def signedPort? : List Char → Option Nat
  | '+' :: digits => port? digits
  | digits => port? digits

def bracketed? : List Char → Option (List Char)
  | '[' :: rest => if rest.getLast? = some ']' then some rest.dropLast else none
  | _ => none

def canListen (address : String) : Bool :=
  match splitPort? address.toList with
  | none => false
  | some (host, port) =>
    match bracketed? host with
    | some inner => isOpenZonedIPv6 inner && (port? port).isSome
    | none =>
      (isIPv4 host || isOpenZonedIPv6 host || host.map Char.toLower = "localhost".toList) &&
        (signedPort? port).isSome

end IndexPrice.Monitoring
