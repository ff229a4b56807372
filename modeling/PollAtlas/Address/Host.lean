import PollAtlas.Address.Domain.Label
import PollAtlas.Address.Percent
import PollAtlas.Number.Text
import PollAtlas.Text.Split

/-!
# Hosts

The host of an address: a name, or a number of 32 or 128 bits in one of its notations.

* `Host.ofSpecial`: the host of an address of a well-known scheme.
* `Host.ofOther`: the host of any other address.
* `Host.text`: a host as it is written.
-/

namespace PollAtlas.Address

open scoped Power

/-- Why a text is no address. -/
inductive AddressError where
  | relativeWithoutBase
  | emptyHost
  | invalidPort
  | invalidDomainName
  | invalidDomainCharacter
  | invalidIpv4
  | invalidIpv6
  deriving DecidableEq, Repr

/-- The wording of an error. -/
def AddressError.message : AddressError → String
  | relativeWithoutBase => "relative URL without a base"
  | emptyHost => "empty host"
  | invalidPort => "invalid port number"
  | invalidDomainName => "invalid international domain name"
  | invalidDomainCharacter => "invalid domain character"
  | invalidIpv4 => "invalid IPv4 address"
  | invalidIpv6 => "invalid IPv6 address"

/-- A host. -/
inductive Host where
  | name (s : String)
  | ipv4 (address : Nat)
  /-- Eight groups of 16 bits. -/
  | ipv6 (groups : List Nat)
  deriving DecidableEq, Repr

/-! ## Numbers of 32 bits -/

/-- A number: hexadecimal behind `0x`, octal behind `0`, decimal otherwise. -/
def ipv4Number? (cs : List Char) : Option Nat :=
  match cs with
  | [] => none
  | '0' :: 'x' :: digits => hexNumber? digits
  | '0' :: 'X' :: digits => hexNumber? digits
  | '0' :: d :: digits =>
    if (d :: digits).all fun c => '0' ≤ c && c ≤ '7' then
      some ((d :: digits).foldl (fun n c => n * 8 + (c.toNat - '0'.toNat)) 0)
    else none
  | digits => if digits.all Char.isDigit then some (natOfDigits digits) else none
where
  hexNumber? (digits : List Char) : Option Nat :=
    digits.foldlM (fun n c => (hexDigit? c).map (n * 16 + ·)) 0

/-- The pieces of a name between its points, without an empty one at the end. -/
def nameLabels (name : List Char) : List (List Char) :=
  let labels := Text.splitWhere (· == '.') name
  if 1 < labels.length ∧ labels.getLast? = some [] then labels.dropLast else labels

/-- The last piece of a name is a number, so that the name has to be an address. -/
def endsInNumber (name : List Char) : Bool :=
  match (nameLabels name).getLast? with
  | none => false
  | some last => (!last.isEmpty && last.all Char.isDigit) || (ipv4Number? last).isSome

/-- An address of one to four numbers. The last one fills the bits that are left. -/
def ipv4? (name : List Char) : Option Nat := do
  let labels := nameLabels name
  if 4 < labels.length then none
  else
    let numbers ← labels.mapM ipv4Number?
    let last ← numbers.getLast?
    let first := numbers.dropLast
    if 256 ^ (4 - first.length) ≤ last ∨ first.any (255 < ·) then none
    else some (first.zipIdx.foldl (fun sum (n, i) => sum + n * 256 ^ (3 - i)) last)

/-- Four numbers with points between them. -/
def ipv4Text (address : Nat) : List Char :=
  ['.'].intercalate
    ([address / 0x1000000 % 256, address / 0x10000 % 256, address / 256 % 256, address % 256].map
      (Nat.toDigits 10))

/-! ## Numbers of 128 bits -/

/-- A group of one to four hexadecimal digits. -/
def ipv6Group? (cs : List Char) : Option Nat :=
  if cs.isEmpty ∨ 4 < cs.length then none
  else cs.foldlM (fun n c => (hexDigit? c).map (n * 16 + ·)) 0

/-- A decimal number up to 255 without a zero before it. -/
def octet? (cs : List Char) : Option Nat :=
  if cs.isEmpty ∨ !cs.all Char.isDigit ∨ (1 < cs.length ∧ cs.head? = some '0') then none
  else if 255 < natOfDigits cs then none
  else some (natOfDigits cs)

/-- The two groups that four octets with points between them stand for. -/
def quadGroups? (cs : List Char) : Option (List Nat) := do
  match ← (Text.splitWhere (· == '.') cs).mapM octet? with
  | [a, b, c, d] => some [a * 256 + b, c * 256 + d]
  | _ => none

/-- Groups with colons between them. Only at the end of an address two of them may be
written as four octets. -/
def ipv6Groups? (atEnd : Bool) : List (List Char) → Option (List Nat)
  | [] => some []
  | [last] =>
    if atEnd && last.contains '.' then quadGroups? last else (ipv6Group? last).map ([·])
  | group :: rest => do
    let group ← ipv6Group? group
    let rest ← ipv6Groups? atEnd rest
    return group :: rest

/-- The groups of a part that may be empty. -/
def ipv6Side? (atEnd : Bool) (cs : List Char) : Option (List Nat) :=
  if cs.isEmpty then some [] else ipv6Groups? atEnd (Text.splitWhere (· == ':') cs)

/-- The parts before and after the first two colons in a row. -/
def cutAtGap? : List Char → Option (List Char × List Char)
  | ':' :: ':' :: rest => some ([], rest)
  | c :: rest => (cutAtGap? rest).map fun (before, after) => (c :: before, after)
  | [] => none

/-- An address of eight groups; two colons stand for the zeros that are left out. -/
def ipv6? (cs : List Char) : Option (List Nat) := do
  match cutAtGap? cs with
  | none =>
    let groups ← ipv6Groups? true (Text.splitWhere (· == ':') cs)
    if groups.length = 8 then some groups else none
  | some (before, after) =>
    let first ← ipv6Side? false before
    let last ← ipv6Side? true after
    if first.length + last.length ≤ 7 then
      some (first ++ List.replicate (8 - first.length - last.length) 0 ++ last)
    else none

/-- The number of zeros that a list begins with. -/
def leadingZeros (groups : List Nat) : Nat := (groups.takeWhile (· == 0)).length

/-- Where the first longest run of zeros begins, and how long it is. -/
def longestGap (groups : List Nat) : Nat × Nat :=
  (List.range groups.length).foldl
    (fun best i =>
      let run := leadingZeros (groups.drop i)
      if best.2 < run then (i, run) else best)
    (0, 0)

/-- Groups with colons between them; the first longest run of two or more zeros is left
out. -/
def ipv6Text (groups : List Nat) : List Char :=
  let join (groups : List Nat) : List Char := [':'].intercalate (groups.map (Nat.toDigits 16))
  let (start, run) := longestGap groups
  if run < 2 then join groups
  else join (groups.take start) ++ ':' :: ':' :: join (groups.drop (start + run))

/-! ## Hosts -/

namespace Host

/-- Between brackets stands an address of 128 bits. -/
def bracketed (cs : List Char) : Except AddressError Host :=
  match cs.reverse with
  | ']' :: inner =>
    match ipv6? inner.reverse with
    | some groups => .ok (ipv6 groups)
    | none => .error .invalidIpv6
  | _ => .error .invalidIpv6

/-- Characters that no domain name holds. -/
def isForbiddenInName (c : Char) : Bool :=
  c ≤ ' ' || c == '\x7f' ||
    ['%', '#', '/', ':', '<', '>', '?', '@', '[', '\\', ']', '^', '|'].contains c

/-- The host of an address of a well-known scheme: a domain name, or an address in any
notation. -/
def ofSpecial (cs : List Char) : Except AddressError Host :=
  match cs with
  | '[' :: rest => bracketed rest
  | _ =>
    match (percentDecode? cs).bind fun decoded => domainName? decoded.toList with
    | none => .error .invalidDomainName
    | some domain =>
      if domain.any isForbiddenInName then .error .invalidDomainName
      else if domain.isEmpty then .error .emptyHost
      else if endsInNumber domain then
        match ipv4? domain with
        | some address => .ok (ipv4 address)
        | none => .error .invalidIpv4
      else .ok (.name (String.ofList domain))

/-- Characters that no host holds. -/
def isForbidden (c : Char) : Bool :=
  ['\x00', '\t', '\n', '\r', ' ', '#', '/', ':', '<', '>', '?', '@', '[', '\\', ']', '^',
    '|'].contains c

/-- The host of an address of any other scheme is not looked into. -/
def ofOther (cs : List Char) : Except AddressError Host :=
  match cs with
  | '[' :: rest => bracketed rest
  | _ =>
    if cs.any isForbidden then .error .invalidDomainCharacter
    else .ok (.name (String.ofList (Part.plain.encode cs)))

/-- A host as it is written. -/
def text : Host → List Char
  | name s => s.toList
  | ipv4 address => ipv4Text address
  | ipv6 groups => '[' :: ipv6Text groups ++ [']']

end Host

end PollAtlas.Address
