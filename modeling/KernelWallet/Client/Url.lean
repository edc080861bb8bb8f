import KernelWallet.Bytes
import KernelWallet.Domain.Name
import KernelWallet.Text.Split

/-! Whether a text is an absolute URL, and its scheme. Paths, queries and fragments take any
character; what can be wrong are the scheme, the host and the port. -/

namespace KernelWallet

inductive UrlError where
  | emptyHost
  | invalidDomain
  | invalidPort
  | invalidIpv4
  | invalidIpv6
  | invalidDomainCharacter
  | relativeWithoutBase
  deriving DecidableEq, Repr

def UrlError.message : UrlError → String
  | .emptyHost => "empty host"
  | .invalidDomain => "invalid international domain name"
  | .invalidPort => "invalid port number"
  | .invalidIpv4 => "invalid IPv4 address"
  | .invalidIpv6 => "invalid IPv6 address"
  | .invalidDomainCharacter => "invalid domain character"
  | .relativeWithoutBase => "relative URL without a base"

namespace Url

/-- Drops blanks and control characters at both ends, and tabs and line breaks everywhere. -/
def trim (s : String) : List Char :=
  let isEdge (c : Char) : Bool := c.toNat ≤ 0x20
  let inner := ((s.toList.dropWhile isEdge).reverse.dropWhile isEdge).reverse
  inner.filter fun c => c != '\t' && c != '\n' && c != '\r'

/-- A scheme in lower case, and what follows its colon. -/
def splitScheme? (s : List Char) : Option (String × List Char) :=
  let isPart (c : Char) : Bool := c.isAlphanum || c == '+' || c == '-' || c == '.'
  let scheme := s.takeWhile isPart
  match scheme, s.drop scheme.length with
  | first :: _, ':' :: rest =>
    if first.isAlpha then some (String.ofList (scheme.map Char.toLower), rest) else none
  | _, _ => none

def needsHost (scheme : String) : Bool :=
  ["http", "https", "ws", "wss", "ftp"].contains scheme

/-- Whether a character ends the part of a URL that names the host. -/
def endsAuthority (special : Bool) (c : Char) : Bool :=
  c == '/' || c == '?' || c == '#' || (special && c == '\\')

def hexValue? (c : Char) : Option Nat :=
  if '0' ≤ c ∧ c ≤ '9' then some (c.toNat - 48)
  else if 'a' ≤ c ∧ c ≤ 'f' then some (c.toNat - 87)
  else if 'A' ≤ c ∧ c ≤ 'F' then some (c.toNat - 55)
  else none

/-- Bytes with each `%` and two digits replaced by the byte they spell. -/
def percentDecode : Bytes → Bytes
  | 0x25 :: hi :: lo :: rest =>
    match hexValue? (Char.ofNat hi.toNat), hexValue? (Char.ofNat lo.toNat) with
    | some x, some y => UInt8.ofNat (16 * x + y) :: percentDecode rest
    | _, _ => 0x25 :: percentDecode (hi :: lo :: rest)
  | b :: rest => b :: percentDecode rest
  | [] => []

/-- The value of a part of an IPv4 address: decimal, octal after `0`, hexadecimal after `0x`. -/
def ipv4Part? (s : List Char) : Option Nat :=
  let digits (base : Nat) (ds : List Char) : Option Nat :=
    ds.foldlM (fun n c => (hexValue? c).bind fun d =>
      if d < base then some (base * n + d) else none) 0
  match s with
  | [] => none
  | '0' :: 'x' :: rest => digits 16 rest
  | '0' :: 'X' :: rest => digits 16 rest
  | '0' :: d :: rest => digits 8 (d :: rest)
  | ds => digits 10 ds

def hostParts (host : List Char) : List (List Char) :=
  let parts := split '.' host
  if parts.getLast? == some [] && 1 < parts.length then parts.dropLast else parts

/-- Whether the last part of a host is a number, so that the whole has to be an address. -/
def endsInNumber (host : List Char) : Bool :=
  match (hostParts host).getLast? with
  | some part => (!part.isEmpty && part.all Char.isDigit) || (ipv4Part? part).isSome
  | none => false

/-- At most four parts, each a byte; the last fills all bytes that are left. -/
def isIpv4 (host : List Char) : Bool :=
  let parts := hostParts host
  match parts.mapM ipv4Part? with
  | some numbers =>
    parts.length ≤ 4 && numbers.dropLast.all (· < 256) &&
      numbers.getLastD 0 < 256 ^ (5 - parts.length)
  | none => false

/-- Four decimal bytes without leading zeros. -/
def isDottedQuad (s : List Char) : Bool :=
  let parts := split '.' s
  parts.length == 4 && parts.all fun p =>
    !p.isEmpty && p.length ≤ 3 && p.all Char.isDigit && (p.length == 1 || p.head? != some '0') &&
      p.foldl (fun n c => 10 * n + (c.toNat - 48)) 0 < 256

/-- The number of groups of two bytes in a list of pieces, of which the last may be a dotted quad;
none if a piece is not a group. -/
def ipv6Groups? (quadAllowed : Bool) : List (List Char) → Option Nat
  | [] => some 0
  | [p] =>
    if quadAllowed && isDottedQuad p then some 2
    else if !p.isEmpty && p.length ≤ 4 && p.all (hexValue? · |>.isSome) then some 1
    else none
  | p :: rest =>
    if !p.isEmpty && p.length ≤ 4 && p.all (hexValue? · |>.isSome) then
      (ipv6Groups? quadAllowed rest).map (· + 1)
    else none

/-- The texts before and after the first `::`. -/
def splitDouble (done : List Char) : List Char → Option (List Char × List Char)
  | ':' :: ':' :: rest => some (done.reverse, rest)
  | c :: rest => splitDouble (c :: done) rest
  | [] => none

/-- Eight groups, or fewer around one `::`. -/
def isIpv6 (s : List Char) : Bool :=
  let groups? (quadAllowed : Bool) (part : List Char) : Option Nat :=
    if part.isEmpty then some 0 else ipv6Groups? quadAllowed (split ':' part)
  match splitDouble [] s with
  | none => !s.isEmpty && groups? true s == some 8
  | some (before, after) =>
    match groups? false before, groups? true after with
    | some n, some k => n + k < 8
    | _, _ => false

/-- Checks a host: an IPv6 address in brackets, an IPv4 address, or a domain name. -/
def checkHost (host : List Char) : Except UrlError Unit :=
  match host with
  | '[' :: rest =>
    if rest.getLast? == some ']' && isIpv6 rest.dropLast then .ok () else .error .invalidIpv6
  | _ =>
    let text := Bytes.toText? (percentDecode (Bytes.ofText (String.ofList host)))
    match text.bind fun t => Domain.ofChars? t.toList with
    | none => .error .invalidDomain
    | some [] => .error .emptyHost
    | some name =>
      if endsInNumber name && !isIpv4 name then .error .invalidIpv4 else .ok ()

/-- Checks the host of a scheme that gives it no meaning. -/
def checkOpaqueHost (host : List Char) : Except UrlError Unit :=
  match host with
  | '[' :: rest =>
    if rest.getLast? == some ']' && isIpv6 rest.dropLast then .ok () else .error .invalidIpv6
  | _ =>
    if host.any fun c => ("\x00\t\n\r #/:<>?@[\\]^|").toList.contains c then
      .error .invalidDomainCharacter
    else .ok ()

/-- The host in front of a colon that is not in brackets, and what follows it. -/
def splitPort (inBrackets : Bool) (done : List Char) : List Char → List Char × Option (List Char)
  | [] => (done.reverse, none)
  | c :: rest =>
    if c == ':' && !inBrackets then (done.reverse, some rest)
    else splitPort (if c == '[' then true else if c == ']' then false else inBrackets) (c :: done)
      rest

def checkPort (port : List Char) : Except UrlError Unit :=
  if port.all Char.isDigit && port.foldl (fun n c => 10 * n + (c.toNat - 48)) 0 < 65536 then .ok ()
  else .error .invalidPort

/-- What stands before and after the last `@`, if there is one. -/
def splitUser (s : List Char) : Option (List Char) × List Char :=
  let host := (s.reverse.takeWhile (· != '@')).reverse
  if s.contains '@' then (some (s.take (s.length - host.length - 1)), host) else (none, host)

/-- Whether a host may be left out behind a user. A user of no characters needs one if more of the
URL follows, any other always; a colon alone is no user. -/
def mayLackHost (atEnd : Bool) : Option (List Char) → Bool
  | none => true
  | some [] => atEnd
  | some user => user == [':']

/-- Checks user, host and port, up to the path. A backslash ends the port. -/
def checkAuthority (special : Bool) (s : List Char) : Except UrlError Unit := do
  let authority := s.takeWhile (!endsAuthority special ·)
  let atEnd := authority.length = s.length
  let (user, rest) := splitUser authority
  let (host, port) := splitPort false [] rest
  if host.isEmpty && (special || port.isSome || !mayLackHost atEnd user) then throw .emptyHost
  if special then checkHost host else checkOpaqueHost host
  checkPort ((port.getD []).takeWhile (· != '\\'))

/-- Checks the host of a file URL, which may be left out or give way to a drive letter. -/
def checkFile (s : List Char) : Except UrlError Unit :=
  match s with
  | a :: b :: rest =>
    if (a == '/' || a == '\\') && (b == '/' || b == '\\') then
      let host := rest.takeWhile (!endsAuthority true ·)
      match host with
      | [] => .ok ()
      | [letter, mark] =>
        if letter.isAlpha && (mark == ':' || mark == '|') then .ok () else checkHost host
      | _ => checkHost host
    else .ok ()
  | _ => .ok ()

/-- The scheme of an absolute URL. -/
def scheme (s : String) : Except UrlError String := do
  match splitScheme? (trim s) with
  | none => throw .relativeWithoutBase
  | some (scheme, rest) =>
    if needsHost scheme then
      checkAuthority true (rest.dropWhile fun c => c == '/' || c == '\\')
    else if scheme = "file" then checkFile rest
    else match rest with
      | '/' :: '/' :: rest => checkAuthority false rest
      | _ => pure ()
    return scheme

end Url

end KernelWallet
