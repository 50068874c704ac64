import Mintmark.Net.Address
import Mintmark.Net.Domain.Name
import Mintmark.Net.Percent

/-!
# Web addresses

Enough of the syntax of web addresses to tell the scheme of one and what is wrong with it: a scheme,
and behind two slashes a user, a host and a port. The hosts of the common web schemes and of files
are domain names; for all other schemes a host is any text without the characters that delimit it.
-/

namespace Mintmark.Net

inductive UrlFault where
  | noScheme
  | emptyHost
  | badPort
  | badV4
  | badV6
  | badDomain
  | badInternationalName
deriving DecidableEq, Repr

def UrlFault.message : UrlFault → String
  | noScheme => "relative URL without a base"
  | emptyHost => "empty host"
  | badPort => "invalid port number"
  | badV4 => "invalid IPv4 address"
  | badV6 => "invalid IPv6 address"
  | badDomain => "invalid domain character"
  | badInternationalName => "invalid international domain name"

namespace Url

def isC0OrSpace (c : Char) : Bool := c ≤ ' '

/-- Drops control characters and spaces around a text, and tabs and line ends within. -/
def clean (cs : List Char) : List Char :=
  let trimmed := ((cs.dropWhile isC0OrSpace).reverse.dropWhile isC0OrSpace).reverse
  trimmed.filter fun c => c != '\t' && c != '\n' && c != '\r'

def isSchemeChar (c : Char) : Bool := c.isAlphanum || c == '+' || c == '-' || c == '.'

/-- The scheme in lower case and what follows its colon. -/
def scheme? (cs : List Char) : Option (List Char × List Char) :=
  match cs.takeWhile isSchemeChar, cs.dropWhile isSchemeChar with
  | c :: name, ':' :: rest => if c.isAlpha then some ((c :: name).map Char.toLower, rest) else none
  | _, _ => none

/-- The schemes whose hosts are domain names. -/
def webSchemes : List String := ["http", "https", "ws", "wss", "ftp"]

/-- Whether a character ends the authority. -/
def endsAuthority (isWeb : Bool) (c : Char) : Bool :=
  c == '/' || c == '?' || c == '#' || (isWeb && c == '\\')

/-- The text before the last at sign, and the text after it. -/
def splitUser (cs : List Char) : Option (List Char) × List Char :=
  let reversed := cs.reverse
  match reversed.dropWhile (· != '@') with
  | _ :: user => (some user.reverse, (reversed.takeWhile (· != '@')).reverse)
  | [] => (none, cs)

/-- The host, and from its colon on the port. Colons in brackets belong to the host. -/
def splitPort : Bool → List Char → List Char × List Char
  | _, [] => ([], [])
  | inBrackets, c :: cs =>
    if c = ':' ∧ inBrackets = false then ([], c :: cs)
    else
      let inBrackets := if c = '[' then true else if c = ']' then false else inBrackets
      let (host, rest) := splitPort inBrackets cs
      (c :: host, rest)

def hostDelimiters : List Char :=
  ['\x00', '\t', '\n', '\r', ' ', '#', '/', ':', '<', '>', '?', '@', '[', '\\', ']', '^', '|']

/-- What is wrong with a host in brackets. -/
def bracketFault? (cs : List Char) : Option UrlFault :=
  if cs.getLast? = some ']' ∧ (Address.readV6? (cs.drop 1).dropLast).isSome then none
  else some .badV6

/-- A number of a dotted address in the radix that it starts with. -/
def v4Part? (cs : List Char) : Option Nat :=
  match cs with
  | [] => none
  | '0' :: x :: digits =>
    if x = 'x' ∨ x = 'X' then
      if digits = [] then some 0 else Text.readDigits? 16 (digits.map Char.toLower)
    else Text.readDigits? 8 (x :: digits)
  | digits => Text.readDigits? 10 digits

/-- The parts of a domain; an empty last one is left out. -/
def domainParts (cs : List Char) : List (List Char) :=
  let parts := cs.splitOn '.'
  if parts.getLast? = some [] ∧ 1 < parts.length then parts.dropLast else parts

def endsInNumber (cs : List Char) : Bool :=
  match (domainParts cs).getLast? with
  | some part =>
    part != [] && (part.all Char.isDigit ||
      ((part.take 2).map Char.toLower == ['0', 'x'] && (v4Part? part).isSome))
  | none => false

def v4Ok (cs : List Char) : Bool :=
  match (domainParts cs).mapM v4Part? with
  | none => false
  | some numbers =>
    match numbers.getLast? with
    | some last =>
      numbers.length ≤ 4 && numbers.dropLast.all (· < 256) && last < 1 <<< (8 * (5 - numbers.length))
    | none => false

/-- What is wrong with a host that is a domain name. One that ends in a number is an address. -/
def domainFault? (cs : List Char) : Option UrlFault :=
  match (Percent.decode? (String.ofList cs)).bind fun s => Domain.labels? s.toList with
  | none => some .badInternationalName
  | some labels =>
    match List.intercalate ['.'] labels with
    | [] => some .emptyHost
    | name => if endsInNumber name && !v4Ok name then some .badV4 else none

def hostFault? (isWeb : Bool) (host : List Char) : Option UrlFault :=
  if host.head? = some '[' then bracketFault? host
  else if isWeb then domainFault? host
  else if host.any hostDelimiters.contains then some .badDomain
  else none

/-- What is wrong with a port, after its colon. A backslash ends it for every scheme. -/
def portFault? (cs : List Char) : Option UrlFault :=
  let digits := cs.takeWhile Char.isDigit
  let tail := cs.dropWhile Char.isDigit
  if 65535 < Text.decimalValue digits then some .badPort
  else if tail = [] ∨ tail.head? = some '\\' then none
  else some .badPort

/-- What is wrong with a port behind a host, if there is a port. -/
def portPartFault? (host port : List Char) : Option UrlFault :=
  match port with
  | [] => none
  | _ :: digits => if host = [] then some .emptyHost else portFault? digits

/-- What is wrong with a host and a port. -/
def placeFault? (isWeb : Bool) (host port : List Char) : Option UrlFault :=
  if isWeb ∧ host = [] then some .emptyHost
  else (hostFault? isWeb host).or (portPartFault? host port)

/-- What is wrong with the user, host and port behind the two slashes. Where there is a user there
has to be a host; a colon alone is no user. -/
def authorityFault? (isWeb : Bool) (cs : List Char) : Option UrlFault :=
  let authority := cs.takeWhile fun c => !endsAuthority isWeb c
  let follows := cs.dropWhile fun c => !endsAuthority isWeb c
  let (user?, place) := splitUser authority
  let (host, port) := splitPort false place
  let lacksHost := host.isEmpty && user?.any fun user => user != [] && user != [':']
  if user? = some [] ∧ place = [] ∧ follows ≠ [] then some .emptyHost
  else (placeFault? isWeb host port).or (if lacksHost then some .emptyHost else none)

/-- Whether a text is the letter of a drive. -/
def isDrive (cs : List Char) : Bool :=
  match cs with
  | [letter, mark] => letter.isAlpha && (mark == ':' || mark == '|')
  | _ => false

/-- What is wrong with the host of a file. -/
def fileFault? (cs : List Char) : Option UrlFault :=
  match cs with
  | a :: b :: rest =>
    let host := rest.takeWhile fun c => !endsAuthority true c
    let isSlash (c : Char) : Bool := c == '/' || c == '\\'
    if !isSlash a || !isSlash b || host.isEmpty || isDrive host then none else hostFault? true host
  | _ => none

/-- The scheme of an address that is well written. -/
def scheme (s : String) : Except UrlFault String :=
  match scheme? (clean s.toList) with
  | none => .error .noScheme
  | some (name, rest) =>
    let name := String.ofList name
    let isWeb := webSchemes.contains name
    let fault? :=
      if isWeb then authorityFault? true (rest.dropWhile fun c => c == '/' || c == '\\')
      else if name == "file" then fileFault? rest
      else
        match rest with
        | '/' :: '/' :: rest => authorityFault? false rest
        | _ => none
    match fault? with
    | some fault => .error fault
    | none => .ok name

end Url
end Mintmark.Net
