import StrongAuth.Fault
import StrongAuth.Url.Basic
import StrongAuth.Url.Domain

/-! # Reading URLs

URLs are read by the rules of the living URL standard, without a base. The web
schemes always have a host and take a backslash for a slash; a URL of another scheme
may have a host, a path of segments or plain text. -/

namespace StrongAuth.Url

def specialSchemes : List (String × Option Nat) :=
  [("http", some 80), ("https", some 443), ("ws", some 80), ("wss", some 443),
    ("ftp", some 21), ("file", none)]

structure SchemeKind where
  special : Bool
  isFile : Bool
  port : Option Nat
  deriving DecidableEq, Repr

def schemeKind (scheme : List Char) : SchemeKind :=
  match specialSchemes.lookup (String.ofList scheme) with
  | some port => ⟨true, scheme = "file".toList, port⟩
  | none => ⟨false, false, none⟩

/-! ## Characters that stay as they are -/

/-- A printable ASCII character outside a list. -/
def keeps (escaped : String) (char : Char) : Bool :=
  32 ≤ char.toNat && char.toNat < 127 && !escaped.toList.contains char

def keptInFragment : Char → Bool := keeps " \"<>`"

def keptInPath : Char → Bool := keeps " \"<>`#?\x7b\x7d"

def keptInCredentials : Char → Bool := keeps " \"<>`#?\x7b\x7d/:;=@[\\]^|"

def keptInQuery (kind : SchemeKind) : Char → Bool :=
  keeps (if kind.special then " \"#<>'" else " \"#<>")

def keptInPlain : Char → Bool := keeps ""

/-! ## Breaks -/

def isBreak (char : Char) : Bool :=
  char == '\t' || char == '\n' || char == '\r'

def unbroken (chars : List Char) : List Char :=
  chars.filter fun char => !isBreak char

/-- What follows the first characters of a text, breaks not counted. A break right behind
them stays. -/
def behind : (count : Nat) → List Char → List Char
  | 0, chars => chars
  | _ + 1, [] => []
  | count + 1, char :: chars =>
      if isBreak char then behind (count + 1) chars else behind count chars

/-! ## Scheme -/

def endsAuthority (kind : SchemeKind) (char : Char) : Bool :=
  char == '/' || char == '?' || char == '#' || (kind.special && char == '\\')

def isSlash (kind : SchemeKind) (char : Char) : Bool :=
  char == '/' || (kind.special && char == '\\')

/-- The scheme in lower case, and what follows its colon. -/
def readScheme (chars : List Char) : Option (List Char × List Char) :=
  let isSchemeChar (char : Char) := char.isAlphanum || char == '+' || char == '-' || char == '.'
  let scheme := chars.takeWhile isSchemeChar
  match scheme.head?, chars.drop scheme.length with
  | some first, ':' :: rest =>
      if first.isAlpha then some (scheme.map Char.toLower, rest) else none
  | _, _ => none

/-! ## Authority -/

/-- User, password, and what follows the last at sign of an authority. -/
def readCredentials (kind : SchemeKind) (chars : List Char) :
    Except UrlFault (List Char × List Char × List Char) :=
  let authority := chars.takeWhile fun char => !endsAuthority kind char
  let after := chars.drop authority.length
  let reversed := authority.reverse
  let host := (reversed.takeWhile (· != '@')).reverse
  if host.length = authority.length then .ok ([], [], chars)
  else
    let credentials := authority.take (authority.length - host.length - 1)
    let rest := host ++ after
    if credentials.isEmpty then
      match rest with
      | char :: _ => if endsAuthority kind char then .error .emptyHost else .ok ([], [], rest)
      | [] => .ok ([], [], rest)
    else
      let user := credentials.takeWhile (· != ':')
      let password := credentials.drop (user.length + 1)
      .ok (Percent.encodeChars keptInCredentials user,
        Percent.encodeChars keptInCredentials password, rest)

/-- The characters of a host: up to a colon outside brackets or the end of the authority. -/
def hostLength (kind : SchemeKind) : (inside : Bool) → List Char → Nat
  | _, [] => 0
  | inside, char :: chars =>
      if (char == ':' && !inside) || endsAuthority kind char then 0
      else
        let inside := if char = '[' then true else if char = ']' then false else inside
        hostLength kind inside chars + 1

def readBracketed (chars : List Char) : Except UrlFault Host :=
  match chars.getLast? with
  | some ']' =>
      match Ipv6.read? (chars.drop 1).dropLast with
      | some pieces => .ok (.ipv6 pieces)
      | none => .error .invalidIpv6
  | _ => .error .invalidIpv6

def readDomain (chars : List Char) : Except UrlFault Host :=
  if chars.head? = some '[' then readBracketed chars
  else
    match Domain.toAscii? chars with
    | none => .error .invalidDomain
    | some [] => .error .emptyHost
    | some domain =>
        if Ipv4.endsInNumber domain then
          match Ipv4.read? domain with
          | some address => .ok (.ipv4 address)
          | none => .error .invalidIpv4
        else .ok (.domain domain)

def isForbiddenInHost (char : Char) : Bool :=
  "\x00\t\n\r #/:<>?@[\\]^|".toList.contains char

def readOtherHost (chars : List Char) : Except UrlFault Host :=
  if chars.head? = some '[' then readBracketed chars
  else if chars.any isForbiddenInHost then .error .invalidHostCharacter
  else .ok (.domain (Percent.encodeChars keptInPlain chars))

def readPort (usual : Option Nat) (chars : List Char) :
    Except UrlFault (Option Nat × List Char) :=
  let numeral := chars.takeWhile Decimal.isDigit
  let rest := chars.drop numeral.length
  let port := Decimal.value numeral
  if 65535 < port then .error .invalidPort
  else
    let ended := match rest with
      | [] => true
      | char :: _ => char == '/' || char == '\\' || char == '?' || char == '#'
    if !ended then .error .invalidPort
    else .ok (if numeral.isEmpty || some port == usual then none else some port, rest)

def readHostPort (kind : SchemeKind) (chars : List Char) :
    Except UrlFault (Host × Option Nat × List Char) := do
  let hostChars := chars.take (hostLength kind false chars)
  let rest := chars.drop hostChars.length
  if kind.special && hostChars.isEmpty then throw .emptyHost
  let host ← if kind.special then readDomain hostChars else readOtherHost hostChars
  match rest with
  | ':' :: rest =>
      if host = .domain [] then throw .emptyHost
      let (port, rest) ← readPort kind.port rest
      return (host, port, rest)
  | rest => return (host, none, rest)

/-! ## Path -/

def isSingleDot (segment : List Char) : Bool :=
  [".", "%2e"].contains (String.ofList (segment.map Char.toLower))

def isDoubleDot (segment : List Char) : Bool :=
  ["..", ".%2e", "%2e.", "%2e%2e"].contains (String.ofList (segment.map Char.toLower))

def isDriveLetter : List Char → Bool
  | [letter, mark] => letter.isAlpha && (mark == ':' || mark == '|')
  | _ => false

/-- Whether a segment is a drive letter up to its first backslash. -/
def opensDrive (segment : List Char) : Bool :=
  isDriveLetter (segment.takeWhile (· != '\\'))

def driveSegment (segment : List Char) : List Char :=
  segment.take 1 ++ [':']

/-- A drive letter with its colon and what a break parts from it in the same segment. -/
def brokenDrive? (segment : List Char) : Option (List Char × List Char) :=
  match unbroken segment with
  | letter :: ':' :: next :: rest =>
      if letter.isAlpha && (behind 2 segment).head?.any isBreak then
        some ([letter, ':'], next :: rest)
      else none
  | _ => none

structure Walk where
  /-- The segments so far, the last of them first. -/
  before : List (List Char)
  onDrive : Bool
  deriving DecidableEq, Repr

namespace Walk

/-- Leaves the last segment. A drive letter stays. -/
def leave (walk : Walk) : Walk :=
  match walk.before with
  | [] => walk
  | segment :: before => if opensDrive segment then walk else { walk with before }

def push (walk : Walk) (segment : List Char) : Walk :=
  { walk with before := segment :: walk.before }

/-- Adds a segment. The first one of a file is a drive if it looks like one, and a drive
that a break parts from what follows it stands alone. -/
def add (kind : SchemeKind) (walk : Walk) (segment : List Char) : Walk :=
  let encoded := Percent.encodeChars keptInPath (unbroken segment)
  if kind.isFile && walk.before.isEmpty then
    if isDriveLetter encoded then ⟨[driveSegment encoded], true⟩
    else match brokenDrive? segment with
      | some (drive, rest) => (walk.push drive).push (Percent.encodeChars keptInPath rest)
      | none => walk.push encoded
  else walk.push encoded

/-- Walks along segments. Dot segments are carried out; one at the end leaves an empty
segment. -/
def along (kind : SchemeKind) : Walk → List (List Char) → Walk
  | walk, [] => walk
  | walk, segment :: rest =>
      let ended (walk : Walk) : Walk := if rest.isEmpty then walk.push [] else walk
      if isDoubleDot (unbroken segment) then along kind (ended walk.leave) rest
      else if isSingleDot (unbroken segment) then along kind (ended walk) rest
      else along kind (walk.add kind segment) rest

end Walk

def walkText (kind : SchemeKind) (chars : List Char) : Walk :=
  Walk.along kind ⟨[], false⟩ (chars.splitOnP (isSlash kind))

def beforeQuery (chars : List Char) : List Char :=
  chars.takeWhile fun char => char != '?' && char != '#'

/-- The path behind an authority. The web schemes always have one. -/
def readPath (kind : SchemeKind) (chars : List Char) : UrlPath :=
  match chars with
  | [] => .segments (if kind.special then [[]] else [])
  | first :: rest =>
      .segments (walkText kind (if isSlash kind first then rest else first :: rest)).before.reverse

/-! ## Query and fragment -/

def readTail (kind : SchemeKind) (chars : List Char) :
    Option (List Char) × Option (List Char) :=
  let query := chars.takeWhile (· != '#')
  let fragment := match chars.drop query.length with
    | [] => none
    | _ :: rest => some (Percent.encodeChars keptInFragment rest)
  match query with
  | [] => (none, fragment)
  | _ :: query => (some (Percent.encodeChars (keptInQuery kind) query), fragment)

/-! ## Whole URLs -/

/-- A URL without authority up to its path, completed by query and fragment. -/
def assemble (kind : SchemeKind) (scheme user password : List Char) (host : Option Host)
    (port : Option Nat) (path : List Char → UrlPath) (chars : List Char) : Url :=
  let pathChars := beforeQuery chars
  let (query, fragment) := readTail kind (chars.drop pathChars.length)
  { scheme, user, password, host, port, path := path pathChars, query, fragment }

def readHierarchical (kind : SchemeKind) (scheme chars : List Char) : Except UrlFault Url := do
  let (user, password, chars) ← readCredentials kind chars
  let (host, port, chars) ← readHostPort kind chars
  if host = .domain [] && !(user.isEmpty && password.isEmpty) then throw .emptyHost
  return assemble kind scheme user password (some host) port (readPath kind) chars

/-- The segments of the path of a file: empty ones in front do not count. -/
def trimSegments (segments : List (List Char)) : List (List Char) :=
  let kept := segments.dropWhile List.isEmpty
  if kept.isEmpty then [[]] else kept

/-- A URL of a file from behind its host. A host takes the first slash for itself, and a
file on a drive has none. -/
def finishFile (kind : SchemeKind) (scheme : List Char) (host : Host) (slashed : Bool)
    (chars : List Char) : Url :=
  let pathChars := beforeQuery chars
  let walk := walkText kind (if slashed then behind 1 pathChars else pathChars)
  let host := if walk.onDrive then .domain [] else host
  let path := .segments (trimSegments walk.before.reverse)
  let (query, fragment) := readTail kind (unbroken (chars.drop pathChars.length))
  { scheme, user := [], password := [], host := some host, port := none, path, query, fragment }

/-- A URL of a file. Only behind two slashes there is a host, unless a drive letter stands
there, and the local one is left out. -/
def readFile (kind : SchemeKind) (scheme chars : List Char) : Except UrlFault Url := do
  match unbroken chars with
  | first :: second :: rest =>
      if isSlash kind first && isSlash kind second then
        let hostChars := rest.takeWhile fun char => !endsAuthority kind char
        if isDriveLetter hostChars then
          return finishFile kind scheme (.domain []) false (behind 2 chars)
        let host ← if hostChars.isEmpty then pure (.domain []) else readDomain hostChars
        let host := if host = .domain "localhost".toList then .domain [] else host
        let slashed := host != .domain [] && (rest.drop hostChars.length).head?.any (isSlash kind)
        return finishFile kind scheme host slashed (behind (2 + hostChars.length) chars)
      else return finishFile kind scheme (.domain []) (isSlash kind first) chars
  | [first] => return finishFile kind scheme (.domain []) (isSlash kind first) chars
  | [] => return finishFile kind scheme (.domain []) false []

/-- Reads a URL. Blanks and control characters around it do not count, nor do breaks
anywhere in it, except that one behind the drive letter of a file parts it from the rest of
its segment. -/
def read (text : String) : Except UrlFault Url := do
  let isOuter (char : Char) : Bool := char.toNat ≤ 32
  let trimmed := ((text.toList.dropWhile isOuter).reverse.dropWhile isOuter).reverse
  let some (scheme, rest) := readScheme (unbroken trimmed) | throw .relative
  let kind := schemeKind scheme
  if kind.isFile then readFile kind scheme (behind (scheme.length + 1) trimmed)
  else if kind.special then
    readHierarchical kind scheme (rest.dropWhile (isSlash kind))
  else
    match rest with
    | '/' :: '/' :: rest => readHierarchical kind scheme rest
    | '/' :: rest => return assemble kind scheme [] [] none none (readPath kind) ('/' :: rest)
    | rest =>
        return assemble kind scheme [] [] none none
          (fun chars => .plain (Percent.encodeChars keptInPlain chars)) rest

end StrongAuth.Url
