import StrongAuth.Text.Decimal
import StrongAuth.Url.Ipv4
import StrongAuth.Url.Ipv6

/-! # URLs

The parts of a URL in their normal form, and the text they make up. -/

namespace StrongAuth

inductive Host
  | domain (name : List Char)
  | ipv4 (address : Nat)
  /-- Eight pieces of sixteen bits. -/
  | ipv6 (pieces : List Nat)
  deriving DecidableEq, Repr

def Host.write : Host → List Char
  | .domain name => name
  | .ipv4 address => Ipv4.write address
  | .ipv6 pieces => '[' :: (Ipv6.write pieces ++ [']'])

inductive UrlPath
  /-- Text without structure. -/
  | plain (text : List Char)
  /-- Segments, each behind a slash. -/
  | segments (list : List (List Char))
  deriving DecidableEq, Repr

def UrlPath.write : UrlPath → List Char
  | .plain text => text
  | .segments list => list.flatMap fun segment => '/' :: segment

structure Url where
  scheme : List Char
  user : List Char
  password : List Char
  host : Option Host
  port : Option Nat
  path : UrlPath
  query : Option (List Char)
  fragment : Option (List Char)
  deriving DecidableEq, Repr

namespace Url

def writeCredentials (url : Url) : List Char :=
  if url.user.isEmpty && url.password.isEmpty then []
  else
    url.user ++ (if url.password.isEmpty then [] else ':' :: url.password) ++ ['@']

/-- What stands between the scheme and the path. Without a host, a path that begins with two
slashes is set off by a dot segment. -/
def writeAuthority (url : Url) : List Char :=
  match url.host with
  | some host =>
      '/' :: '/' :: (url.writeCredentials ++ host.write ++
        match url.port with
        | some port => ':' :: Decimal.digits port
        | none => [])
  | none =>
      match url.path with
      | .segments ([] :: _ :: _) => ['/', '.']
      | _ => []

/-- An optional part behind its mark. -/
def writePart (mark : Char) : Option (List Char) → List Char
  | none => []
  | some part => mark :: part

def write (url : Url) : List Char :=
  url.scheme ++ ':' :: (url.writeAuthority ++ url.path.write ++ writePart '?' url.query ++
    writePart '#' url.fragment)

def text (url : Url) : String :=
  String.ofList url.write

end Url

end StrongAuth
