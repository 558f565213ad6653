import VocabBindings.Decimal.Numeral
import VocabBindings.Text.Quoted
import VocabBindings.Web.Label
import VocabBindings.Web.NumericHost
import VocabBindings.Web.PercentEncoding

/-!
Web addresses. An address is written in one way: the scheme and the host in lower case, no service
number where the scheme implies it, no dot segments, and everything that cannot stand in its part as
encoded bytes.
-/

set_option autoImplicit false

namespace VocabBindings.Web

/-- The parts of an address. A host of eight groups stands here without its brackets. -/
structure Url where
  scheme : Text := []
  user : Text := []
  host : Text := []
  service : Option Int := none
  path : Text := []
  query : Option Text := none
  fragment : Option Text := none
  deriving DecidableEq

inductive UrlFault where
  | tooLong
  | controlCharacter (c : Char) (position : Nat)
  | octetHost (written : Text)
  | groupHost (written : Text)
  | namedHost (written : Text)
  | service (written : Text)
  | pathBehindHost
  | pathOfSlashes
  | pathOfColon
  deriving DecidableEq

structure Parts where
  scheme : Text := []
  authority : Text := []
  path : Text := []
  query : Option Text := none
  fragment : Option Text := none
  deriving DecidableEq

namespace Parts

def text (p : Parts) : Text :=
  (if p.scheme = [] then [] else p.scheme ++ [':']) ++
    (if p.authority = [] then [] else "//".toList ++ p.authority) ++ p.path ++
    (match p.query with
    | some query => '?' :: query
    | none => []) ++
    match p.fragment with
    | some fragment => '#' :: fragment
    | none => []

def isSchemeCharacter (c : Char) : Bool := c.isAlphanum || c = '+' || c = '.' || c = '-'

def takeScheme (t : Text) : Text × Text :=
  let scheme := t.takeWhile isSchemeCharacter
  match t.drop scheme.length with
  | ':' :: rest => if (scheme.head?.map Char.isAlpha).getD true then (scheme, rest) else ([], t)
  | _ => ([], t)

def endsAuthority (c : Char) : Bool := c = '/' || c = '?' || c = '#'

def takeAuthority : Text → Text × Text
  | '/' :: '/' :: rest =>
    let authority := rest.takeWhile fun c => !endsAuthority c
    (authority, rest.drop authority.length)
  | t => ([], t)

def takePath (t : Text) : Text × Option Text × Option Text :=
  let beforeFragment := t.takeWhile (· ≠ '#')
  let fragment :=
    match t.drop beforeFragment.length with
    | _ :: rest => some rest
    | [] => none
  let path := beforeFragment.takeWhile (· ≠ '?')
  match beforeFragment.drop path.length with
  | _ :: query => (path, some query, fragment)
  | [] => (path, none, fragment)

def ofText (t : Text) : Parts :=
  let (scheme, rest) := takeScheme t
  let (authority, rest) := takeAuthority rest
  let (path, query, fragment) := takePath rest
  { scheme, authority, path, query, fragment }

end Parts

namespace Url

def authority (u : Url) : Text :=
  (if u.user = [] then [] else u.user ++ ['@']) ++
    (if u.host.contains ':' then '[' :: u.host ++ [']'] else u.host) ++
    match u.service with
    | some number => ':' :: Text.ofInt number
    | none => []

def parts (u : Url) : Parts :=
  { scheme := u.scheme, authority := u.authority, path := u.path, query := u.query
    fragment := u.fragment }

def text (u : Url) : Text := u.parts.text

def isAbsolute (u : Url) : Bool := u.scheme ≠ [] && u.host ≠ []

def readableHost (u : Url) : Except LabelFault Text :=
  if Text.startsWith Label.mark u.host then Web.readableHost u.host else .ok u.host

end Url

def isVisibleBut (others : Text) (c : Char) : Bool :=
  0x20 < c.toNat && c.toNat < 0x7F && !others.contains c

def isPathCharacter : Char → Bool := isVisibleBut "\"#<>?\x60\x7b\x7d".toList

def isQueryCharacter : Char → Bool := isVisibleBut "\"#<>".toList

def isFragmentCharacter : Char → Bool := isVisibleBut "\"<>\x60".toList

def isUserCharacter : Char → Bool := isVisibleBut "\"#<>?\x60\x7b\x7d/;=@[\\]^|".toList

def isHostCharacter : Char → Bool := isVisibleBut "#/:<>?@[]^".toList

/-- The segments of a path without dots, with every pair of dots taken with what is before it. The
segments so far come last one first. -/
def withoutDots : List Text → List Text → List Text
  | done, [] => done.reverse
  | done, segment :: rest =>
    if segment = ['.'] then withoutDots done rest
    else if segment = "..".toList then
      withoutDots (if done = [[]] then done else done.tail) rest
    else withoutDots (segment :: done) rest

def withoutDotSegments (path : Text) : Text :=
  Text.joined ['/'] (withoutDots [] (Text.pieces '/' path))

def impliedService? (scheme : Text) : Option Int :=
  if scheme = "ftp".toList then some 21
  else if scheme = "http".toList || scheme = "ws".toList then some 80
  else if scheme = "https".toList || scheme = "wss".toList then some 443
  else none

def serviceOf (scheme written : Text) : Except UrlFault (Option Int) :=
  if written = [] then .ok none
  else
    match Numeral.integer? written with
    | none => .error (.service written)
    | some number => .ok (if impliedService? scheme = some number then none else some number)

def hostOf (written : Text) : Except UrlFault Text :=
  if written = [] then .ok []
  else if looksLikeOctets written then
    if isOctetAddress written then .ok written else .error (.octetHost written)
  else if written.head? = some '[' && written.getLast? = some ']' then
    let groups := written.tail.dropLast
    if isGroupAddress groups then .ok groups else .error (.groupHost written)
  else if written.all (·.toNat < 0x80) then
    .ok (percentEncoded isHostCharacter (written.map Char.toLower))
  else (asciiHost (Text.lower written)).mapError fun _ => .namedHost written

def authorityParts (authority : Text) : Text × Text × Text :=
  let (user, rest) := Text.splitLast '@' authority
  let bracketed := ((Text.splitLast ']' rest).1.map (·.length + 1)).getD 0
  let host :=
    if rest.head? = some '[' && bracketed ≠ 0 then rest.take bracketed
    else rest.takeWhile (· ≠ ':')
  let service := rest.drop host.length
  (user.getD [], host, if service.head? = some ':' then service.tail else service)

def pathFault? (u : Url) (path : Text) : Option UrlFault :=
  if u.user ≠ [] || u.host ≠ [] || u.service.isSome then
    if path ≠ [] && path.head? ≠ some '/' then some .pathBehindHost else none
  else if u.scheme ≠ [] then none
  else if Text.startsWith "//".toList path then some .pathOfSlashes
  else if path.head? = some ':' then some .pathOfColon
  else none

def lengthLimit : Nat := 65536

def isControl (c : Char) : Bool := c.toNat < 0x20 || c.toNat = 0x7F

/-- What is wrong with a text that is to be an address or a part of one: its length, or a control
character. -/
def textFault? (t : Text) : Option UrlFault :=
  if lengthLimit < t.length then some .tooLong
  else
    (t.find? isControl).map fun c => .controlCharacter c (t.takeWhile fun d => !isControl d).length

def ofPartsAt (p : Parts) (user host service : Text) : Except UrlFault Url := do
  let user := percentEncoded isUserCharacter user
  let host ← hostOf host
  let service ← serviceOf p.scheme service
  let u : Url := { scheme := p.scheme.map Char.toLower, user, host, service }
  match pathFault? u p.path with
  | some fault => .error fault
  | none =>
    let path :=
      if u.scheme = [] && user = [] && host = [] && service.isNone then p.path
      else withoutDotSegments p.path
    .ok { u with
      path := percentEncoded isPathCharacter path
      query := p.query.map (percentEncoded isQueryCharacter)
      fragment := p.fragment.map (percentEncoded isFragmentCharacter) }

def ofParts (p : Parts) : Except UrlFault Url :=
  let (user, host, service) := authorityParts p.authority
  ofPartsAt p user host service

def parse (t : Text) : Except UrlFault Url :=
  match textFault? t with
  | some fault => .error fault
  | none => ofParts (Parts.ofText t)

def Parts.fault? (p : Parts) : Option UrlFault :=
  ([p.scheme, p.authority, p.path] ++ p.query.toList ++ p.fragment.toList).findSome? textFault?

def assemble (p : Parts) : Except UrlFault Url :=
  match p.fault? with
  | some fault => .error fault
  | none => ofParts p

def Url.atHost (u : Url) (host : Text) : Except UrlFault Url :=
  match u.parts.fault? with
  | some fault => .error fault
  | none =>
    let (user, _, service) := authorityParts u.authority
    ofPartsAt u.parts user (if host.contains ':' then '[' :: host ++ [']'] else host) service

def UrlFault.message : UrlFault → Text
  | tooLong => "URL too long".toList
  | controlCharacter c position =>
    "Invalid non-printable ASCII character in URL, ".toList ++ Text.quoted [c] ++
      " at position ".toList ++ Text.ofNat position ++ ['.']
  | octetHost written => "Invalid IPv4 address: ".toList ++ Text.quoted written
  | groupHost written => "Invalid IPv6 address: ".toList ++ Text.quoted written
  | namedHost written => "Invalid IDNA hostname: ".toList ++ Text.quoted written
  | service written => "Invalid port: ".toList ++ Text.quoted written
  | pathBehindHost => "For absolute URLs, path must be empty or begin with '/'".toList
  | pathOfSlashes => "Relative URLs cannot have a path starting with '//'".toList
  | pathOfColon => "Relative URLs cannot have a path starting with ':'".toList

end VocabBindings.Web
