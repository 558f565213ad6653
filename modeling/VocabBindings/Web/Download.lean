import VocabBindings.Web.Reference

/-!
Downloads. A request is answered or fails, and an answer may send to another address.
-/

set_option autoImplicit false

namespace VocabBindings.Web

inductive Reply where
  | answer (status : Nat) (body : Bytes) (location : Option Text)
  | failure (reason : Text)
  deriving DecidableEq

/-- The replies of all addresses at one time. -/
abbrev Network := Text → Reply

/-- Why a download failed. The first four cases are about addresses: a text that is none, one
without a scheme, a text that is not in ASCII, and a host whose labels cannot be read. -/
inductive DownloadError where
  | noAddress
  | noScheme
  | notAscii
  | label (fault : LabelFault)
  | badLocation (fault : UrlFault)
  | transport (reason : Text)
  | endless
  | refused
  deriving DecidableEq

structure Download where
  requests : List Text
  outcome : Except DownloadError Bytes

def redirectLimit : Nat := 20

def sendsOn (status : Nat) : Bool := [301, 302, 303, 307, 308].contains status

def readHost (u : Url) : Except DownloadError Text := u.readableHost.mapError .label

def orNoAddress (outcome : Except UrlFault Url) : Except DownloadError Url :=
  outcome.mapError fun _ => .noAddress

def isAscii (t : Text) : Bool := t.all (·.toNat < 0x80)

/-- The address that an answer of an address sends to. Without a host it stays at the same one, and
a fragment is taken along. -/
def redirected (u : Url) (location : Text) : Except DownloadError Url := do
  let target ← (parse location).mapError .badLocation
  let host ← if target.scheme = [] then .ok [] else readHost target
  let target ←
    if target.scheme ≠ [] && host = [] then orNoAddress (target.atHost (← readHost u))
    else .ok target
  let target ←
    if target.isAbsolute then .ok target else orNoAddress (parse (resolve u.text target.text))
  match given u.fragment with
  | some fragment =>
    if (given target.fragment).isSome then .ok target
    else orNoAddress (assemble { target.parts with fragment := some (percentDecoded fragment) })
  | none => .ok target

def requestable (u : Url) : Except DownloadError Url := do
  let _ ← readHost u
  if isAscii u.host then .ok u else .error .notAscii

def answerFault? (u : Url) (location : Option Text) : Option DownloadError :=
  if !isAscii (location.getD []) then some .notAscii
  else if u.scheme = [] then some .noScheme
  else none

def follow (network : Network) : Nat → Url → Download
  | left, u =>
    match network u.text with
    | .failure reason => ⟨[u.text], .error (.transport reason)⟩
    | .answer status body location =>
      match answerFault? u location, if sendsOn status then location else none with
      | some e, _ => ⟨[u.text], .error e⟩
      | none, none => ⟨[u.text], if 200 ≤ status && status < 300 then .ok body else .error .refused⟩
      | none, some location =>
        match left, redirected u location >>= requestable with
        | _, .error e => ⟨[u.text], .error e⟩
        | 0, .ok _ => ⟨[u.text], .error .endless⟩
        | left + 1, .ok next =>
          let rest := follow network left next
          ⟨u.text :: rest.requests, rest.outcome⟩

/-- The address of a first request. One that names no host is a path. -/
def start (u : Url) : Except DownloadError Url :=
  if u.isAbsolute then .ok u
  else orNoAddress (assemble { path := '/' :: u.path.dropWhile (· = '/'), query := u.query })

def download (network : Network) (address : Text) : Download :=
  match orNoAddress (parse address) >>= start >>= requestable with
  | .error e => ⟨[], .error e⟩
  | .ok u => follow network redirectLimit u

end VocabBindings.Web
