import VocabBindings.Web.Url

/-!
References. A reference is written like an address and leads on from another address; what it does
not say is taken from there. Only schemes with folders know references.
-/

set_option autoImplicit false

namespace VocabBindings.Web

def folderSchemes : List Text :=
  ["ftp", "http", "gopher", "nntp", "imap", "wais", "file", "https", "shttp", "mms", "prospero",
    "rtsp", "rtsps", "rtspu", "sftp", "svn", "svn+ssh", "ws", "wss"].map String.toList

def parameterSchemes : List Text :=
  ["ftp", "prospero", "http", "imap", "https", "shttp", "rtsp", "rtsps", "rtspu", "mms",
    "sftp"].map String.toList

def takeParameters (scheme path : Text) : Text × Text :=
  if parameterSchemes.contains scheme then
    let last := (path.reverse.takeWhile (· ≠ '/')).reverse
    let name := last.takeWhile (· ≠ ';')
    (path.take (path.length - last.length + name.length), last.drop (name.length + 1))
  else (path, [])

def withParameters (path parameters : Text) : Text :=
  if parameters = [] then path else path ++ ';' :: parameters

def pathFolders (path : Text) : List Text :=
  let segments := Text.pieces '/' path
  if segments.getLast? = some [] then segments else segments.dropLast

/-- The segments of a relative path behind the folders of another one, empty ones in between left
out. -/
def joinedSegments (base path : Text) : List Text :=
  if path.head? = some '/' then Text.pieces '/' path
  else
    match pathFolders base ++ Text.pieces '/' path with
    | [] => []
    | first :: rest => first :: (rest.dropLast.filter (· ≠ []) ++ rest.getLast?.toList)

/-- The segments without dots, with every pair of dots taken with any segment before it. -/
def resolvedSegments : List Text → List Text → List Text
  | done, [] => done.reverse
  | done, segment :: rest =>
    if segment = ['.'] then resolvedSegments done rest
    else if segment = "..".toList then resolvedSegments done.tail rest
    else resolvedSegments (segment :: done) rest

def resolvedPath (base path : Text) : Text :=
  let segments := joinedSegments base path
  let last := segments.getLast?.getD []
  let resolved := resolvedSegments [] segments
  let resolved := if last = ['.'] || last = "..".toList then resolved ++ [[]] else resolved
  let joined := Text.joined ['/'] resolved
  if joined = [] then ['/'] else joined

def given (part : Option Text) : Option Text := part.filter (· ≠ [])

def referenceText (p : Parts) : Text :=
  let path := if p.path = [] || p.path.head? = some '/' then p.path else '/' :: p.path
  p.scheme ++ "://".toList ++ p.authority ++
    { path, query := given p.query, fragment := given p.fragment : Parts }.text

def resolve (base reference : Text) : Text :=
  let b := Parts.ofText base
  let r := Parts.ofText reference
  let scheme := if r.scheme = [] then b.scheme else r.scheme.map Char.toLower
  let (path, parameters) := takeParameters scheme r.path
  let (basePath, baseParameters) := takeParameters b.scheme b.path
  if reference = [] then base
  else if scheme ≠ b.scheme || !folderSchemes.contains scheme then reference
  else if r.authority ≠ [] then
    referenceText { r with scheme, path := withParameters path parameters }
  else if path = [] && parameters = [] then
    referenceText { b with
      path := withParameters basePath baseParameters
      query := (given r.query).or b.query
      fragment := r.fragment }
  else
    referenceText { r with
      scheme
      authority := b.authority
      path := withParameters (resolvedPath basePath path) parameters }

end VocabBindings.Web
