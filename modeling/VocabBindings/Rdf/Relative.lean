import VocabBindings.Rdf.Lexical

/-!
Relative IRIs. An IRI is absolute if a colon comes before any slash in it. Another one counts from
an address: from its folder, its root or its scheme. Only the steps up at the start of a path are
taken; dots inside it stay.
-/

set_option autoImplicit false

namespace VocabBindings.Rdf.Relative

def isAbsolute (t : Text) : Bool := (t.find? fun c => c = ':' || c = '/') = some ':'

def parent (folder : Text) : Text :=
  match (folder.dropLast.reverse.dropWhile (· ≠ '/')).reverse with
  | [] => folder
  | around => around

def stepsUp (path : Text) : Bool := path = "..".toList || Text.startsWith "../".toList path

def climb : Text → Nat × Text
  | ['.'] => (0, [])
  | ['.', '.'] => (1, [])
  | '.' :: '.' :: '/' :: rest => ((climb rest).1 + 1, (climb rest).2)
  | '.' :: '/' :: rest => if rest = ['.'] || stepsUp rest then climb rest else (0, rest)
  | path => (0, path)

def splitPath (scheme rest : Text) : Text × Text :=
  match Text.after? "//".toList rest with
  | none => (scheme, rest)
  | some named =>
    let host := named.takeWhile (· ≠ '/')
    let path := named.drop host.length
    (scheme ++ "//".toList ++ host, if path = [] then ['/'] else path)

def resolve (base written : Text) : Except Fault Text :=
  let scheme := base.takeWhile (· ≠ ':') ++ [':']
  let behind := base.drop scheme.length
  let (path, fragment) :=
    match Text.splitLast '#' written with
    | (some path, tail) => (path, '#' :: tail)
    | (none, tail) => (tail, [])
  if base.contains '#' then .error .fragmentBase
  else if isAbsolute written then .ok written
  else if path = [] then .ok (base ++ fragment)
  else if behind.head? ≠ some '/' then .error .noValue
  else
    let (root, tail) := splitPath scheme behind
    if Text.startsWith "//".toList written then .ok (scheme ++ written)
    else if written.head? = some '/' then .ok (root ++ written)
    else
      let folder := (tail.reverse.dropWhile (· ≠ '/')).reverse
      let (steps, path) := climb path
      .ok (root ++ Nat.repeat parent steps folder ++ path ++ fragment)

end VocabBindings.Rdf.Relative
