import VocabBindings.Files.Tree

/-!
File name patterns. A star stands for any run of characters, a question mark for any one of them,
and brackets for one of a set. A path is a pattern name by name, and names that start with a dot are
found only by patterns that start with one.
-/

set_option autoImplicit false

namespace VocabBindings.Files

inductive PatternPart where
  | run
  | single
  | exactly (c : Char)
  | oneOf (negated : Bool) (ranges : List (Char × Char))
  deriving DecidableEq

def rangesFrom : Nat → Text → List (Char × Char)
  | _, [] => []
  | covered + 1, _ :: rest => rangesFrom covered rest
  | 0, c :: rest =>
    match rest with
    | '-' :: last :: _ => (c, last) :: rangesFrom 2 rest
    | _ => (c, c) :: rangesFrom 0 rest

/-- The content of a set behind its opening bracket, if it is closed. A closing bracket in the first
place, a leading exclamation mark aside, belongs to the content. -/
def setContent? (t : Text) : Option Text :=
  let mark := if t.head? = some '!' then 1 else 0
  let fixed := if (t.drop mark).head? = some ']' then mark + 1 else mark
  let content := t.take fixed ++ (t.drop fixed).takeWhile (· ≠ ']')
  if content.length < t.length then some content else none

def setOf : Text → PatternPart
  | '!' :: rest => .oneOf true (rangesFrom 0 rest)
  | content => .oneOf false (rangesFrom 0 content)

def patternFrom : Nat → Text → List PatternPart
  | _, [] => []
  | covered + 1, _ :: rest => patternFrom covered rest
  | 0, c :: rest =>
    if c = '*' then .run :: patternFrom 0 rest
    else if c = '?' then .single :: patternFrom 0 rest
    else if c = '[' then
      match setContent? rest with
      | some content => setOf content :: patternFrom (content.length + 1) rest
      | none => .exactly c :: patternFrom 0 rest
    else .exactly c :: patternFrom 0 rest

def endsOf : Text → List Text
  | [] => [[]]
  | c :: rest => (c :: rest) :: endsOf rest

def inSet (ranges : List (Char × Char)) (c : Char) : Bool := ranges.any fun r => r.1 ≤ c && c ≤ r.2

def fits : List PatternPart → Text → Bool
  | [], t => t = []
  | .run :: parts, t => (endsOf t).any (fits parts)
  | .single :: parts, _ :: t => fits parts t
  | .exactly a :: parts, c :: t => a = c && fits parts t
  | .oneOf negated ranges :: parts, c :: t => (inSet ranges c != negated) && fits parts t
  | _ :: _, [] => false

def isPattern (t : Text) : Bool := t.any fun c => c = '*' || c = '?' || c = '['

def isHidden (name : Text) : Bool := name.head? = some '.'

def splitPattern (path : Text) : Text × List Text :=
  let names := Text.pieces '/' path
  let plain := names.takeWhile fun name => !isPattern name
  let behind := (names.drop plain.length).filter fun name => name ≠ []
  let folder := Text.joined ['/'] plain
  (if plain ≠ [] && folder.all (· = '/') then folder ++ ['/'] else withoutEndSlashes folder, behind)

namespace Tree

/-- What lies in a folder, nothing if there is no folder. Without a path it is the working
folder. -/
def contentOf (t : Tree) (folder : Text) : List (Text × Node) :=
  match t.look (if folder = [] then ['.'] else folder), t.walk [] (Text.pieces '/' folder) with
  | .ok .folder, .ok place => t.namesIn place
  | _, _ => []

def matchesIn (t : Tree) (foldersOnly : Bool) (name folder : Text) : List Text :=
  if isPattern name then
    let parts := patternFrom 0 name
    ((t.contentOf folder).filter fun (n, node) =>
      (node = .folder || !foldersOnly) && (isHidden name || !isHidden n) && fits parts n).map
      fun p => join folder p.1
  else if t.hasNode (join folder name) then [join folder name]
  else []

def expand (t : Tree) : List Text → List Text → List Text
  | folders, [] => folders
  | folders, [name] => folders.flatMap (t.matchesIn false name)
  | folders, name :: rest => t.expand (folders.flatMap (t.matchesIn true name)) rest

/-- The paths that fit a path with patterns, in ascending order. -/
def glob (t : Tree) (path : Text) : List Text :=
  let (folder, names) := splitPattern path
  (t.expand [folder] names).mergeSort Text.atMost

end Tree

end VocabBindings.Files
