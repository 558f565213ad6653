import VocabBindings.Text.Basic

/-!
Paths as text, with slashes between names: joining, the folder a path lies in, and the chain of the
folders around it.
-/

set_option autoImplicit false

namespace VocabBindings.Files

/-- The path of a name in a folder. A name that starts with a slash stands alone. -/
def join (folder name : Text) : Text :=
  if name.head? = some '/' then name
  else if folder = [] || folder.getLast? = some '/' then folder ++ name
  else folder ++ '/' :: name

def withoutEndSlashes (path : Text) : Text := (path.reverse.dropWhile (· = '/')).reverse

/-- The folder of a path: everything before its last slash, and a lone slash if nothing else stands
there. -/
def folderOf (path : Text) : Text :=
  let head := (path.reverse.dropWhile (· ≠ '/')).reverse
  if head.all (· = '/') then head else withoutEndSlashes head

def lastName (path : Text) : Text :=
  ((withoutEndSlashes path).reverse.takeWhile (· ≠ '/')).reverse

def foldersFrom (before : Text) : Text → List Text
  | [] => []
  | c :: rest =>
    if c = '/' && before ≠ [] && before.getLast? ≠ some '/' && !rest.all (· = '/') then
      before :: foldersFrom (before ++ [c]) rest
    else foldersFrom (before ++ [c]) rest

def foldersAround (path : Text) : List Text := foldersFrom [] path

end VocabBindings.Files
