import VocabBindings.Keyed
import VocabBindings.Module.Templates

/-!
The files of a generated package, keyed by their paths in it: the traits of all classes, the
requested classes, and the two exporting modules. Two files with one path are one file with the
later content.
-/

set_option autoImplicit false

namespace VocabBindings.Module

/-- What a package is printed from besides the classes: its own name and the address that the names
of classes are appended to. -/
structure PackageOptions where
  package : Text
  seeUrl : Text := "https://schema.org/".toList

def traitFolder : Text := "traits".toList

def exportFile : Text := "__init__.py".toList

def traitPath (c : ClassOutline) : Text :=
  traitFolder ++ "/".toList ++ c.traitModuleName ++ ".py".toList

def classPath (c : ClassOutline) : Text := c.moduleName ++ ".py".toList

def classesNamed (r : Resolution) : List Text → Except Text (List ClassOutline)
  | [] => .ok []
  | name :: rest =>
    match r.class? name with
    | none => .error name
    | some c => (classesNamed r rest).map (c :: ·)

def traitFiles (o : PackageOptions) (r : Resolution) : List (Text × Text) :=
  r.classes.map fun c => (traitPath c, traitModule o.seeUrl c)

def classFiles (o : PackageOptions) (r : Resolution) :
    List ClassOutline → Except Text (List (Text × Text))
  | [] => .ok []
  | c :: rest =>
    match classesNamed r c.traits with
    | .error name => .error name
    | .ok traits =>
      (classFiles o r rest).map ((classPath c, classModule o.package o.seeUrl traits c) :: ·)

def exportFiles (o : PackageOptions) (r : Resolution) (requested : List ClassOutline) :
    List (Text × Text) :=
  [(traitFolder ++ "/".toList ++ exportFile,
    exportModule "Traits of all generated classes.".toList (traitPackage o.package)
      (r.classes.map fun c => (c.traitModuleName, c.traitName))),
   (exportFile,
    exportModule "Generated classes.".toList o.package
      (requested.map fun c => (c.moduleName, c.className)))]

/-- The files of the package, or a requested class or a trait that is not among the classes. -/
def packageFiles (o : PackageOptions) (r : Resolution) : Except Text (List (Text × Text)) :=
  match classesNamed r r.requested with
  | .error name => .error name
  | .ok requested =>
    match classFiles o r requested with
    | .error name => .error name
    | .ok classes => .ok (Keyed.ofList (traitFiles o r ++ classes ++ exportFiles o r requested))

end VocabBindings.Module
