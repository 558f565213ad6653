import VocabBindings.Module.Piece
import VocabBindings.Resolve.Outline

/-!
The modules of a generated package: a trait module for every class, a class module for every
requested class, and the two modules that export them. A class derives from its own trait and from
those of its ancestors.
-/

set_option autoImplicit false

namespace VocabBindings.Module

def heading (title see : Text) : Piece :=
  .docstring ("\n".toList ++ title ++ "\n\nGenerated from ".toList ++ see ++
    ", do not edit.\n".toList)

def describedPart (description : Text) : Text :=
  if description = [] then []
  else "    ".toList ++ descriptionBlock description ++ "\n\n".toList

def traitBody (c : ClassOutline) : Text :=
  "\n".toList ++ describedPart c.description ++
    (if c.parents = [] then "    Root of the ontology.\n".toList
     else "    Parents: ".toList ++ Text.joined ", ".toList c.parents ++ "\n".toList) ++
    "    ".toList

def propertyBody (p : Attribute) : Text :=
  "\n".toList ++ describedPart p.description ++ "    See: ".toList ++ p.reference ++ "\n    ".toList

def propertyPieces (p : Attribute) : List Piece :=
  [.code ("\n    ".toList ++ p.fieldName ++ ": ".toList ++ p.hint ++ " = None\n    ".toList),
   .docstring (propertyBody p), .code "\n".toList]

def traitPieces (see : Text) (c : ClassOutline) : List Piece :=
  [heading ("Trait holding the properties of ".toList ++ c.name ++ ".".toList) see,
   .code ("\n\nfrom __future__ import annotations\n\n".toList ++
     "from typing import Any, Optional, Union\n\n\n".toList ++
     "class ".toList ++ c.traitName ++ ":\n    ".toList),
   .docstring (traitBody c), .code "\n".toList]
    ++ c.properties.flatMap fun p => propertyPieces p.2

def traitModule (seeUrl : Text) (c : ClassOutline) : Text :=
  printed (traitPieces (seeUrl ++ c.name) c)

def importLine (package module name : Text) : Text :=
  "from ".toList ++ package ++ ".".toList ++ module ++ " import ".toList ++ name ++ "\n".toList

def classBody (c : ClassOutline) : Text :=
  "\n    ".toList ++ (if c.description = [] then c.name else descriptionBlock c.description) ++
    "\n    ".toList

def traitPackage (package : Text) : Text := package ++ ".traits".toList

def classPieces (package see : Text) (traits : List ClassOutline) (c : ClassOutline) : List Piece :=
  [heading
     (c.name ++ ", composed of its own trait and the traits of all its ancestors.".toList) see,
   .code ("\n\nfrom __future__ import annotations\n\n".toList ++
     traits.flatMap (fun t => importLine (traitPackage package) t.traitModuleName t.traitName) ++
     "\n\nclass ".toList ++ c.className ++ "(".toList ++
     Text.joined ", ".toList (traits.map ClassOutline.traitName) ++ "):\n    ".toList),
   .docstring (classBody c)]

def classModule (package seeUrl : Text) (traits : List ClassOutline) (c : ClassOutline) : Text :=
  printed (classPieces package (seeUrl ++ c.name) traits c)

def exportPieces (title package : Text) (exports : List (Text × Text)) : List Piece :=
  [.docstring ("\n".toList ++ title ++ "\n\nGenerated, do not edit.\n".toList),
   .code ("\n\n".toList ++ exports.flatMap (fun e => importLine package e.1 e.2) ++
     "\n__all__ = [\n".toList ++
     exports.flatMap (fun e => "    \"".toList ++ e.2 ++ "\",\n".toList) ++ "]".toList)]

def exportModule (title package : Text) (exports : List (Text × Text)) : Text :=
  printed (exportPieces title package exports)

end VocabBindings.Module
