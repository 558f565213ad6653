import Mathlib.Data.List.Chain
import VocabBindings.Module.Package
import VocabBindings.Proofs.Name.Identifier

/-!
Imports and class statements. A class module imports what its class derives from, and an exporting
module what it exports. The modules of a class have its class statements; the exporting modules have
none.
-/

set_option autoImplicit false

namespace VocabBindings

namespace Module

structure Import where
  path : List Text
  name : Text
  deriving DecidableEq

namespace Import

def ofTrait (c : ClassOutline) : Import := ⟨[traitFolder, c.traitModuleName], c.traitName⟩

def ofClass (c : ClassOutline) : Import := ⟨[c.moduleName], c.className⟩

def line (package : Text) (i : Import) : Text :=
  "from ".toList ++ Text.joined ".".toList (package :: i.path) ++ " import ".toList ++ i.name ++
    "\n".toList

theorem line_ofTrait (package : Text) (c : ClassOutline) :
    (ofTrait c).line package = importLine (traitPackage package) c.traitModuleName c.traitName := by
  have hpackage : traitPackage package = package ++ ".".toList ++ traitFolder := by
    rw [traitPackage, List.append_assoc]
    rfl
  have hpath : Text.joined ".".toList [package, traitFolder, c.traitModuleName] =
      package ++ ".".toList ++ traitFolder ++ ".".toList ++ c.traitModuleName := by
    simp [Text.joined]
  unfold line ofTrait importLine
  dsimp only
  simp only [hpath, hpackage, List.append_assoc]

theorem line_ofClass (package : Text) (c : ClassOutline) :
    (ofClass c).line package = importLine package c.moduleName c.className := by
  have hpath : Text.joined ".".toList [package, c.moduleName] =
      package ++ ".".toList ++ c.moduleName := by
    simp [Text.joined]
  unfold line ofClass importLine
  dsimp only
  simp only [hpath, List.append_assoc]

end Import

/-- A class module, given its imports. The class derives from what is imported. -/
def composedModule (o : PackageOptions) (imports : List Import) (c : ClassOutline) : Text :=
  printed
    [heading
       (c.name ++ ", composed of its own trait and the traits of all its ancestors.".toList)
       (o.seeUrl ++ c.name),
     .code ("\n\nfrom __future__ import annotations\n\n".toList ++
       imports.flatMap (Import.line o.package) ++ "\n\nclass ".toList ++ c.className ++
       "(".toList ++ Text.joined ", ".toList (imports.map Import.name) ++ "):\n    ".toList),
     .docstring (classBody c)]

def exportingModule (title : Text) (o : PackageOptions) (imports : List Import) : Text :=
  printed
    [.docstring ("\n".toList ++ title ++ "\n\nGenerated, do not edit.\n".toList),
     .code ("\n\n".toList ++ imports.flatMap (Import.line o.package) ++ "\n__all__ = [\n".toList ++
       imports.flatMap (fun i => "    \"".toList ++ i.name ++ "\",\n".toList) ++ "]".toList)]

theorem classModule_eq (o : PackageOptions) (traits : List ClassOutline) (c : ClassOutline) :
    classModule o.package o.seeUrl traits c = composedModule o (traits.map Import.ofTrait) c := by
  simp only [classModule, classPieces, composedModule, List.flatMap_map, List.map_map,
    Import.line_ofTrait]
  rfl

theorem exportModule_ofTrait (title : Text) (o : PackageOptions) (classes : List ClassOutline) :
    exportModule title (traitPackage o.package)
        (classes.map fun c => (c.traitModuleName, c.traitName)) =
      exportingModule title o (classes.map Import.ofTrait) := by
  simp only [exportModule, exportPieces, exportingModule, List.flatMap_map, Import.line_ofTrait]
  rfl

theorem exportModule_ofClass (title : Text) (o : PackageOptions) (classes : List ClassOutline) :
    exportModule title o.package (classes.map fun c => (c.moduleName, c.className)) =
      exportingModule title o (classes.map Import.ofClass) := by
  simp only [exportModule, exportPieces, exportingModule, List.flatMap_map, Import.line_ofClass]
  rfl

def Declares (content name : Text) : Prop :=
  ∃ next ∈ ([':', '('] : Text), "\nclass ".toList ++ name ++ [next] <:+: content

instance (content name : Text) : Decidable (Declares content name) :=
  inferInstanceAs (Decidable (∃ next ∈ ([':', '('] : Text), _))

theorem infix_printed {pieces : List Piece} {t : Text} (h : .code t ∈ pieces) :
    t <:+: printed pieces := by
  obtain ⟨before, after, rfl⟩ := List.append_of_mem h
  refine ⟨printed before, printed after, ?_⟩
  simp [printed, Piece.text]

theorem declares_traitModule (seeUrl : Text) (c : ClassOutline) :
    Declares (traitModule seeUrl c) c.traitName := by
  have hcode : .code ("\n\nfrom __future__ import annotations\n\n".toList ++
      "from typing import Any, Optional, Union\n\n\n".toList ++
      "class ".toList ++ c.traitName ++ ":\n    ".toList) ∈ traitPieces (seeUrl ++ c.name) c := by
    simp [traitPieces]
  refine ⟨':', by simp, .trans ?_ (infix_printed hcode)⟩
  refine ⟨"\n\nfrom __future__ import annotations\n\n".toList ++
    "from typing import Any, Optional, Union\n\n".toList, "\n    ".toList, ?_⟩
  simp

theorem declares_composedModule (o : PackageOptions) (imports : List Import) (c : ClassOutline) :
    Declares (composedModule o imports c) c.className := by
  refine ⟨'(', by simp, .trans ?_ (infix_printed (List.mem_cons_of_mem _ List.mem_cons_self))⟩
  refine ⟨"\n\nfrom __future__ import annotations\n\n".toList ++
    imports.flatMap (Import.line o.package) ++ "\n".toList,
    Text.joined ", ".toList (imports.map Import.name) ++ "):\n    ".toList, ?_⟩
  simp

/-- A text of which no line but the first starts like a class statement. -/
def NoClassLine (t : Text) : Prop := t.IsChain fun a b => a = '\n' → b ≠ 'c'

instance (t : Text) : Decidable (NoClassLine t) :=
  inferInstanceAs (Decidable (t.IsChain _))

theorem NoClassLine.not_declares {t name : Text} (h : NoClassLine t) : ¬ Declares t name := by
  rintro ⟨next, -, hstatement⟩
  have hstart : ['\n', 'c'] <:+: "\nclass ".toList ++ name ++ [next] :=
    ⟨[], "lass ".toList ++ name ++ [next], by simp⟩
  have hchain := h.infix (hstart.trans hstatement)
  simp at hchain

theorem noClassLine_append_newline {before after : Text} :
    NoClassLine (before ++ '\n' :: after) ↔
      NoClassLine (before ++ ['\n']) ∧ NoClassLine ('\n' :: after) := List.isChain_split

theorem noClassLine_line {body rest : Text} (hbody : '\n' ∉ body) (hstart : body.head? ≠ some 'c')
    (hrest : NoClassLine ('\n' :: rest)) : NoClassLine ('\n' :: (body ++ '\n' :: rest)) := by
  rw [← List.cons_append, noClassLine_append_newline]
  refine ⟨List.isChain_cons.mpr ⟨fun y hy _ => ?_, ?_⟩, hrest⟩
  · cases body with
    | nil =>
      obtain rfl : '\n' = y := by simpa using hy
      decide
    | cons x body =>
      obtain rfl : x = y := by simpa using hy
      simpa using hstart
  · have hquiet : ∀ x ∈ body, x ≠ '\n' := fun x hx heq => hbody (heq ▸ hx)
    refine (List.pairwise_append.mpr ⟨?_, List.pairwise_singleton _ _, ?_⟩).isChain
    · exact List.pairwise_of_forall_mem_list fun x hx _ _ heq => absurd heq (hquiet x hx)
    · exact fun x hx _ _ heq => absurd heq (hquiet x hx)

theorem noClassLine_flatMap {imports : List Import} {f : Import → Text} {rest : Text}
    (hf : ∀ i ∈ imports, ∃ body, f i = body ++ ['\n'] ∧ '\n' ∉ body ∧ body.head? ≠ some 'c')
    (hrest : NoClassLine ('\n' :: rest)) :
    NoClassLine ('\n' :: (imports.flatMap f ++ rest)) := by
  induction imports with
  | nil => exact hrest
  | cons i more ih =>
    obtain ⟨body, heq, hbody, hstart⟩ := hf i List.mem_cons_self
    have hmore := ih fun j hj => hf j (List.mem_cons_of_mem _ hj)
    rw [List.flatMap_cons, heq, List.append_assoc, List.append_assoc]
    exact noClassLine_line hbody hstart hmore

theorem noClassLine_exportingModule {o : PackageOptions} (h : '\n' ∉ o.package)
    (classes : List ClassOutline) :
    NoClassLine (exportingModule "Traits of all generated classes.".toList o
      (classes.map Import.ofTrait)) := by
  have hname : ∀ c : ClassOutline, '\n' ∉ c.traitName := fun _ =>
    Name.not_mem_append (fun _ => Name.isIdentifierChar_of_mem_identifier) (by decide) (by decide)
  have hmodule : ∀ c : ClassOutline, '\n' ∉ c.traitModuleName := fun _ =>
    Name.not_mem_append (fun _ => Name.isIdentifierChar_of_mem_identifier) (by decide) (by decide)
  have hlines : ∀ i ∈ classes.map Import.ofTrait, ∃ body, i.line o.package = body ++ ['\n'] ∧
      '\n' ∉ body ∧ body.head? ≠ some 'c' := by
    refine List.forall_mem_map.mpr fun c _ => ⟨_, Import.line_ofTrait .., ?_, by simp⟩
    simp [traitPackage, h, hname, hmodule]
  have hexports : ∀ i ∈ classes.map Import.ofTrait, ∃ body,
      "    \"".toList ++ i.name ++ "\",\n".toList = body ++ ['\n'] ∧
        '\n' ∉ body ∧ body.head? ≠ some 'c' := by
    refine List.forall_mem_map.mpr fun c _ => ⟨"    \"".toList ++ c.traitName ++ "\",".toList, ?_⟩
    simp [Import.ofTrait, hname]
  have hlayout : exportingModule "Traits of all generated classes.".toList o
      (classes.map Import.ofTrait) =
      "\"\"\"\nTraits of all generated classes.\n\nGenerated, do not edit.\n\"\"\"".toList ++ '\n' ::
        ([] ++ '\n' :: ((classes.map Import.ofTrait).flatMap (Import.line o.package) ++
          ([] ++ '\n' :: ("__all__ = [".toList ++ '\n' ::
            ((classes.map Import.ofTrait).flatMap (fun i =>
              "    \"".toList ++ i.name ++ "\",\n".toList) ++ "]".toList))))) := by
    simp [exportingModule, printed, Piece.text, tripleQuote]
  have hend : NoClassLine ('\n' :: "]".toList) := by decide
  rw [hlayout, noClassLine_append_newline]
  refine ⟨by decide +kernel, noClassLine_line (by simp) (by simp) (noClassLine_flatMap hlines ?_)⟩
  refine noClassLine_line (by simp) (by simp) (noClassLine_line (by decide) (by decide) ?_)
  exact noClassLine_flatMap hexports hend

end Module

end VocabBindings
