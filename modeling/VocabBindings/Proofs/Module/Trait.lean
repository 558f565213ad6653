import VocabBindings.Proofs.Module.Assignment
import VocabBindings.Proofs.Module.Description
import VocabBindings.Proofs.Text.Pieces

/-!
Trait modules as they are read. Apart from descriptions a trait is made of identifiers and of names
that are printed as they are. If these hold neither a quote nor a backslash, the trait is read as it
was written exactly if none of its descriptions is broken, and then its code does not depend on the
descriptions.
-/

set_option autoImplicit false

namespace VocabBindings.Module

def Plain (t : Text) : Prop := '"' ∉ t ∧ '\\' ∉ t

instance (t : Text) : Decidable (Plain t) := inferInstanceAs (Decidable (_ ∧ _))

theorem Plain.passes {t : Text} (h : Plain t) : Passes t := passes_of_not_mem h.1 h.2

theorem plain_append_iff {t u : Text} : Plain (t ++ u) ↔ Plain t ∧ Plain u := by
  simp only [Plain, List.mem_append, not_or]
  exact and_and_and_comm

theorem Plain.joined {separator : Text} {texts : List Text} (hs : Plain separator)
    (h : ∀ t ∈ texts, Plain t) : Plain (Text.joined separator texts) := by
  constructor
  · intro hquote
    rcases Text.mem_of_mem_joined hquote with hmem | ⟨t, ht, hmem⟩
    · exact hs.1 hmem
    · exact (h t ht).1 hmem
  · intro hescape
    rcases Text.mem_of_mem_joined hescape with hmem | ⟨t, ht, hmem⟩
    · exact hs.2 hmem
    · exact (h t ht).2 hmem

theorem plain_of_isIdentifierChar {t : Text} (h : ∀ c ∈ t, Name.isIdentifierChar c) : Plain t :=
  ⟨fun hquote => absurd (h _ hquote) (by decide), fun hescape => absurd (h _ hescape) (by decide)⟩

theorem plain_identifier (name : Text) : Plain (Name.identifier name) :=
  plain_of_isIdentifierChar fun _ hc => Name.isIdentifierChar_of_mem_identifier hc

theorem plain_hint (p : Attribute) : Plain p.hint := by
  have htypes : ∀ t ∈ p.typeNames, Plain t := by
    intro t ht
    obtain ⟨name, -, rfl⟩ := List.mem_map.mp (List.mem_eraseDups.mp ht)
    exact plain_identifier name
  unfold Attribute.hint
  split
  · decide
  · rename_i type heq
    have htype := htypes type (by simp [heq])
    simp only [plain_append_iff, htype]
    decide
  · have hjoined := Plain.joined (by decide : Plain ", ".toList) htypes
    simp only [plain_append_iff, hjoined]
    decide

structure PlainNames (seeUrl : Text) (c : ClassOutline) : Prop where
  see : Plain seeUrl
  name : Plain c.name
  parents : ∀ parent ∈ c.parents, Plain parent
  references : ∀ p ∈ c.properties, Plain p.2.reference

def AllUnbroken (c : ClassOutline) : Prop :=
  Unbroken c.description ∧ ∀ p ∈ c.properties, Unbroken p.2.description

theorem unbroken_nil : Unbroken [] := unbroken_of_few_quotes (by decide)

theorem passes_describedPart {description : Text} (h : Unbroken description) :
    Passes (describedPart description) := by
  rw [describedPart]
  split
  · exact passes_nil
  · have hblock := (by decide : Plain "    ".toList).passes.append (passes_descriptionBlock h)
    have hends := hblock.append (by decide : Plain ['\n']).passes
    simpa using hends

theorem breaks_describedPart {description : Text} (h : ¬ Unbroken description) :
    Breaks (describedPart description) := by
  rw [describedPart, if_neg (by rintro rfl; exact h unbroken_nil)]
  have hblock := (by decide : Plain "    ".toList).passes.breaks_append (breaks_descriptionBlock h)
  simpa using hblock.append ['\n']

theorem passesIff_describedPart (description : Text) :
    PassesIff (describedPart description) (Unbroken description) := by
  by_cases h : Unbroken description
  · exact .inl ⟨h, passes_describedPart h⟩
  · exact .inr ⟨h, breaks_describedPart h⟩

def traitHeading (see : Text) (c : ClassOutline) : Text :=
  "\n".toList ++ ("Trait holding the properties of ".toList ++ c.name ++ ".".toList) ++
    "\n\nGenerated from ".toList ++ see ++ ", do not edit.\n".toList

theorem passesIff_traitHeading (see : Text) (c : ClassOutline) :
    PassesIff (traitHeading see c) (¬ Breaks c.name ∧ ¬ Breaks see) := by
  have hname := PassesIff.append_singleton c.name (by decide : '.' ≠ '"') (by decide)
  have hsee := PassesIff.append_singleton see (by decide : ',' ≠ '"') (by decide)
  have hlead : Passes "\nTrait holding the properties of ".toList := Plain.passes (by decide)
  have hmiddle : Passes "\n\nGenerated from ".toList := Plain.passes (by decide)
  have hend : Passes " do not edit.\n".toList := Plain.passes (by decide)
  have hall := ((hname.behind hlead).before hmiddle).append (hsee.before hend)
  simpa [traitHeading] using hall

theorem passesIff_joined (names : List Text) :
    PassesIff (Text.joined ", ".toList names ++ ['\n']) (∀ name ∈ names, ¬ Breaks name) := by
  induction names with
  | nil => exact .inl ⟨by simp, Plain.passes (by decide)⟩
  | cons name rest ih =>
    cases rest with
    | nil =>
      have hname := PassesIff.append_singleton name (by decide : '\n' ≠ '"') (by decide)
      simpa [Text.joined] using hname
    | cons next more =>
      have hname := PassesIff.append_singleton name (by decide : ',' ≠ '"') (by decide)
      have hblank : Passes [' '] := Plain.passes (by decide)
      have hall := hname.append (ih.behind hblank)
      rw [joined_cons_cons]
      simpa using hall

theorem passesIff_traitBody (c : ClassOutline) :
    PassesIff (traitBody c) (Unbroken c.description ∧ ∀ parent ∈ c.parents, ¬ Breaks parent) := by
  have hparents : PassesIff (if c.parents = [] then "    Root of the ontology.\n".toList
      else "    Parents: ".toList ++ Text.joined ", ".toList c.parents ++ "\n".toList)
      (∀ parent ∈ c.parents, ¬ Breaks parent) := by
    split
    · rename_i hroot
      exact .inl ⟨by simp [hroot], Plain.passes (by decide)⟩
    · have hlead : Passes "    Parents: ".toList := Plain.passes (by decide)
      simpa using (passesIff_joined c.parents).behind hlead
  have hnewline : Passes "\n".toList := Plain.passes (by decide)
  have hindent : Passes "    ".toList := Plain.passes (by decide)
  have hall := (((passesIff_describedPart c.description).behind hnewline).append hparents)
  exact hall.before hindent

theorem passesIff_propertyBody (p : Attribute) :
    PassesIff (propertyBody p) (Unbroken p.description ∧ ¬ Breaks p.reference) := by
  have hnewline : Passes "\n".toList := Plain.passes (by decide)
  have hlead : Passes "    See: ".toList := Plain.passes (by decide)
  have hindent : Passes "    ".toList := Plain.passes (by decide)
  have hsee := PassesIff.append_singleton p.reference (by decide : '\n' ≠ '"') (by decide)
  have hall := ((passesIff_describedPart p.description).behind hnewline).append
    ((hsee.behind hlead).before hindent)
  simpa [propertyBody] using hall

theorem code_of_mem_traitPieces {see t : Text} {c : ClassOutline}
    (h : .code t ∈ traitPieces see c) : '"' ∉ t := by
  have hclass := (plain_identifier c.name).1
  simp only [traitPieces, heading, List.cons_append, List.nil_append, List.mem_cons, reduceCtorEq,
    Piece.code.injEq, List.mem_flatMap, false_or] at h
  rcases h with rfl | rfl | ⟨p, -, hp⟩
  · simp [ClassOutline.traitName, ClassOutline.className, Name.className, hclass]
  · decide
  · have hfield := (plain_identifier (Name.snakeCase p.2.name)).1
    simp only [propertyPieces, List.mem_cons, Piece.code.injEq, reduceCtorEq, List.not_mem_nil,
      or_false, false_or] at hp
    rcases hp with rfl | rfl
    · simp [Attribute.fieldName, Name.fieldName, hfield, (plain_hint p.2).1]
    · decide

theorem forall_docstring_traitPieces_iff {P : Text → Prop} {see : Text} {c : ClassOutline} :
    (∀ body, .docstring body ∈ traitPieces see c → P body) ↔
      P (traitHeading see c) ∧ P (traitBody c) ∧ ∀ p ∈ c.properties, P (propertyBody p.2) := by
  constructor
  · intro h
    refine ⟨h _ List.mem_cons_self, h _ (by simp [traitPieces]), fun p hp => h _ ?_⟩
    exact List.mem_append_right _ (List.mem_flatMap.mpr ⟨p, hp, by simp [propertyPieces]⟩)
  · rintro ⟨hheading, htrait, hproperty⟩ body hbody
    simp only [traitPieces, heading, List.cons_append, List.nil_append, List.mem_cons, reduceCtorEq,
      Piece.docstring.injEq, List.mem_flatMap, false_or] at hbody
    rcases hbody with rfl | rfl | ⟨p, hp, hbody⟩
    · exact hheading
    · exact htrait
    · simp only [propertyPieces, List.mem_cons, Piece.docstring.injEq, reduceCtorEq,
        List.not_mem_nil, or_false, false_or] at hbody
      exact hbody ▸ hproperty p hp

def printedNames (c : ClassOutline) : List Text :=
  c.name :: c.parents ++ c.properties.map fun p => p.2.reference

theorem forall_mem_printedNames {c : ClassOutline} {P : Text → Prop} :
    (∀ name ∈ printedNames c, P name) ↔
      P c.name ∧ (∀ parent ∈ c.parents, P parent) ∧ ∀ p ∈ c.properties, P p.2.reference := by
  rw [printedNames, List.cons_append, List.forall_mem_cons, List.forall_mem_append,
    List.forall_mem_map]

structure Contained (seeUrl : Text) (c : ClassOutline) : Prop where
  see : ¬ Breaks (seeUrl ++ c.name)
  names : ∀ name ∈ printedNames c, ¬ Breaks name

/-- A trait is read as it was written exactly if no docstring ends inside a description or a
name. -/
theorem parts_traitModule_eq_iff {seeUrl : Text} {c : ClassOutline} :
    parts false (traitModule seeUrl c) = written (traitPieces (seeUrl ++ c.name) c) ↔
      AllUnbroken c ∧ Contained seeUrl c := by
  have hheading := passesIff_traitHeading (seeUrl ++ c.name) c
  have htrait := passesIff_traitBody c
  have hbodies : ∀ body, .docstring body ∈ traitPieces (seeUrl ++ c.name) c →
      Passes body ∨ Breaks body := by
    rw [forall_docstring_traitPieces_iff]
    exact ⟨hheading.passes_or_breaks, htrait.passes_or_breaks, fun p _ =>
      (passesIff_propertyBody p.2).passes_or_breaks⟩
  rw [traitModule, parts_printed_iff (fun t => code_of_mem_traitPieces) hbodies,
    forall_docstring_traitPieces_iff, hheading.passes_iff, htrait.passes_iff]
  constructor
  · rintro ⟨⟨hname, hsee⟩, ⟨hdescription, hparents⟩, hproperties⟩
    have hproperty := fun p hp => (passesIff_propertyBody p.2).passes_iff.mp (hproperties p hp)
    exact ⟨⟨hdescription, fun p hp => (hproperty p hp).1⟩, hsee,
      forall_mem_printedNames.mpr ⟨hname, hparents, fun p hp => (hproperty p hp).2⟩⟩
  · rintro ⟨⟨hdescription, hproperties⟩, hsee, hnames⟩
    obtain ⟨hname, hparents, hreferences⟩ := forall_mem_printedNames.mp hnames
    exact ⟨⟨hname, hsee⟩, ⟨hdescription, hparents⟩, fun p hp =>
      (passesIff_propertyBody p.2).passes_iff.mpr ⟨hproperties p hp, hreferences p hp⟩⟩

theorem Plain.not_breaks {t : Text} (h : Plain t) : ¬ Breaks t :=
  fun hbreaks => hbreaks.not_passes h.passes

theorem PlainNames.contained {seeUrl : Text} {c : ClassOutline} (h : PlainNames seeUrl c) :
    Contained seeUrl c := by
  refine ⟨(plain_append_iff.mpr ⟨h.see, h.name⟩).not_breaks,
    forall_mem_printedNames.mpr ⟨?_, ?_, ?_⟩⟩
  · exact h.name.not_breaks
  · exact fun parent hparent => (h.parents parent hparent).not_breaks
  · exact fun p hp => (h.references p hp).not_breaks

theorem parts_traitModule_iff {seeUrl : Text} {c : ClassOutline} (h : PlainNames seeUrl c) :
    parts false (traitModule seeUrl c) = written (traitPieces (seeUrl ++ c.name) c) ↔
      AllUnbroken c := by
  rw [parts_traitModule_eq_iff, and_iff_left h.contained]

def fieldCode : List (Text × Text) → List Text
  | [] => ["\n".toList]
  | (field, hint) :: rest =>
    ("\n\n    ".toList ++ assignment field hint ++ "\n    ".toList) :: fieldCode rest

def traitCode (name : Text) (fields : List (Text × Text)) : List Text :=
  [] :: ("\n\nfrom __future__ import annotations\n\n".toList ++
      "from typing import Any, Optional, Union\n\n\n".toList ++
      "class ".toList ++ name ++ ":\n    ".toList) :: fieldCode fields

def fields (c : ClassOutline) : List (Text × Text) :=
  c.properties.map fun p => (p.2.fieldName, p.2.hint)

theorem codeParts_written_propertyPieces (properties : List (Text × Attribute)) :
    codeParts (written (.code "\n".toList :: properties.flatMap fun p => propertyPieces p.2)) =
      fieldCode (properties.map fun p => (p.2.fieldName, p.2.hint)) := by
  induction properties with
  | nil => rfl
  | cons p rest ih =>
    rw [List.flatMap_cons, propertyPieces_eq, List.map_cons, fieldCode, ← ih]
    simp [written, extend, codeParts, fieldLine]

theorem codeParts_written_traitPieces_eq (see : Text) (c : ClassOutline) :
    codeParts (written (traitPieces see c)) = traitCode c.traitName (fields c) := by
  rw [traitCode, fields, ← codeParts_written_propertyPieces]
  simp [traitPieces, heading, written, extend, codeParts]

def undescribed (c : ClassOutline) : ClassOutline :=
  { c with
    description := []
    properties := c.properties.map fun p => (p.1, { p.2 with description := [] }) }

theorem withoutBody_traitPieces (see : Text) (c : ClassOutline) :
    (traitPieces see (undescribed c)).map Piece.withoutBody =
      (traitPieces see c).map Piece.withoutBody := by
  have hproperty : ∀ p : Text × Attribute,
      (propertyPieces { p.2 with description := [] }).map Piece.withoutBody =
        (propertyPieces p.2).map Piece.withoutBody := fun _ => rfl
  have hproperties := congrArg List.flatten
    (List.map_congr_left fun p (_ : p ∈ c.properties) => hproperty p)
  simp only [traitPieces, undescribed, List.map_append, List.map_flatMap, List.flatMap_map]
  exact congrArg _ hproperties

theorem codeParts_written_traitPieces {see : Text} {c d : ClassOutline}
    (h : undescribed c = undescribed d) :
    codeParts (written (traitPieces see c)) = codeParts (written (traitPieces see d)) := by
  rw [← codeParts_written, ← withoutBody_traitPieces, h, withoutBody_traitPieces, codeParts_written]

theorem plainNames_undescribed_iff {seeUrl : Text} {c : ClassOutline} :
    PlainNames seeUrl (undescribed c) ↔ PlainNames seeUrl c := by
  constructor
  · intro h
    refine ⟨h.see, h.name, h.parents, fun p hp => ?_⟩
    have hmem : (p.1, { p.2 with description := [] }) ∈ (undescribed c).properties :=
      List.mem_map.mpr ⟨p, hp, rfl⟩
    have hreference := h.references _ hmem
    exact hreference
  · intro h
    refine ⟨h.see, h.name, h.parents, fun p hp => ?_⟩
    obtain ⟨q, hq, rfl⟩ := List.mem_map.mp hp
    exact h.references q hq

/-- A trait is read as it was written exactly if none of its descriptions is broken. Then its code
is the same for any other unbroken descriptions. -/
theorem parts_traitModule {seeUrl : Text} {c : ClassOutline} (h : PlainNames seeUrl c) :
    (parts false (traitModule seeUrl c) = written (traitPieces (seeUrl ++ c.name) c) ↔
      AllUnbroken c) ∧
    ∀ d, undescribed d = undescribed c → AllUnbroken c → AllUnbroken d →
      codeParts (parts false (traitModule seeUrl d)) =
        codeParts (parts false (traitModule seeUrl c)) := by
  refine ⟨parts_traitModule_iff h, fun d hd hc hother => ?_⟩
  have hplain : PlainNames seeUrl d := by
    rw [← plainNames_undescribed_iff, hd, plainNames_undescribed_iff]
    exact h
  have hname : d.name = c.name := by
    show (undescribed d).name = (undescribed c).name
    rw [hd]
  rw [(parts_traitModule_iff h).mpr hc, (parts_traitModule_iff hplain).mpr hother, hname]
  exact codeParts_written_traitPieces hd

def schemaUrl : Text := "https://schema.org/".toList

def quoted : ClassOutline :=
  { name := "Thing".toList
    description := "Say \"\"\"stop\"\"\", \\n or \\\"\"\".".toList
    properties := [("see".toList,
      { name := "see".toList, description := "\"\"\"\"".toList, reference := "see".toList })] }

theorem parts_traitModule_quoted :
    PlainNames schemaUrl quoted ∧ AllUnbroken quoted ∧
      parts false (traitModule schemaUrl quoted) =
        written (traitPieces (schemaUrl ++ quoted.name) quoted) ∧
      codeParts (parts false (traitModule schemaUrl (undescribed quoted))) =
        codeParts (parts false (traitModule schemaUrl quoted)) := by
  have hplain : PlainNames schemaUrl quoted := ⟨by decide, by decide, by decide, by decide⟩
  have hquoted : AllUnbroken quoted := by
    refine ⟨unbroken_of_few_quotes (by decide), ?_⟩
    exact List.forall_mem_singleton.mpr (unbroken_of_few_quotes (by decide))
  have hempty : AllUnbroken (undescribed quoted) :=
    ⟨unbroken_nil, List.forall_mem_singleton.mpr unbroken_nil⟩
  have hread := parts_traitModule hplain
  exact ⟨hplain, hquoted, hread.1.mpr hquoted, hread.2 _ rfl hquoted hempty⟩

/-- Five quotes in a row behind a word that leaves room for the first two escapes on its line. -/
def shouted : ClassOutline :=
  { name := "Thing".toList
    description := List.replicate 87 'a' ++ List.replicate 5 '"' }

theorem exists_parts_traitModule_ne :
    ∃ seeUrl c d, PlainNames seeUrl c ∧ PlainNames seeUrl d ∧ undescribed d = undescribed c ∧
      parts false (traitModule seeUrl c) ≠ written (traitPieces (seeUrl ++ c.name) c) ∧
      codeParts (parts false (traitModule seeUrl d)) ≠
        codeParts (parts false (traitModule seeUrl c)) := by
  refine ⟨schemaUrl, shouted, undescribed shouted, ?_, ?_, rfl, by decide +kernel,
    by decide +kernel⟩
  · exact ⟨by decide, by decide, by decide, by decide⟩
  · exact ⟨by decide, by decide, by decide, by decide⟩

end VocabBindings.Module
