import VocabBindings.Proofs.Module.Trait
import VocabBindings.Proofs.Name.FieldName
import VocabBindings.Proofs.Package.Paths
import VocabBindings.Proofs.Resolution.Suggestions

/-!
The fields of a trait. A trait assigns to one field for each of its properties, in their order, and a
later assignment to the same field takes the place of an earlier one. The labels of the properties are
different, but two of them may be spelled alike; a trait keeps an attribute for every property exactly
if no two are.
-/

set_option autoImplicit false

namespace VocabBindings

namespace Module

def assignedField (code : Text) : Option Text :=
  if "\n\n    ".toList <+: code then some ((code.drop 6).takeWhile (· ≠ ':')) else none

def assignedFields (see : Text) (c : ClassOutline) : List Text :=
  (codeParts (written (traitPieces see c))).filterMap assignedField

/-- The attributes that a trait has after all assignments, with their annotations. -/
def attributes (c : ClassOutline) : List (Text × Text) := Keyed.ofList (fields c)

theorem assignedField_append {field : Text} (h : ':' ∉ field) (hint : Text) :
    assignedField ("\n\n    ".toList ++ assignment field hint ++ "\n    ".toList) = some field := by
  have hfield : ∀ x ∈ field, x ≠ ':' := fun x hx heq => h (heq ▸ hx)
  have hlead : ("\n\n    ".toList).length = 6 := by decide
  rw [List.append_assoc, assignedField, if_pos (List.prefix_append _ _), ← hlead, List.drop_left,
    assignment, List.append_assoc, List.append_assoc, List.append_assoc,
    List.takeWhile_append_of_pos (by simpa using hfield)]
  simp

theorem filterMap_fieldCode {fields : List (Text × Text)} (h : ∀ f ∈ fields, ':' ∉ f.1) :
    (fieldCode fields).filterMap assignedField = fields.map Prod.fst := by
  induction fields with
  | nil => decide
  | cons f rest ih =>
    have hfield := assignedField_append (h f List.mem_cons_self) f.2
    rw [fieldCode, List.filterMap_cons_some hfield,
      ih fun g hg => h g (List.mem_cons_of_mem _ hg), List.map_cons]

theorem assignedFields_eq (see : Text) (c : ClassOutline) :
    assignedFields see c = c.properties.map fun p => p.2.fieldName := by
  have hcolon : ∀ f ∈ fields c, ':' ∉ f.1 := by
    intro f hf hm
    obtain ⟨p, -, rfl⟩ := List.mem_map.mp hf
    exact absurd (Name.isIdentifierChar_of_mem_identifier hm) (by decide)
  have hopening : ∀ name : Text, assignedField ("\n\nfrom __future__ import annotations\n\n".toList ++
      "from typing import Any, Optional, Union\n\n\n".toList ++
      "class ".toList ++ name ++ ":\n    ".toList) = none := by
    intro name
    simp [assignedField]
  rw [assignedFields, codeParts_written_traitPieces_eq, traitCode, List.filterMap_cons_none rfl,
    List.filterMap_cons_none (hopening _), filterMap_fieldCode hcolon, fields, List.map_map]
  rfl

theorem get?_attributes_eq_some_iff {c : ClassOutline} {field hint : Text} :
    Keyed.get? field (attributes c) = some hint ↔
      ∃ before p after, c.properties = before ++ p :: after ∧ p.2.fieldName = field ∧
        p.2.hint = hint ∧ ∀ q ∈ after, q.2.fieldName ≠ field := by
  rw [attributes, Keyed.get?_ofList_eq_some_iff, fields]
  constructor
  · rintro ⟨before, after, hsplit, hafter⟩
    obtain ⟨former, rest, hproperties, rfl, hrest⟩ := List.map_eq_append_iff.mp hsplit
    obtain ⟨p, latter, rfl, hp, rfl⟩ := List.map_eq_cons_iff.mp hrest
    obtain ⟨rfl, rfl⟩ := Prod.mk.inj hp
    exact ⟨former, p, latter, hproperties, rfl, rfl, fun q hq => hafter _ (List.mem_map_of_mem hq)⟩
  · rintro ⟨before, p, after, hproperties, rfl, rfl, hafter⟩
    refine ⟨_, _, by rw [hproperties, List.map_append, List.map_cons], fun f hf => ?_⟩
    obtain ⟨q, hq, rfl⟩ := List.mem_map.mp hf
    exact hafter q hq

theorem length_attributes_eq_iff {c : ClassOutline} :
    (attributes c).length = c.properties.length ↔
      c.properties.Pairwise fun p q => p.2.fieldName ≠ q.2.fieldName := by
  have hfields : (fields c).length = c.properties.length := List.length_map ..
  rw [attributes, ← hfields, Keyed.length_ofList_eq_iff, fields, List.map_map, List.Nodup,
    List.pairwise_map]
  rfl

end Module

structure ClassOutline.Labelled (c : ClassOutline) : Prop where
  name_eq : ∀ p ∈ c.properties, p.2.name = p.1
  nodup : (Keyed.keys c.properties).Nodup

theorem Context.labelled_of_mem_classes {c : Context} {m : TypeNaming} {outline : ClassOutline}
    (ho : outline ∈ (c.resolution m).classes) : outline.Labelled := by
  constructor
  · intro p hp
    obtain ⟨e, -, -, -, rfl⟩ := exists_of_mem_properties rfl ho hp
    rfl
  · obtain ⟨name, -, ho⟩ := mem_classes_resolution.mp ho
    obtain ⟨_, -, rfl⟩ := Option.map_eq_some_iff.mp ho
    exact Keyed.nodup_keys_ofList _

namespace ClassOutline.Labelled

variable {c : ClassOutline}

theorem fieldName_eq (h : c.Labelled) {p : Text × Attribute} (hp : p ∈ c.properties) :
    p.2.fieldName = Name.fieldName p.1 := by
  rw [Attribute.fieldName, h.name_eq p hp]

theorem fieldName_eq_iff (h : c.Labelled) {p q : Text × Attribute} (hp : p ∈ c.properties)
    (hq : q ∈ c.properties) : p.2.fieldName = q.2.fieldName ↔ Name.Alike p.1 q.1 := by
  rw [h.fieldName_eq hp, h.fieldName_eq hq, Name.fieldName_eq_iff]

theorem length_attributes_eq_iff (h : c.Labelled) :
    (Module.attributes c).length = c.properties.length ↔
      (Keyed.keys c.properties).Pairwise fun a b => ¬ Name.Alike a b := by
  rw [Module.length_attributes_eq_iff, Keyed.keys, List.pairwise_map]
  refine List.Pairwise.iff_of_mem fun {p q} hp hq => ?_
  rw [ne_eq, h.fieldName_eq_iff hp hq]

end ClassOutline.Labelled

open VocabBindings.Module

/-- The properties of a class have different labels. Its trait assigns to a field for each of them,
and of properties that are spelled alike only the last one leaves an attribute. No attribute is lost
if the labels differ in their letters or digits. -/
theorem fields_of_resolveClasses {entries : List Entry} {schemas : List Text} {m naming : TypeNaming}
    {r : Resolution} (h : resolveClasses entries schemas m = .ok (r, naming)) (see : Text) :
    ∀ c ∈ r.classes,
      (Keyed.keys c.properties).Nodup ∧
      assignedFields see c = (Keyed.keys c.properties).map Name.fieldName ∧
      (∀ p ∈ c.properties, ∀ q ∈ c.properties,
        p.2.fieldName = q.2.fieldName ↔ Name.Alike p.1 q.1) ∧
      (∀ field hint, Keyed.get? field (attributes c) = some hint ↔
        ∃ before p after, c.properties = before ++ p :: after ∧ p.2.fieldName = field ∧
          p.2.hint = hint ∧ ∀ q ∈ after, q.2.fieldName ≠ field) ∧
      ((attributes c).length = c.properties.length ↔
        (Keyed.keys c.properties).Pairwise fun a b => ¬ Name.Alike a b) ∧
      (((Keyed.keys c.properties).map Name.letters).Nodup →
        (attributes c).length = c.properties.length) := by
  obtain ⟨index, c, -, -, rfl⟩ := exists_of_resolveClasses_eq_ok h
  intro outline ho
  have hlabelled := Context.labelled_of_mem_classes ho
  refine ⟨hlabelled.nodup, ?_, fun p hp q hq => hlabelled.fieldName_eq_iff hp hq,
    fun field hint => get?_attributes_eq_some_iff, hlabelled.length_attributes_eq_iff, ?_⟩
  · rw [assignedFields_eq, Keyed.keys, List.map_map]
    exact List.map_congr_left fun p hp => hlabelled.fieldName_eq hp
  · intro hletters
    rw [List.Nodup, List.pairwise_map] at hletters
    rw [hlabelled.length_attributes_eq_iff]
    exact hletters.imp fun hne halike => hne (Name.letters_eq_of_alike halike)

def staff : List Entry :=
  [Context.bareClass "Person" [], bareProperty "worksFor" ["Person"] [],
    bareProperty "workFor" ["Person"] ["Text"], bareProperty "class" ["Person"] ["Text"],
    bareProperty "3d" ["Person"] ["Number"]]

theorem fields_of_resolveClasses_staff :
    ∃ r naming, resolveClasses staff ["Person".toList] {} = .ok (r, naming) ∧
      ∃ c ∈ r.classes, assignedFields [] c =
          ["works_for", "work_for", "class_", "_3d"].map String.toList ∧
        (attributes c).length = c.properties.length := by
  let c : Context :=
    { index := ⟨staff⟩, requested := ["Person".toList], required := ["Person".toList] }
  have hi : Index.ofEntries staff = .ok ⟨staff⟩ := by cbv
  have hc : ({ index := ⟨staff⟩ : Context }).requireAll ["Person".toList] = (c, none) := by cbv
  have hr := resolveClasses_eq_ok (m := {}) hi hc
  have hkeys : (c.resolution {}).classes.map (fun outline => Keyed.keys outline.properties) =
      [["worksFor", "workFor", "class", "3d"].map String.toList] := by
    decide
  obtain ⟨outline, ho, hkeys⟩ := List.map_eq_singleton_iff.mp hkeys
  have hmem : outline ∈ (c.resolution {}).classes := ho ▸ List.mem_cons_self
  obtain ⟨-, hassigned, -, -, -, hletters⟩ := fields_of_resolveClasses hr [] outline hmem
  refine ⟨_, _, hr, outline, hmem, ?_, hletters ?_⟩
  · rw [hassigned, hkeys]
    decide
  · rw [hkeys]
    decide

def shadowed : List Entry :=
  [Context.bareClass "Person" [], bareProperty "worksFor" ["Person"] ["Organization"],
    bareProperty "works_for" ["Person"] ["Text"]]

/-- A trait may have fewer attributes than its class has properties: the second property takes the
place of the first one here. -/
theorem exists_length_attributes_lt :
    ∃ r naming, resolveClasses shadowed ["Person".toList] {} = .ok (r, naming) ∧
      ∃ c ∈ r.classes, Keyed.keys c.properties = ["worksFor", "works_for"].map String.toList ∧
        assignedFields [] c = ["works_for", "works_for"].map String.toList ∧
        attributes c = [("works_for".toList, "Optional[str]".toList)] ∧
        (attributes c).length < c.properties.length := by
  let c : Context :=
    { index := ⟨shadowed⟩, requested := ["Person".toList], required := ["Person".toList] }
  have hi : Index.ofEntries shadowed = .ok ⟨shadowed⟩ := by cbv
  have hc : ({ index := ⟨shadowed⟩ : Context }).requireAll ["Person".toList] = (c, none) := by cbv
  refine ⟨_, _, resolveClasses_eq_ok hi hc, ?_⟩
  decide

end VocabBindings
