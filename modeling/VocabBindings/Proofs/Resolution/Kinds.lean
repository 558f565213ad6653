import VocabBindings.Proofs.Resolution.Replaced

/-!
The kinds of what is resolved. The index holds entries of all kinds under their identifiers, and the
search for the required classes asks for no kind. So the result has an outline for whatever is
requested and for whatever is a parent, and all outlines are those of classes exactly if every
request is for a class and no class of the result has a parent that is none.
-/

set_option autoImplicit false

namespace VocabBindings

def NamesClass (entries : List Entry) (name : Text) : Prop :=
  ∃ e ∈ entries, e.id = name ∧ e.kind = .schema

instance (entries : List Entry) (name : Text) : Decidable (NamesClass entries name) :=
  inferInstanceAs (Decidable (∃ e ∈ entries, e.id = name ∧ e.kind = .schema))

theorem Index.mem_parents_iff {index : Index} {m : TypeNaming} {name parent : Text}
    {outline : ClassOutline} (h : index.outline? m name = some outline) (hn : name ≠ []) :
    parent ∈ outline.parents ↔ index.Inherits name parent := by
  obtain ⟨e, he, rfl⟩ := Option.map_eq_some_iff.mp h
  simp [Inherits, HasParent, parentsOf_eq he, hn, and_comm]

namespace Context.Answers

variable {index : Index} {names : List Text} {c : Context} {m : TypeNaming} {name : Text}

theorem exists_outline (h : Answers index names c) (hn : name ∈ c.required) :
    ∃ outline ∈ (c.resolution m).classes, index.outline? m name = some outline := by
  obtain ⟨outline, ho⟩ := Option.isSome_iff_exists.mp
    ((index.isSome_outline? m name).trans (h.held name hn))
  exact ⟨outline, mem_classes_resolution.mpr ⟨name, hn, h.index_eq ▸ ho⟩, ho⟩

theorem exists_outline_of_mem (h : Answers index names c) (hm : name ∈ names) (hn : name ≠ []) :
    ∃ outline ∈ (c.resolution m).classes, outline.name = name := by
  have hrequired : name ∈ c.required := h.required ▸ Index.mem_discovered_of_mem hm hn
  obtain ⟨outline, hmem, ho⟩ := h.exists_outline hrequired
  exact ⟨outline, hmem, Index.name_of_outline? ho⟩

theorem exists_outline_of_parent (h : Answers index names c) {outline : ClassOutline}
    (ho : outline ∈ (c.resolution m).classes) {parent : Text} (hp : parent ∈ outline.parents) :
    ∃ above ∈ (c.resolution m).classes, above.name = parent := by
  obtain ⟨name, hname, ho⟩ := mem_classes_resolution.mp ho
  rw [h.index_eq] at ho
  rw [h.required] at hname
  have hinherits := (Index.mem_parents_iff ho (Index.mem_discovered_iff.mp hname).1).mp hp
  have hrequired : parent ∈ c.required :=
    h.required ▸ Index.mem_discovered_of_inherits hname hinherits
  obtain ⟨above, habove, hparent⟩ := h.exists_outline hrequired
  exact ⟨above, habove, Index.name_of_outline? hparent⟩

/-- What is said of names holds of all classes in a result exactly if it holds of the requested ones
and is passed on from every class in the result to its parents. -/
theorem forall_classes_iff (h : Answers index names c) (P : Text → Prop) :
    (∀ outline ∈ (c.resolution m).classes, P outline.name) ↔
      (∀ name ∈ names, name ≠ [] → P name) ∧
        ∀ outline ∈ (c.resolution m).classes, P outline.name →
          ∀ parent ∈ outline.parents, P parent := by
  constructor
  · intro hall
    constructor
    · intro name hm hn
      obtain ⟨outline, ho, rfl⟩ := h.exists_outline_of_mem (m := m) hm hn
      exact hall outline ho
    · intro outline ho _ parent hp
      obtain ⟨above, habove, rfl⟩ := h.exists_outline_of_parent ho hp
      exact hall above habove
  · rintro ⟨hrequested, hparents⟩ outline ho
    obtain ⟨name, hname, ho⟩ := mem_classes_resolution.mp ho
    rw [Index.name_of_outline? ho]
    rw [h.required] at hname
    obtain ⟨hne, start, hstart, hup⟩ := Index.mem_discovered_iff.mp hname
    clear ho hname
    induction hup with
    | refl => exact hrequested start hstart hne
    | @tail child parent hbelow hinherits ih =>
      -- The child is required too, and its outline passes on what holds of it.
      have hchild : child ∈ c.required :=
        h.required ▸ Index.mem_discovered_iff.mpr ⟨hinherits.1, start, hstart, hbelow⟩
      obtain ⟨below, hmem, ho⟩ := h.exists_outline (m := m) hchild
      have hname := Index.name_of_outline? ho
      exact hparents below hmem (hname ▸ ih hinherits.1) parent
        ((Index.mem_parents_iff ho hinherits.1).mpr hinherits)

end Context.Answers

/-- Every outline of a result stems from the last entry with its name. Whatever is requested has an
outline, and so has whatever is a parent; and all outlines stem from classes exactly if the
requested names are those of classes and the parents of the classes in the result are too. -/
theorem kinds_of_resolveClasses {entries : List Entry} {schemas : List Text} {m naming : TypeNaming}
    {r : Resolution} (h : resolveClasses entries schemas m = .ok (r, naming)) :
    (∀ outline ∈ r.classes, ∃ e, (⟨entries⟩ : Index).get? outline.name = some e ∧
      outline.description = Text.withoutMarkup e.comment ∧
      outline.parents = e.parents.filter (· ≠ []) ∧
      (NamesClass entries outline.name ↔ e.kind = .schema)) ∧
    (∀ name ∈ schemas, name ≠ [] → ∃ outline ∈ r.classes, outline.name = name) ∧
    (∀ outline ∈ r.classes, ∀ parent ∈ outline.parents,
      ∃ above ∈ r.classes, above.name = parent) ∧
    ((∀ outline ∈ r.classes, NamesClass entries outline.name) ↔
      (∀ name ∈ schemas, name ≠ [] → NamesClass entries name) ∧
        ∀ outline ∈ r.classes, NamesClass entries outline.name →
          ∀ parent ∈ outline.parents, NamesClass entries parent) := by
  obtain ⟨index, c, hi, hc, rfl⟩ := exists_of_resolveClasses_eq_ok h
  obtain ⟨rfl, hkinds⟩ := Index.ofEntries_eq_ok_iff.mp hi
  have ha := Context.answers_of_requireAll hc
  refine ⟨fun outline ho => ?_, fun name hm hn => ha.exists_outline_of_mem hm hn,
    fun outline ho parent hp => ha.exists_outline_of_parent ho hp, ha.forall_classes_iff _⟩
  obtain ⟨name, -, ho⟩ := Context.mem_classes_resolution.mp ho
  obtain ⟨e, he, rfl⟩ := Option.map_eq_some_iff.mp ho
  rw [ha.index_eq] at he
  obtain ⟨hmem, hid⟩ := Index.get?_mem he
  refine ⟨e, he, rfl, rfl, ?_, fun hkind => ⟨e, hmem, hid, hkind⟩⟩
  rintro ⟨other, hother, hotherId, hkind⟩
  rw [hkinds e hmem other hother (hid.trans hotherId.symm), hkind]

def misfiled : List Entry :=
  [Context.bareClass "Book" ["", "Work"], Context.bareClass "Work" ["author"],
    Context.bareClass "Thing" ["Thing"], bareProperty "author" ["Work"] ["Thing"]]

theorem kinds_of_resolveClasses_misfiled :
    ∃ r naming, resolveClasses misfiled ["Book".toList, [], "Thing".toList] {} = .ok (r, naming) ∧
      r.classes.map ClassOutline.name = ["Book", "Work", "author", "Thing"].map String.toList ∧
      ¬ (∀ outline ∈ r.classes, NamesClass misfiled outline.name →
        ∀ parent ∈ outline.parents, NamesClass misfiled parent) := by
  let c : Context :=
    { index := ⟨misfiled⟩
      requested := ["Book", "Thing"].map String.toList
      required := ["Book", "Work", "author", "Thing"].map String.toList }
  have hi : Index.ofEntries misfiled = .ok ⟨misfiled⟩ := by cbv
  have hc : ({ index := ⟨misfiled⟩ : Context }).requireAll ["Book".toList, [], "Thing".toList] =
      (c, none) := by
    cbv
  have hr := resolveClasses_eq_ok (m := {}) hi hc
  obtain ⟨-, -, -, hiff⟩ := kinds_of_resolveClasses hr
  refine ⟨_, _, hr, by decide, fun hparents => ?_⟩
  exact absurd (hiff.mpr ⟨by decide, hparents⟩) (by decide)

def titled : List Entry :=
  [Context.bareClass "Thing" [], bareProperty "name" ["Thing"] ["Text"]]

/-- A property that is requested by its name is resolved like a class. -/
theorem exists_class_of_property :
    ∃ r naming, resolveClasses titled ["name".toList] {} = .ok (r, naming) ∧
      ∃ outline ∈ r.classes,
        (⟨titled⟩ : Index).get? outline.name = some (bareProperty "name" ["Thing"] ["Text"]) ∧
          ¬ NamesClass titled outline.name := by
  refine ⟨_, _, by cbv, { name := "name".toList, traits := ["name".toList] }, ?_, ?_, ?_⟩
  · decide
  · decide
  · decide

end VocabBindings
