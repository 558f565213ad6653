import Mathlib.Data.List.Basic
import VocabBindings.Module.Package
import VocabBindings.Proofs.Resolution.Outcome

/-!
The files of a package. A closed resolution is always printed: its files are the trait modules of
all classes, the class modules of the requested ones and the two exporting modules. The resolutions
that requests lead to are closed, so a request ends with a package or with one of two errors.
-/

set_option autoImplicit false

namespace VocabBindings

def Resolution.requestedClasses (r : Resolution) : List ClassOutline :=
  r.requested.filterMap r.class?

theorem Resolution.mem_classes_of_class? {r : Resolution} {name : Text} {outline : ClassOutline}
    (h : r.class? name = some outline) : outline ∈ r.classes :=
  List.mem_reverse.mp (List.mem_of_find?_eq_some h)

theorem Resolution.mem_classes_of_mem_requestedClasses {r : Resolution} {outline : ClassOutline}
    (h : outline ∈ r.requestedClasses) : outline ∈ r.classes := by
  obtain ⟨name, -, hc⟩ := List.mem_filterMap.mp h
  exact mem_classes_of_class? hc

namespace Module

theorem classesNamed_eq {r : Resolution} {names : List Text}
    (h : ∀ name ∈ names, (r.class? name).isSome) :
    classesNamed r names = .ok (names.filterMap r.class?) := by
  induction names with
  | nil => rfl
  | cons name rest ih =>
    obtain ⟨outline, ho⟩ := Option.isSome_iff_exists.mp (h name List.mem_cons_self)
    have hrest := ih fun n hn => h n (List.mem_cons_of_mem _ hn)
    rw [classesNamed, ho, List.filterMap_cons_some ho, hrest]
    rfl

def classFile (o : PackageOptions) (r : Resolution) (c : ClassOutline) : Text × Text :=
  (classPath c, classModule o.package o.seeUrl (c.traits.filterMap r.class?) c)

theorem classFiles_eq {o : PackageOptions} {r : Resolution} {classes : List ClassOutline}
    (h : ∀ c ∈ classes, ∀ name ∈ c.traits, (r.class? name).isSome) :
    classFiles o r classes = .ok (classes.map (classFile o r)) := by
  induction classes with
  | nil => rfl
  | cons c rest ih =>
    have hrest := ih fun d hd => h d (List.mem_cons_of_mem _ hd)
    rw [classFiles, classesNamed_eq (h c List.mem_cons_self), hrest]
    rfl

theorem classesNamed_requested {r : Resolution} (h : r.Closed) :
    classesNamed r r.requested = .ok r.requestedClasses := classesNamed_eq h.requested

theorem packageFiles_eq {r : Resolution} (h : r.Closed) (o : PackageOptions) :
    packageFiles o r =
      .ok (Keyed.ofList (traitFiles o r ++ r.requestedClasses.map (classFile o r) ++
        exportFiles o r r.requestedClasses)) := by
  have hclasses : classFiles o r r.requestedClasses =
      .ok (r.requestedClasses.map (classFile o r)) := by
    apply classFiles_eq
    exact fun c hc => h.traits c (Resolution.mem_classes_of_mem_requestedClasses hc)
  rw [packageFiles, classesNamed_requested h]
  simp only [hclasses]

end Module

/-- A request ends with an identifier of two kinds, with a missing class, or with a resolution whose
package is printed. What is requested and the lineages of all classes are required then, and the
index holds what is required. -/
theorem resolveClasses_cases (entries : List Entry) (schemas : List Text) (m : TypeNaming) :
    (∃ d, resolveClasses entries schemas m = .error (.duplicate d)) ∨
      (∃ missing, resolveClasses entries schemas m = .error (.missing missing)) ∨
      ∃ r naming index c, resolveClasses entries schemas m = .ok (r, naming) ∧
        Index.ofEntries entries = .ok index ∧
        ({ index : Context }).requireAll schemas = (c, none) ∧
        r.classes.map ClassOutline.name = c.required ∧
        (∀ name ∈ c.required, index.contains name) ∧
        (∀ name ∈ r.requested, name ∈ c.required) ∧
        (∀ outline ∈ r.classes, ∀ name ∈ outline.traits, name ∈ c.required) ∧
        ∀ o, ∃ files, Module.packageFiles o r = .ok files := by
  cases hi : Index.ofEntries entries with
  | error d => exact .inl ⟨d, by simp only [resolveClasses_eq, hi]⟩
  | ok index =>
    rcases hc : ({ index : Context }).requireAll schemas with ⟨c, _ | missing⟩
    · have ha := Context.answers_of_requireAll hc
      refine .inr (.inr ⟨c.resolution m, _, index, c, resolveClasses_eq_ok hi hc, rfl, hc,
        Context.names_classes_resolution (ha.index_eq ▸ ha.held), ha.held, ?_, ?_, ?_⟩)
      · exact fun name hn => ha.required_of_requested hn
      · exact fun outline ho name hn => ha.required_of_mem_traits ho hn
      · exact fun o => ⟨_, Module.packageFiles_eq ha.closed_resolution o⟩
    · exact .inr (.inl ⟨missing, by simp only [resolveClasses_eq, hi, hc]⟩)

end VocabBindings
