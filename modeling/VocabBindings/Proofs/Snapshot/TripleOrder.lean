import Mathlib.Data.List.Induction
import VocabBindings.Proofs.Snapshot.Graph

/-!
The order in which the triples of a graph are added. The identifiers, kinds and references that are
read from it depend on its triples alone. A label or comment is the text of the first English object
or else of the first object, so it depends on the order as well, unless the objects settle it.
-/

set_option autoImplicit false

namespace VocabBindings

def Entry.withoutTexts (e : Entry) : Entry := { e with comment := [], label := [] }

theorem Entry.eq_iff_withoutTexts {a b : Entry} :
    a = b ↔ a.withoutTexts = b.withoutTexts ∧ a.comment = b.comment ∧ a.label = b.label := by
  cases a
  cases b
  simp only [withoutTexts, Entry.mk.injEq]
  tauto

namespace Rdf

namespace Term

variable {objects others : List Term} {o : Term}

/-- The objects with one more. One that is among them stays as it was spelled first. -/
def keep (objects : List Term) (o : Term) : List Term :=
  if objects.any (·.canonical = o.canonical) then objects else objects ++ [o]

def distinct (objects : List Term) : List Term := objects.foldl keep []

def chosen? (objects : List Term) : Option Term := (objects.find? isEnglish).or objects.head?

def chosenText (objects : List Term) : Text := ((chosen? objects).map text).getD []

/-- An English object stays English whichever of its spellings comes first. -/
def HasEnglish (objects : List Term) : Prop :=
  ∃ o ∈ objects, o.isEnglish ∧ ∀ other ∈ objects, other.canonical = o.canonical → other.isEnglish

/-- The objects leave one text to read: the only one, or the only English one. -/
def Settled (objects : List Term) : Prop :=
  (∀ o ∈ objects, ∀ other ∈ objects, o.text = other.text) ∨
    HasEnglish objects ∧
      ∀ o ∈ objects, ∀ other ∈ objects, o.isEnglish → other.isEnglish → o.text = other.text

instance : Decidable (HasEnglish objects) :=
  inferInstanceAs (Decidable (∃ o ∈ objects, o.isEnglish ∧
    ∀ other ∈ objects, other.canonical = o.canonical → other.isEnglish))

instance : Decidable (Settled objects) := inferInstanceAs (Decidable (_ ∨ _))

theorem keep_of_mem (h : ∃ other ∈ objects, other.canonical = o.canonical) :
    keep objects o = objects := by
  rw [keep, if_pos]
  simpa using h

theorem foldl_keep_of_mem {more : List Term}
    (h : ∀ o ∈ more, ∃ other ∈ objects, other.canonical = o.canonical) :
    more.foldl keep objects = objects := by
  induction more with
  | nil => rfl
  | cons o rest ih =>
    rw [List.foldl_cons, keep_of_mem (h o List.mem_cons_self)]
    exact ih fun x hx => h x (List.mem_cons_of_mem _ hx)

theorem prefix_keep (objects : List Term) (o : Term) : objects <+: keep objects o := by
  unfold keep
  split
  · exact List.prefix_refl objects
  · exact List.prefix_append objects [o]

theorem prefix_foldl_keep (objects more : List Term) : objects <+: more.foldl keep objects := by
  induction more generalizing objects with
  | nil => exact List.prefix_refl objects
  | cons o rest ih => exact (prefix_keep objects o).trans (ih _)

theorem distinct_append (a b : List Term) : distinct (a ++ b) = b.foldl keep (distinct a) :=
  List.foldl_append

theorem distinct_concat (objects : List Term) (o : Term) :
    distinct (objects ++ [o]) = keep (distinct objects) o := by
  rw [distinct_append]
  rfl

theorem exists_distinct_cons (o : Term) (rest : List Term) :
    ∃ more, distinct (o :: rest) = o :: more := by
  obtain ⟨more, hmore⟩ := prefix_foldl_keep [o] rest
  exact ⟨more, hmore.symm⟩

theorem mem_of_mem_distinct (h : o ∈ distinct objects) : o ∈ objects := by
  induction objects using List.reverseRecOn with
  | nil => exact h
  | append_singleton rest last ih =>
    rw [distinct_concat, keep] at h
    split at h
    · exact List.mem_append_left _ (ih h)
    · exact List.mem_append.mpr ((List.mem_append.mp h).imp_left ih)

theorem exists_mem_distinct (h : o ∈ objects) :
    ∃ kept ∈ distinct objects, kept.canonical = o.canonical := by
  induction objects using List.reverseRecOn with
  | nil => cases h
  | append_singleton rest last ih =>
    rw [distinct_concat]
    rcases List.mem_append.mp h with h | h
    · obtain ⟨kept, hkept, hsame⟩ := ih h
      exact ⟨kept, (prefix_keep _ _).subset hkept, hsame⟩
    · obtain rfl := List.mem_singleton.mp h
      by_cases hkept : ∃ kept ∈ distinct rest, kept.canonical = o.canonical
      · rwa [keep_of_mem hkept]
      · rw [keep, if_neg (by simpa using hkept)]
        exact ⟨o, List.mem_append_right _ List.mem_cons_self, rfl⟩

theorem eq_iri_of_canonical {iri : Text} (h : o.canonical = .iri iri) : o = .iri iri := by
  cases o with
  | iri t => exact h
  | blank label => cases h
  | literal t language datatype => cases h

theorem iri_mem_distinct_iff {iri : Text} : .iri iri ∈ distinct objects ↔ .iri iri ∈ objects := by
  refine ⟨mem_of_mem_distinct, fun h => ?_⟩
  obtain ⟨kept, hkept, hsame⟩ := exists_mem_distinct h
  rwa [eq_iri_of_canonical hsame] at hkept

theorem mem_of_chosen (h : chosen? objects = some o) : o ∈ objects := by
  rcases Option.or_eq_some_iff.mp h with h | ⟨-, h⟩
  · exact List.mem_of_find?_eq_some h
  · exact List.mem_of_head? h

theorem isEnglish_of_chosen {other : Term} (h : chosen? objects = some o) (hother : other ∈ objects)
    (henglish : other.isEnglish = true) : o.isEnglish = true := by
  rcases Option.or_eq_some_iff.mp h with h | ⟨h, -⟩
  · exact List.find?_some h
  · exact absurd henglish (List.find?_eq_none.mp h other hother)

theorem chosen_eq_none_iff : chosen? objects = none ↔ objects = [] := by
  rw [chosen?, Option.or_eq_none_iff, List.head?_eq_none_iff]
  constructor
  · exact And.right
  · rintro rfl
    exact ⟨rfl, rfl⟩

theorem distinct_eq_nil_iff : distinct objects = [] ↔ objects = [] := by
  cases objects with
  | nil => simp [distinct]
  | cons o rest =>
    obtain ⟨more, hmore⟩ := exists_distinct_cons o rest
    simp [hmore]

theorem exists_chosen_distinct (h : objects ≠ []) :
    ∃ o ∈ objects, chosen? (distinct objects) = some o ∧
      (HasEnglish objects → o.isEnglish = true) := by
  obtain ⟨o, ho⟩ : ∃ o, chosen? (distinct objects) = some o := by
    rw [← Option.ne_none_iff_exists', ne_eq, chosen_eq_none_iff, distinct_eq_nil_iff]
    exact h
  refine ⟨o, mem_of_mem_distinct (mem_of_chosen ho), ho, ?_⟩
  rintro ⟨e, he, -, hspelled⟩
  obtain ⟨kept, hkept, hsame⟩ := exists_mem_distinct he
  exact isEnglish_of_chosen ho hkept (hspelled kept (mem_of_mem_distinct hkept) hsame)

theorem exists_perm_chosen_of_isEnglish (ho : o ∈ objects) (henglish : o.isEnglish = true) :
    ∃ others : List Term, others.Perm objects ∧ chosen? (distinct others) = some o := by
  refine ⟨o :: objects.erase o, (List.perm_cons_erase ho).symm, ?_⟩
  obtain ⟨more, hmore⟩ := exists_distinct_cons o (objects.erase o)
  rw [hmore, chosen?, List.find?_cons_of_pos henglish]
  rfl

/-- Where each English object has another spelling, each object is chosen in some order. -/
theorem exists_perm_chosen (hnone : ¬ HasEnglish objects) (ho : o ∈ objects) :
    ∃ others : List Term, others.Perm objects ∧ chosen? (distinct others) = some o := by
  by_cases henglish : o.isEnglish = true
  · exact exists_perm_chosen_of_isEnglish ho henglish
  let english := objects.filter isEnglish
  let plain := objects.filter fun o => !o.isEnglish
  have hplain {x : Term} : x ∈ plain ↔ x ∈ objects ∧ ¬ x.isEnglish = true := by
    simp [plain, List.mem_filter]
  have hfirst : (o :: plain.erase o).Perm plain :=
    (List.perm_cons_erase (hplain.mpr ⟨ho, henglish⟩)).symm
  refine ⟨o :: plain.erase o ++ english, ?_, ?_⟩
  · refine (hfirst.append_right english).trans (List.perm_append_comm.trans ?_)
    exact List.filter_append_perm isEnglish objects
  have hkept : distinct (o :: plain.erase o ++ english) = distinct (o :: plain.erase o) := by
    rw [distinct_append]
    refine foldl_keep_of_mem fun e he => ?_
    obtain ⟨heo, hee⟩ := List.mem_filter.mp he
    -- its other spelling is among those in front of it
    have hother : ∃ other ∈ plain, other.canonical = e.canonical := by
      by_contra hall
      refine hnone ⟨e, heo, hee, fun other hother hsame => ?_⟩
      by_contra hne
      exact hall ⟨other, hplain.mpr ⟨hother, hne⟩, hsame⟩
    obtain ⟨other, hother, hsame⟩ := hother
    obtain ⟨kept, hkept, heq⟩ := exists_mem_distinct (hfirst.mem_iff.mpr hother)
    exact ⟨kept, hkept, heq.trans hsame⟩
  have hfind : (distinct (o :: plain.erase o)).find? isEnglish = none := by
    rw [List.find?_eq_none]
    exact fun x hx => (hplain.mp (hfirst.mem_iff.mp (mem_of_mem_distinct hx))).2
  obtain ⟨more, hmore⟩ := exists_distinct_cons o (plain.erase o)
  rw [hkept, chosen?, hfind, hmore]
  rfl

theorem chosenText_of_chosen (h : chosen? objects = some o) : chosenText objects = o.text := by
  rw [chosenText, h]
  rfl

theorem hasEnglish_of_perm (h : others.Perm objects) (henglish : HasEnglish objects) :
    HasEnglish others := by
  obtain ⟨o, ho, hoe, hspelled⟩ := henglish
  exact ⟨o, h.mem_iff.mpr ho, hoe, fun other hother => hspelled other (h.mem_iff.mp hother)⟩

/-- The text that is read is the same in every order exactly of settled objects. -/
theorem chosenText_distinct_perm_iff :
    (∀ others : List Term, others.Perm objects →
      chosenText (distinct others) = chosenText (distinct objects)) ↔ Settled objects := by
  constructor
  · intro h
    have htexts {a b : Term} (ha : ∃ others : List Term, others.Perm objects ∧
        chosen? (distinct others) = some a) (hb : ∃ others : List Term, others.Perm objects ∧
        chosen? (distinct others) = some b) : a.text = b.text := by
      obtain ⟨as, has, ha⟩ := ha
      obtain ⟨bs, hbs, hb⟩ := hb
      rw [← chosenText_of_chosen ha, ← chosenText_of_chosen hb, h as has, h bs hbs]
    by_cases henglish : HasEnglish objects
    · exact .inr ⟨henglish, fun a ha b hb hea heb =>
        htexts (exists_perm_chosen_of_isEnglish ha hea) (exists_perm_chosen_of_isEnglish hb heb)⟩
    · exact .inl fun a ha b hb =>
        htexts (exists_perm_chosen henglish ha) (exists_perm_chosen henglish hb)
  · intro hsettled others h
    rcases eq_or_ne objects [] with rfl | hne
    · rw [h.eq_nil]
    obtain ⟨a, ha, hachosen, hae⟩ :=
      exists_chosen_distinct fun hnil : others = [] => hne (hnil ▸ h).symm.eq_nil
    obtain ⟨b, hb, hbchosen, hbe⟩ := exists_chosen_distinct hne
    rw [chosenText_of_chosen hachosen, chosenText_of_chosen hbchosen]
    rcases hsettled with hall | ⟨henglish, hall⟩
    · exact hall a (h.mem_iff.mp ha) b hb
    · exact hall a (h.mem_iff.mp ha) b hb (hae (hasEnglish_of_perm h henglish)) (hbe henglish)

end Term

namespace Graph

def added (ts : List Triple) (subject predicate : Text) : List Term :=
  objects ⟨ts⟩ (.iri subject) (.iri predicate)

variable {namespaces : List Text} {ts others : List Triple}

theorem literalText_eq (g : Graph) (subject predicate : Text) :
    g.literalText subject predicate =
      Term.chosenText (g.objects (.iri subject) (.iri predicate)) := by
  rw [literalText, Term.chosenText, Term.chosen?]
  cases (List.find? Term.isEnglish _).or _ <;> rfl

theorem added_append (as bs : List Triple) (subject predicate : Text) :
    added (as ++ bs) subject predicate =
      added as subject predicate ++ added bs subject predicate := by
  simp [added, objects]

theorem contains_iff_of_about {g : Graph} {subject predicate : Text} {o : Term} :
    g.contains ⟨.iri subject, .iri predicate, o⟩ = true ↔
      ∃ other ∈ g.objects (.iri subject) (.iri predicate), other.canonical = o.canonical := by
  simp only [contains, List.any_eq_true, decide_eq_true_eq, mem_objects_iff]
  constructor
  · rintro ⟨⟨s, p, other⟩, ht, hsame⟩
    simp only [Triple.canonical, Triple.mk.injEq, Term.canonical] at hsame
    obtain ⟨hs, hp, hother⟩ := hsame
    obtain rfl := Term.eq_iri_of_canonical hs
    obtain rfl := Term.eq_iri_of_canonical hp
    exact ⟨other, ht, hother⟩
  · rintro ⟨other, ht, hsame⟩
    exact ⟨_, ht, by simp [Triple.canonical, hsame]⟩

theorem objects_insert (g : Graph) (t : Triple) (subject predicate : Text) :
    (g.insert t).objects (.iri subject) (.iri predicate) =
      (added [t] subject predicate).foldl Term.keep
        (g.objects (.iri subject) (.iri predicate)) := by
  obtain ⟨s, p, o⟩ := t
  have hconcat : objects ⟨g.triples ++ [⟨s, p, o⟩]⟩ (.iri subject) (.iri predicate) =
      g.objects (.iri subject) (.iri predicate) ++ added [⟨s, p, o⟩] subject predicate :=
    added_append g.triples [⟨s, p, o⟩] subject predicate
  rw [insert, apply_ite (fun g : Graph => g.objects _ _), hconcat]
  by_cases habout : s = .iri subject ∧ p = .iri predicate
  · obtain ⟨rfl, rfl⟩ := habout
    have hone : added [⟨.iri subject, .iri predicate, o⟩] subject predicate = [o] := by
      simp [added, objects]
    rw [hone, List.foldl_cons, List.foldl_nil, Term.keep]
    simp only [contains_iff_of_about, List.any_eq_true, decide_eq_true_eq]
  · have hnone : added [⟨s, p, o⟩] subject predicate = [] := by
      simpa [added, objects] using habout
    rw [hnone, List.foldl_nil, List.append_nil, ite_self]

theorem objects_foldl_insert (ts : List Triple) (g : Graph) (subject predicate : Text) :
    (ts.foldl insert g).objects (.iri subject) (.iri predicate) =
      (added ts subject predicate).foldl Term.keep
        (g.objects (.iri subject) (.iri predicate)) := by
  induction ts generalizing g with
  | nil => rfl
  | cons t rest ih =>
    rw [List.foldl_cons, ih, objects_insert, ← List.foldl_append, ← added_append,
      List.singleton_append]

/-- The objects that a graph has are the different ones among those that were added to it. -/
theorem objects_ofList (ts : List Triple) (subject predicate : Text) :
    (ofList ts).objects (.iri subject) (.iri predicate) =
      Term.distinct (added ts subject predicate) :=
  objects_foldl_insert ts empty subject predicate

theorem mem_triples_ofList_iff {subject predicate object : Text} :
    ⟨.iri subject, .iri predicate, .iri object⟩ ∈ (ofList ts).triples ↔
      ⟨.iri subject, .iri predicate, .iri object⟩ ∈ ts := by
  rw [← mem_objects_iff, objects_ofList, Term.iri_mem_distinct_iff, added, mem_objects_iff]

theorem mem_typed_ofList_of_perm (h : others.Perm ts) {uri type : Text} :
    uri ∈ (ofList others).typed type ↔ uri ∈ (ofList ts).typed type := by
  rw [mem_typed_iff_mem_triples, mem_typed_iff_mem_triples, mem_triples_ofList_iff,
    mem_triples_ofList_iff, h.mem_iff]

theorem localNames_ofList_of_perm (h : others.Perm ts) (subject : Text) (predicates : List Text) :
    localNames namespaces (ofList others) subject predicates =
      localNames namespaces (ofList ts) subject predicates := by
  have hnames : (NameSet.ofList (iris (predicates.flatMap fun p =>
        (ofList others).objects (.iri subject) (.iri p)))).names =
      (NameSet.ofList (iris (predicates.flatMap fun p =>
        (ofList ts).objects (.iri subject) (.iri p)))).names := by
    rw [NameSet.names_eq_iff]
    intro iri
    simp only [NameSet.mem_names_ofList, mem_iris_iff, List.mem_flatMap, mem_objects_iff,
      mem_triples_ofList_iff, h.mem_iff]
  rw [localNames, localNames, hnames]

theorem literalText_ofList (ts : List Triple) (subject predicate : Text) :
    (ofList ts).literalText subject predicate =
      Term.chosenText (Term.distinct (added ts subject predicate)) := by
  rw [literalText_eq, objects_ofList]

theorem exists_perm_added {subject predicate : Text} {objects : List Term}
    (h : objects.Perm (added ts subject predicate)) :
    ∃ others : List Triple, others.Perm ts ∧ added others subject predicate = objects := by
  let about (t : Triple) : Bool := t.subject = .iri subject ∧ t.predicate = .iri predicate
  let write (o : Term) : Triple := ⟨.iri subject, .iri predicate, o⟩
  have hwritten : (added ts subject predicate).map write = ts.filter about := by
    rw [added, Graph.objects, List.map_map]
    refine (List.map_congr_left fun t ht => ?_).trans (List.map_id _)
    obtain ⟨hs, hp⟩ := of_decide_eq_true (List.mem_filter.mp ht).2
    exact (congrArg₂ (Triple.mk · · t.object) hs hp).symm
  have hadded : added (objects.map write) subject predicate = objects := by
    simp [added, Graph.objects, write, List.filter_map, Function.comp_def]
  have hrest : added (ts.filter fun t => !about t) subject predicate = [] := by
    simp [added, Graph.objects, about]
  refine ⟨objects.map write ++ ts.filter (fun t => !about t), ?_, ?_⟩
  · refine ((h.map write).append_right _).trans ?_
    rw [hwritten]
    exact List.filter_append_perm about ts
  · rw [added_append, hadded, hrest, List.append_nil]

theorem literalText_perm_iff (ts : List Triple) (subject predicate : Text) :
    (∀ others : List Triple, others.Perm ts →
      (ofList others).literalText subject predicate = (ofList ts).literalText subject predicate) ↔
        Term.Settled (added ts subject predicate) := by
  simp only [literalText_ofList]
  rw [← Term.chosenText_distinct_perm_iff]
  constructor
  · intro h objects hobjects
    obtain ⟨others, hothers, rfl⟩ := exists_perm_added hobjects
    exact h others hothers
  · exact fun h others hothers => h _ ((hothers.filter _).map _)

theorem entry_withoutTexts_of_perm (h : others.Perm ts) (uri : Text) :
    (entry namespaces (ofList others) uri).withoutTexts =
      (entry namespaces (ofList ts) uri).withoutTexts := by
  simp only [entry, Entry.withoutTexts, mem_typed_ofList_of_perm h, localNames_ofList_of_perm h]

theorem names_typed_of_perm (h : others.Perm ts) :
    (NameSet.ofList ((ofList others).typed Terms.schemaClass ++
        (ofList others).typed Terms.property)).names =
      (NameSet.ofList ((ofList ts).typed Terms.schemaClass ++
        (ofList ts).typed Terms.property)).names := by
  rw [NameSet.names_eq_iff]
  intro uri
  simp only [NameSet.mem_names_ofList, List.mem_append, mem_typed_ofList_of_perm h]

theorem entries_eq_iff_of_perm (h : others.Perm ts) :
    (ofList others).entries namespaces = (ofList ts).entries namespaces ↔
      ∀ uri ∈ (ofList ts).typed Terms.schemaClass ++ (ofList ts).typed Terms.property,
        (ofList others).literalText uri Terms.comment = (ofList ts).literalText uri Terms.comment ∧
        (ofList others).literalText uri Terms.label = (ofList ts).literalText uri Terms.label := by
  simp only [entries, names_typed_of_perm h, List.map_inj_left, NameSet.mem_names_ofList]
  refine forall₂_congr fun uri _ => ?_
  rw [Entry.eq_iff_withoutTexts, and_iff_right (entry_withoutTexts_of_perm h uri)]
  rfl

/-- Every order gives the same entries, labels and comments aside, and these are the same in every
order exactly if the objects that are added for each class and property settle them. -/
theorem entries_perm_iff (namespaces : List Text) (ts : List Triple) :
    (∀ others : List Triple, others.Perm ts →
      ((ofList others).entries namespaces).map Entry.withoutTexts =
        ((ofList ts).entries namespaces).map Entry.withoutTexts) ∧
    ((∀ others : List Triple, others.Perm ts →
      (ofList others).entries namespaces = (ofList ts).entries namespaces) ↔
        ∀ uri ∈ (ofList ts).typed Terms.schemaClass ++ (ofList ts).typed Terms.property,
          Term.Settled (added ts uri Terms.comment) ∧ Term.Settled (added ts uri Terms.label)) := by
  constructor
  · intro others h
    simp only [entries, names_typed_of_perm h, List.map_map, Function.comp_def,
      entry_withoutTexts_of_perm h]
  · simp only [← literalText_perm_iff]
    constructor
    · intro h uri huri
      have htexts (others : List Triple) (hothers : others.Perm ts) :=
        (entries_eq_iff_of_perm hothers).mp (h others hothers) uri huri
      exact ⟨fun others hothers => (htexts others hothers).1,
        fun others hothers => (htexts others hothers).2⟩
    · exact fun h others hothers => (entries_eq_iff_of_perm hothers).mpr fun uri huri =>
        ⟨(h uri huri).1 others hothers, (h uri huri).2 others hothers⟩

def english (t : String) : Term := .literal t.toList (some "en".toList) none

def labelled (labels : List Term) : List Triple :=
  ⟨.iri "http://schema.org/Car".toList, .iri Terms.type, .iri Terms.schemaClass⟩ ::
    labels.map (⟨.iri "http://schema.org/Car".toList, .iri Terms.label, ·⟩)

theorem entries_perm_iff_one_english :
    ∀ others : List Triple,
      others.Perm (labelled [.literal "Voiture".toList (some "fr".toList) none, english "Car"]) →
      (ofList others).entries Name.vocabularyNamespaces =
        [{ id := "Car".toList
           kind := .schema
           label := "Car".toList
           uri := "http://schema.org/Car".toList }] := by
  intro others h
  refine ((entries_perm_iff _ _).2.mpr ?_ others h).trans ?_ <;> decide +kernel

theorem exists_perm_entries_ne :
    ∃ ts others : List Triple, others.Perm ts ∧
      (ofList others).entries Name.vocabularyNamespaces ≠
        (ofList ts).entries Name.vocabularyNamespaces := by
  refine ⟨labelled [english "Car", english "Automobile"],
    labelled [english "Automobile", english "Car"], .cons _ (.swap ..), fun h => ?_⟩
  have hcar : ((ofList (labelled [english "Car", english "Automobile"])).entries
      Name.vocabularyNamespaces).map Entry.label = ["Car".toList] := by decide +kernel
  have hautomobile : ((ofList (labelled [english "Automobile", english "Car"])).entries
      Name.vocabularyNamespaces).map Entry.label = ["Automobile".toList] := by decide +kernel
  rw [h, hcar] at hautomobile
  exact absurd hautomobile (by decide)

end Graph

end Rdf

end VocabBindings
