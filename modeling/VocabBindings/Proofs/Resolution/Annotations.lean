import Mathlib.Data.List.Perm.Subperm
import VocabBindings.Proofs.Module.Assignment
import VocabBindings.Proofs.Name.Repetition
import VocabBindings.Proofs.Resolution.Replaced

/-!
Annotations of stored properties. A value type is annotated with its built-in primitive, with the
target of its override, or with the name of its class, and the hint of a property lists what its
value types are annotated with, each annotation once. Hints are printed from class names throughout,
so they list the target of an override as it was given exactly if it is an identifier.
-/

set_option autoImplicit false

namespace VocabBindings

open Name (IsIdentifier isIdentifierChar)

/-- The hint of a list of annotations: each of them counts once, where it first occurs. -/
def hintOf (annotations : List Text) : Text :=
  match annotations.eraseDups with
  | [] => "Any".toList
  | [only] => "Optional[".toList ++ only ++ "]".toList
  | distinct => "Optional[Union[".toList ++ Text.joined ", ".toList distinct ++ "]]".toList

namespace TypeNaming

/-- The target of the override that names a value type. A built-in primitive comes before it. -/
def overridden? (m : TypeNaming) (type : Text) : Option Text :=
  match Keyed.get? type builtIn with
  | some _ => none
  | none => (Keyed.get? type m.overrides).join

def annotated (m : TypeNaming) (type : Text) : Text :=
  match Keyed.get? type builtIn, m.overridden? type with
  | some primitive, _ => primitive
  | none, some target => target
  | none, none => Name.className type

variable {m : TypeNaming} {type : Text}

theorem className_of_get?_builtIn {primitive : Text}
    (h : Keyed.get? type builtIn = some primitive) : Name.className primitive = primitive := by
  have hall : ∀ p ∈ builtIn, Name.className p.2 = p.2 := by decide
  exact hall _ (Keyed.mem_of_get? h)

theorem className_target (m : TypeNaming) (type : Text) :
    Name.className (m.target type) = Name.className (m.annotated type) := by
  unfold target primitive? annotated overridden?
  cases Keyed.get? type builtIn with
  | some primitive => rfl
  | none =>
    cases (Keyed.get? type m.overrides).join with
    | some target => rfl
    | none => exact (Name.identifier_identifier type).symm

theorem className_annotated_of_overridden?_eq_none (h : m.overridden? type = none) :
    Name.className (m.annotated type) = m.annotated type := by
  rw [annotated, h]
  cases hget : Keyed.get? type builtIn with
  | some primitive => exact className_of_get?_builtIn hget
  | none => exact Name.identifier_identifier type

theorem annotated_of_overridden? {target : Text} (h : m.overridden? type = some target) :
    m.annotated type = target := by
  rw [annotated, h]
  cases hget : Keyed.get? type builtIn with
  | some primitive => simp [overridden?, hget] at h
  | none => rfl

/-- An annotation is printed as it is unless it is the target of an override and no identifier. -/
theorem className_annotated_iff :
    Name.className (m.annotated type) = m.annotated type ↔
      ∀ target, m.overridden? type = some target → target = [] ∨ IsIdentifier target := by
  cases h : m.overridden? type with
  | none => simp [className_annotated_of_overridden?_eq_none h]
  | some target =>
    rw [annotated_of_overridden? h, Name.className, Name.identifier_eq_self_iff]
    simp

end TypeNaming

/-! Hints of different annotations. -/

section

variable {annotations others : List Text}

theorem joined_inj (hne : annotations ≠ []) (hne' : others ≠ [])
    (h : ∀ a ∈ annotations, ',' ∉ a) (h' : ∀ a ∈ others, ',' ∉ a)
    (heq : Text.joined ", ".toList annotations = Text.joined ", ".toList others) :
    annotations = others := by
  have hcomma : ∀ (a b : Text) (more : List Text),
      ',' ∈ Text.joined ", ".toList (a :: b :: more) := by
    intro a b more
    rw [Module.joined_cons_cons]
    simp
  induction annotations generalizing others with
  | nil => exact absurd rfl hne
  | cons a rest ih =>
    obtain ⟨ha, hrest⟩ := List.forall_mem_cons.mp h
    obtain ⟨b, more, rfl⟩ := List.exists_cons_of_ne_nil hne'
    obtain ⟨hb, hmore⟩ := List.forall_mem_cons.mp h'
    cases rest with
    | nil =>
      cases more with
      | nil => simpa [Text.joined] using heq
      | cons d more =>
        have hall := hcomma b d more
        rw [← heq] at hall
        exact absurd hall (by simpa [Text.joined] using ha)
    | cons c rest =>
      cases more with
      | nil =>
        have hall := hcomma a c rest
        rw [heq] at hall
        exact absurd hall (by simpa [Text.joined] using hb)
      | cons d more =>
        rw [Module.joined_cons_cons, Module.joined_cons_cons] at heq
        obtain ⟨rfl, htail⟩ := Text.eq_of_append_cons ha hb heq
        rw [ih (List.cons_ne_nil c rest) (List.cons_ne_nil d more) hrest hmore
          (List.cons.inj htail).2]

theorem count_joined (hne : annotations ≠ []) :
    (Text.joined ", ".toList annotations).count ',' + 1 =
      annotations.flatten.count ',' + annotations.length := by
  induction annotations with
  | nil => exact absurd rfl hne
  | cons a rest ih =>
    cases rest with
    | nil => simp [Text.joined]
    | cons b more =>
      have hmore := ih (List.cons_ne_nil b more)
      rw [Module.joined_cons_cons, List.count_append, List.count_cons_self,
        List.count_cons_of_ne (by decide), List.flatten_cons, List.count_append, List.length_cons]
      omega

theorem eq_of_joined_eq (hne : annotations ≠ []) (hne' : others ≠ [])
    (hshort : others.length ≤ annotations.length) (h' : ∀ a ∈ others, ',' ∉ a)
    (heq : Text.joined ", ".toList annotations = Text.joined ", ".toList others) :
    annotations = others := by
  have hnone : others.flatten.count ',' = 0 := by
    simpa [List.count_eq_zero] using h'
  have hcount := count_joined hne
  have hcount' := count_joined hne'
  rw [heq] at hcount
  have hfree : annotations.flatten.count ',' = 0 := by omega
  exact joined_inj hne hne' (by simpa [List.count_eq_zero] using hfree) h' heq

theorem length_eraseDups_map_le (f : Text → Text) (annotations : List Text) :
    (annotations.map f).eraseDups.length ≤ annotations.eraseDups.length := by
  have hsub : (annotations.map f).eraseDups ⊆ annotations.eraseDups.map f := by
    intro a ha
    obtain ⟨b, hb, rfl⟩ := List.mem_map.mp (List.mem_eraseDups.mp ha)
    exact List.mem_map_of_mem (List.mem_eraseDups.mpr hb)
  have hlength := (List.subperm_of_subset (Keyed.nodup_eraseDups _) hsub).length_le
  rwa [List.length_map] at hlength

/-- A list of identifiers has the hint of a list with as many annotations only if they are these
identifiers. -/
theorem eraseDups_eq_of_hintOf_eq
    (hshort : others.eraseDups.length ≤ annotations.eraseDups.length)
    (hplain : ∀ a ∈ others, ∀ c ∈ a, isIdentifierChar c) (h : hintOf annotations = hintOf others) :
    annotations.eraseDups = others.eraseDups := by
  have hfree : ∀ c, isIdentifierChar c = false → ∀ a ∈ others.eraseDups, c ∉ a := by
    intro c hc a ha hmem
    have hchar := hplain a (List.mem_eraseDups.mp ha) c hmem
    rw [hc] at hchar
    exact absurd hchar (by decide)
  unfold hintOf at h
  generalize annotations.eraseDups = given at *
  generalize others.eraseDups = made at *
  cases given with
  | nil => exact (List.eq_nil_of_length_eq_zero (Nat.le_zero.mp hshort)).symm
  | cons a rest =>
    cases made with
    | nil => cases rest <;> simp at h
    | cons s more =>
      cases rest with
      | nil =>
        obtain rfl : more = [] := by simpa using hshort
        simpa using h
      | cons b rest =>
        cases more with
        | nil =>
          have htail : s ++ "]".toList =
              "Union[".toList ++ Text.joined ", ".toList (a :: b :: rest) ++ "]]".toList := by
            simpa using h.symm
          have hbracket : '[' ∈ s ++ "]".toList := by
            rw [htail]
            simp
          exact absurd (by simpa using hbracket) (hfree '[' (by decide) s List.mem_cons_self)
        | cons s' more =>
          have hjoined := List.append_cancel_left (List.append_cancel_right h)
          exact eq_of_joined_eq (List.cons_ne_nil _ _) (List.cons_ne_nil _ _) hshort
            (hfree ',' (by decide)) hjoined

theorem hintOf_map_className_eq_iff :
    hintOf (annotations.map Name.className) = hintOf annotations ↔
      ∀ a ∈ annotations, Name.className a = a := by
  constructor
  · intro h a ha
    have hplain : ∀ a ∈ annotations.map Name.className, ∀ c ∈ a, isIdentifierChar c := by
      intro a ha c hc
      obtain ⟨b, -, rfl⟩ := List.mem_map.mp ha
      exact Name.isIdentifierChar_of_mem_identifier hc
    have hsame := eraseDups_eq_of_hintOf_eq (length_eraseDups_map_le _ _) hplain h.symm
    -- Every annotation is then a class name, and those are not changed.
    rw [← List.mem_eraseDups, hsame, List.mem_eraseDups] at ha
    obtain ⟨b, -, rfl⟩ := List.mem_map.mp ha
    exact Name.identifier_identifier b
  · intro h
    rw [List.map_congr_left h, List.map_id']

end

namespace Index

theorem exists_lastOfLabel {index : Index} {name : Text} {e : Entry}
    (h : e ∈ index.declarations name) :
    ∃ last, index.LastOfLabel name last ∧ Context.labelOf last = Context.labelOf e := by
  have hkey : Context.labelOf e ∈ Keyed.keys (index.declared {} name) := by
    rw [keys_declared, List.mem_eraseDups]
    exact List.mem_map_of_mem h
  obtain ⟨⟨label, p⟩, hp, hlabel⟩ := List.mem_map.mp hkey
  obtain ⟨last, hlast, rfl, -⟩ := mem_declared_iff_lastOfLabel.mp hp
  exact ⟨last, hlast, hlabel⟩

end Index

namespace Context

variable {c : Context} {m : TypeNaming} {owner : Text} {e : Entry}

theorem hint_attributeOf (m : TypeNaming) (e : Entry) :
    (attributeOf m e).hint = hintOf ((e.ranges.map m.annotated).map Name.className) := by
  have htypes : (e.ranges.map m.target).map Name.className =
      (e.ranges.map m.annotated).map Name.className := by
    rw [List.map_map, List.map_map]
    exact List.map_congr_left fun type _ => m.className_target type
  rw [← htypes]
  rfl

theorem hint_attributeOf_eq_iff :
    (attributeOf m e).hint = hintOf (e.ranges.map m.annotated) ↔
      ∀ type ∈ e.ranges, ∀ target, m.overridden? type = some target →
        target = [] ∨ IsIdentifier target := by
  rw [hint_attributeOf, hintOf_map_className_eq_iff, List.forall_mem_map]
  exact forall₂_congr fun type _ => TypeNaming.className_annotated_iff

theorem get?_propertiesOf_gatherWith (howner : owner ∈ c.required)
    (he : c.index.LastOfLabel owner e) :
    Keyed.get? (labelOf e) ((c.gatherWith m).1.propertiesOf owner) = some (attributeOf m e) := by
  have hdeclared : (labelOf e, attributeOf m e) ∈ c.index.declared m owner :=
    Index.mem_declared_iff_lastOfLabel.mpr ⟨e, he, rfl, rfl⟩
  have hget : Keyed.get? (labelOf e) (c.index.declared m owner) = some (attributeOf m e) :=
    (Keyed.get?_eq_some_iff_mem (Keyed.nodup_keys_ofList _)).mpr hdeclared
  rw [propertiesOf_gatherWith, if_pos howner, Keyed.get?_foldl_put]
  rw [Index.declared, Keyed.ofList, Keyed.get?_foldl_put, Keyed.get?, Option.or_none] at hget
  rw [hget]
  rfl

/-- A property that is gathered on a class is stored as the last declaration of its label there, and
has the hint of the class names of what its value types are annotated with. This is the hint of the
annotations themselves exactly if each override that names a value type has no target but an
identifier or nothing. -/
theorem hint_of_gatherWith (c : Context) (m : TypeNaming) (howner : owner ∈ c.required)
    (he : e ∈ c.index.declarations owner) :
    ∃ last, c.index.LastOfLabel owner last ∧ labelOf last = labelOf e ∧
      Keyed.get? (labelOf e) ((c.gatherWith m).1.propertiesOf owner) =
        some (attributeOf m last) ∧
      (attributeOf m last).hint =
        hintOf (last.ranges.map fun type => Name.className (m.annotated type)) ∧
      ((attributeOf m last).hint = hintOf (last.ranges.map m.annotated) ↔
        ∀ type ∈ last.ranges, ∀ target, m.overridden? type = some target →
          target = [] ∨ IsIdentifier target) := by
  obtain ⟨last, hlast, hlabel⟩ := Index.exists_lastOfLabel he
  refine ⟨last, hlast, hlabel, ?_, ?_, hint_attributeOf_eq_iff⟩
  · rw [← hlabel]
    exact get?_propertiesOf_gatherWith howner hlast
  · rw [hint_attributeOf, List.map_map]
    rfl

def rating : Entry :=
  bareProperty "rating" ["Book"] ["Number", "Stars", "Text", "Review", "3Stars", "URL"]

def ratingNaming (target : String) : TypeNaming where
  overrides := [("Stars".toList, some target.toList), ("Text".toList, some "bytes".toList)]

def ratedBook : Context where
  index := ⟨[bareClass "Book" [], rating]⟩
  required := ["Book".toList]

theorem hint_of_gatherWith_rating :
    ∃ p, Keyed.get? "rating".toList
        ((ratedBook.gatherWith (ratingNaming "int")).1.propertiesOf "Book".toList) = some p ∧
      p.hint = "Optional[Union[float, int, str, Review, _3Stars]]".toList := by
  have hone : ratedBook.index.declarations "Book".toList = [rating] := by decide
  have hmem : rating ∈ ratedBook.index.declarations "Book".toList := by
    rw [hone]
    exact List.mem_singleton_self rating
  obtain ⟨last, ⟨before, after, hsplit, -⟩, -, hget, -, hiff⟩ :=
    hint_of_gatherWith ratedBook (ratingNaming "int") (by decide) hmem
  have hlast : last ∈ [rating] := by
    rw [← hone, hsplit]
    simp
  obtain rfl := List.mem_singleton.mp hlast
  have hnames : ∀ type ∈ rating.ranges, (ratingNaming "int").overridden? type = none ∨
      (ratingNaming "int").overridden? type = some "int".toList := by
    decide
  have hint : "int".toList = [] ∨ IsIdentifier "int".toList :=
    Name.identifier_eq_self_iff.mp (by decide)
  refine ⟨_, hget, (hiff.mpr fun type htype target htarget => ?_).trans (by decide +kernel)⟩
  cases hnames type htype with
  | inl hnone => rw [hnone] at htarget; cases htarget
  | inr hsome =>
    rw [hsome] at htarget
    exact Option.some.inj htarget ▸ hint

/-- The target of an override is printed as an identifier, also where it is none. -/
theorem exists_hint_ne :
    "Book".toList ∈ ratedBook.required ∧ rating ∈ ratedBook.index.declarations "Book".toList ∧
      (((ratedBook.gatherWith (ratingNaming "list[int]")).1.propertiesOf "Book".toList).map
        fun p => p.2.hint) =
        ["Optional[Union[float, list_int_, str, Review, _3Stars]]".toList] ∧
      hintOf (rating.ranges.map (ratingNaming "list[int]").annotated) =
        "Optional[Union[float, list[int], str, Review, _3Stars]]".toList := by
  decide +kernel

end Context

end VocabBindings
