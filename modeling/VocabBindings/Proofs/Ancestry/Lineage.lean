import VocabBindings.Proofs.Ancestry.Requests

/-!
Lineages. The walk for a lineage and the walk for the required classes go the same way: a request on
a fresh context requires the lineage of the class, and later the lineage of every required class is
required as well. A lineage is made up of those of the parents, each name where it occurs first,
although the walk leaves out whole branches that were visited below another parent. This is so
because what was visited holds the parents of its members, so nothing new is above it.
-/

set_option autoImplicit false

namespace VocabBindings

namespace Index

variable {index : Index}

theorem discoveries_congr_visited (visited other : List Text) (requestedBy : Option Text)
    (names : List Text) (h : ∀ x, x ∈ visited ↔ x ∈ other) :
    index.discoveries visited requestedBy names = index.discoveries other requestedBy names := by
  fun_induction discoveries index visited requestedBy names generalizing other with
  | case1 => rw [discoveries]
  | case2 visited requestedBy name rest hv ih =>
    rw [discoveries, if_pos (hv.imp_right (h name).mp)]
    exact ih other h
  | case3 visited requestedBy name rest hv above ihAbove ihRest =>
    have hother : ¬ (name = [] ∨ name ∈ other) := fun ho => hv (ho.imp_right (h name).mpr)
    have habove : above = index.discoveries (other ++ [name]) (some name) (index.parentsOf name) :=
      ihAbove _ (by simp [h])
    have hrest := ihRest (other ++ name :: Discovery.names above) (by simp [h])
    rw [discoveries, if_neg hother]
    dsimp only
    rw [← habove, hrest]

/-- A list holds the parents of each of its members that one of the names descends from. -/
def HoldsParents (index : Index) (held names : List Text) : Prop :=
  ∀ name ∈ names, ∀ x ∈ held, index.Descends name x → ∀ parent, index.Inherits x parent →
    parent ∈ held

namespace HoldsParents

variable {held names rest : List Text} {name ancestor : Text}

theorem mono (h : index.HoldsParents held names) (hsub : rest ⊆ names) :
    index.HoldsParents held rest :=
  fun n hn => h n (hsub hn)

theorem parents (h : index.HoldsParents held (name :: rest)) (hname : name ≠ []) :
    index.HoldsParents held (index.parentsOf name) := by
  intro parent hparent x hx hdesc above habove
  by_cases hne : parent = []
  · subst hne
    exact absurd (eq_nil_of_descends_nil hdesc) habove.1
  · exact h name List.mem_cons_self x hx (hdesc.head ⟨hname, hne, hparent⟩) above habove

theorem mem_of_descends (h : index.HoldsParents held (name :: rest)) (hname : name ∈ held)
    (hdesc : index.Descends name ancestor) : ancestor ∈ held := by
  induction hdesc with
  | refl => exact hname
  | tail hbelow hparent ih => exact h name List.mem_cons_self _ ih hbelow _ hparent

theorem append_discoveries (h : index.HoldsParents held rest) (requestedBy : Option Text)
    (names : List Text) :
    index.HoldsParents
      (held ++ Discovery.names (index.discoveries held requestedBy names)) rest := by
  intro name hname x hx hdesc parent hparent
  rcases List.mem_append.mp hx with hx | hx
  · exact List.mem_append_left _ (h name hname x hx hdesc parent hparent)
  · obtain ⟨d, hd, rfl⟩ := Discovery.mem_names.mp hx
    exact mem_discoveries_of_parent hd hparent.2.2 hparent.2.1

end HoldsParents

/-- If more names were visited that hold their own parents, a search finds the same without them. -/
theorem discoveries_append_held (visited held : List Text) (requestedBy : Option Text)
    (names : List Text) (h : index.HoldsParents held names) :
    index.discoveries (visited ++ held) requestedBy names =
      (index.discoveries visited requestedBy names).filter (·.name ∉ held) := by
  fun_induction discoveries index visited requestedBy names with
  | case1 => rw [discoveries]; rfl
  | case2 visited requestedBy name rest hv ih =>
    rw [discoveries, if_pos (hv.imp_right (List.mem_append_left held))]
    exact ih (h.mono (List.subset_cons_self _ _))
  | case3 visited requestedBy name rest hv above ihAbove ihRest =>
    have hname : name ≠ [] := fun hn => hv (.inl hn)
    have habove := ihAbove (h.parents hname)
    have hrest := ihRest (h.mono (List.subset_cons_self _ _))
    by_cases hm : name ∈ held
    · -- The smaller search goes on above the name, and finds nothing there that is not held.
      have hheld : ∀ d ∈ above, d.name ∈ held := by
        intro d hd
        obtain ⟨parent, hparent, hne, hdesc⟩ := exists_descends_of_mem hd
        exact h.mem_of_descends hm (hdesc.head ⟨hname, hne, hparent⟩)
      have hnone : above.filter (·.name ∉ held) = [] := by
        rw [List.filter_eq_nil_iff]
        intro d hd
        simpa using hheld d hd
      have hsame : ∀ x, x ∈ visited ++ held ↔
          x ∈ (visited ++ name :: Discovery.names above) ++ held := by
        simp only [List.mem_append, List.mem_cons, Discovery.mem_names]
        grind
      rw [discoveries, if_pos (.inr (List.mem_append_right _ hm)),
        discoveries_congr_visited _ _ _ _ hsame, hrest, List.filter_append,
        List.filter_cons_of_neg (by simpa using hm), hnone, List.nil_append]
    · have hsame : ∀ x, x ∈ visited ++ held ++ [name] ↔ x ∈ visited ++ [name] ++ held := by
        simp only [List.mem_append]
        grind
      have hsameRest : ∀ x, x ∈ visited ++ held ++
            name :: Discovery.names (above.filter (·.name ∉ held)) ↔
          x ∈ (visited ++ name :: Discovery.names above) ++ held := by
        simp only [List.mem_append, List.mem_cons, Discovery.mem_names, List.mem_filter]
        grind
      have hnew : ¬ (name = [] ∨ name ∈ visited ++ held) := by
        rw [List.mem_append]
        exact fun hn => hn.elim hname fun hn => hn.elim (fun hn => hv (.inr hn)) hm
      rw [discoveries, if_neg hnew]
      dsimp only
      rw [discoveries_congr_visited _ _ _ _ hsame, habove,
        discoveries_congr_visited _ _ _ _ hsameRest, hrest, List.filter_append,
        List.filter_cons_of_pos (by simpa using hm)]

theorem lineage_eq_names (index : Index) (requestedBy : Option Text) (name : Text) :
    index.lineage name = Discovery.names (index.discoveries [] requestedBy [name]) := by
  by_cases h : name = [] <;> simp [lineage_eq_discovered, discovered, discoveries, h]

theorem lineage_nil : index.lineage [] = [] := by
  simp [index.lineage_eq_names none, discoveries]

theorem lineage_eq_cons {name : Text} (h : name ≠ []) :
    index.lineage name = name ::
      Discovery.names (index.discoveries [name] (some name) (index.parentsOf name)) := by
  simp [index.lineage_eq_names none, discoveries, h]

theorem nodup_lineage (index : Index) (name : Text) : (index.lineage name).Nodup := by
  rw [lineage_eq_discovered]
  exact index.nodup_discoveries [] none [name]

theorem mem_lineage_iff {name x : Text} :
    x ∈ index.lineage name ↔ x ≠ [] ∧ index.Descends name x := by
  rw [lineage_eq_discovered, mem_discovered_iff]
  simp

theorem removeAll_eq_filter (names held : List Text) :
    names.removeAll held = names.filter (· ∉ held) := by
  simp [List.removeAll]

theorem eraseDups_of_nodup {names : List Text} (h : names.Nodup) : names.eraseDups = names := by
  induction names with
  | nil => rfl
  | cons name rest ih =>
    obtain ⟨hname, hrest⟩ := List.nodup_cons.mp h
    have hfilter : rest.filter (fun x => !x == name) = rest := by
      rw [List.filter_eq_self]
      intro x hx
      have hne : x ≠ name := fun heq => hname (heq ▸ hx)
      simpa using hne
    rw [List.eraseDups_cons, hfilter, ih hrest]

theorem names_discoveries_singleton {held : List Text} {name : Text}
    (h : index.HoldsParents held [name]) (requestedBy : Option Text) :
    Discovery.names (index.discoveries held requestedBy [name]) =
      (index.lineage name).removeAll held := by
  have heq := index.discoveries_append_held [] held requestedBy [name] h
  rw [List.nil_append] at heq
  rw [heq, index.lineage_eq_names requestedBy, removeAll_eq_filter, Discovery.names,
    Discovery.names, List.filter_map]
  rfl

/-- A search lists the lineages of its names one after the other, but no name that was visited and
no name twice. -/
theorem names_discoveries {held names : List Text} {requestedBy : Option Text}
    (h : index.HoldsParents held names) :
    Discovery.names (index.discoveries held requestedBy names) =
      ((names.flatMap index.lineage).removeAll held).eraseDups := by
  induction names generalizing held with
  | nil => simp [discoveries, List.removeAll]
  | cons name rest ih =>
    have hfirst := names_discoveries_singleton
      (h.mono (List.cons_subset_cons name (List.nil_subset rest))) requestedBy
    have hrest := ih ((h.mono (List.subset_cons_self _ _)).append_discoveries requestedBy [name])
    have happ := index.discoveries_append held requestedBy [name] rest
    rw [List.singleton_append] at happ
    rw [happ, Discovery.names_append, hrest, hfirst, List.flatMap_cons]
    have hnodup : ((index.lineage name).removeAll held).Nodup :=
      (index.nodup_lineage name).filter _
    have hsplit : (index.lineage name ++ rest.flatMap index.lineage).removeAll held =
        (index.lineage name).removeAll held ++ (rest.flatMap index.lineage).removeAll held :=
      List.filter_append _ _
    have htwice : (rest.flatMap index.lineage).removeAll
          (held ++ (index.lineage name).removeAll held) =
        ((rest.flatMap index.lineage).removeAll held).removeAll
          ((index.lineage name).removeAll held) := by
      simp [List.removeAll, Bool.and_comm]
    rw [hsplit, htwice, List.eraseDups_append, eraseDups_of_nodup hnodup]

theorem flatMap_lineage_given (names : List Text) :
    (names.filter (· ≠ [])).flatMap index.lineage = names.flatMap index.lineage := by
  induction names with
  | nil => rfl
  | cons name rest ih => by_cases hn : name = [] <;> simp [hn, lineage_nil, ← ih]

/-- The lineages of the parents make up the lineage of a class that is not above itself: they stand
behind the class in the order of the parents, and every name stands where it occurs first. Cycles
above the parents do no harm. -/
theorem lineage_of_parents {name : Text} (hname : name ≠ [])
    (hcycle : ¬ Relation.TransGen index.Inherits name name) :
    index.lineage name =
      (name :: ((index.parentsOf name).filter (· ≠ [])).flatMap index.lineage).eraseDups := by
  -- The class alone was visited when its parents are searched, and none of them descends from it.
  have hheld : index.HoldsParents [name] (index.parentsOf name) := by
    intro parent hparent x hx hdesc
    obtain rfl := List.mem_singleton.mp hx
    have hne : parent ≠ [] := by
      rintro rfl
      exact hname (eq_nil_of_descends_nil hdesc)
    exact absurd (Relation.TransGen.head' ⟨hname, hne, hparent⟩ hdesc) hcycle
  have hvisited : ∀ names : List Text, names.removeAll [name] = names.filter (!· == name) := by
    intro names
    refine List.filter_congr fun x _ => ?_
    by_cases hx : x = name <;> simp [hx]
  rw [flatMap_lineage_given, lineage_eq_cons hname, names_discoveries hheld, List.eraseDups_cons,
    hvisited]

/-- Two parents with one ancestor, one of them above the other too, a parent without a name and a
missing one. The ancestor and the class above it are parents of each other. -/
def branches : Index :=
  ⟨[Context.bareClass "Both" ["Left", "", "Ghost", "Right", "Left"],
    Context.bareClass "Left" ["Thing"], Context.bareClass "Right" ["Entity", "Left"],
    Context.bareClass "Thing" ["Entity"], Context.bareClass "Entity" ["Thing"]]⟩

theorem lineage_of_parents_branches :
    "Both".toList ≠ [] ∧ ¬ Relation.TransGen branches.Inherits "Both".toList "Both".toList ∧
      branches.lineage "Both".toList =
        ("Both".toList ::
          ((branches.parentsOf "Both".toList).filter (· ≠ [])).flatMap branches.lineage).eraseDups ∧
      branches.lineage "Both".toList =
        ["Both", "Left", "Thing", "Entity", "Ghost", "Right"].map String.toList := by
  have hname : "Both".toList ≠ [] := by decide
  have hcycle : ¬ Relation.TransGen branches.Inherits "Both".toList "Both".toList := by
    have hnone : ∀ e ∈ branches.entries, "Both".toList ∉ e.parents := by decide
    intro hcycle
    obtain ⟨child, -, hlast⟩ := Relation.TransGen.tail'_iff.mp hcycle
    obtain ⟨e, he, hparent⟩ := exists_get?_of_mem_parentsOf hlast.2.2
    exact hnone e (get?_mem he).1 hparent
  exact ⟨hname, hcycle, lineage_of_parents hname hcycle, by cbv⟩

end Index

namespace Context

open Index

/-- A request that succeeds on a fresh context requires the lineage of the class, in its order. After
requests that succeed the lineage of every required class starts with that class, has no name twice,
and lists the classes that it descends from, which are required too. -/
theorem lineage_of_required (index : Index) :
    (∀ name c, ({ index : Context }).require name = (c, none) →
      index.lineage name = c.required) ∧
    ∀ names c, ({ index : Context }).requireAll names = (c, none) → ∀ name ∈ c.required,
      (index.lineage name).head? = some name ∧ (index.lineage name).Nodup ∧
        index.lineage name ⊆ c.required ∧
        (∀ x, x ∈ index.lineage name ↔ index.Descends name x) ∧
        (index.get? [] = none → ∀ x, x ∈ index.lineage name ↔
          x ≠ [] ∧ Relation.ReflTransGen index.HasParent name x) := by
  constructor
  · intro name c h
    rw [require_eq, Prod.mk.injEq] at h
    obtain ⟨rfl, hnone⟩ := h
    obtain ⟨hfound, -⟩ := untilMissing_eq_none_iff.mp (Prod.ext rfl hnone)
    rw [lineage_eq_discovered, discovered, hfound]
    rfl
  · intro names c h name hname
    have ha := answers_of_requireAll h
    rw [ha.required] at hname ⊢
    have hne : name ≠ [] := (mem_discovered_iff.mp hname).1
    refine ⟨by rw [lineage_eq_cons hne, List.head?_cons], index.nodup_lineage name,
      lineage_subset_discovered hname, fun x => ?_, fun hempty x => ?_⟩ <;> rw [mem_lineage_iff]
    · exact and_iff_right_of_imp (ne_nil_of_descends hne)
    · exact and_congr_right fun hx => descends_iff hempty hx

theorem lineage_of_required_diamond :
    let required := ["Both", "Left", "Thing", "Right"].map String.toList
    let c : Context := { index := diamond, requested := ["Both".toList], required }
    ({ index := diamond : Context }).require "Both".toList = ({ c with requested := [] }, none) ∧
      diamond.lineage "Both".toList = required ∧
      ({ index := diamond : Context }).requireAll ["Both".toList] = (c, none) ∧
      "Left".toList ∈ required ∧
      diamond.lineage "Left".toList = ["Left", "Thing", "Both", "Right"].map String.toList ∧
      diamond.lineage "Left".toList ⊆ required ∧
      ∀ x, x ∈ diamond.lineage "Left".toList ↔ diamond.Descends "Left".toList x := by
  intro required c
  have hone : ({ index := diamond : Context }).require "Both".toList =
      ({ c with requested := [] }, none) := by
    cbv
  have hall : ({ index := diamond : Context }).requireAll ["Both".toList] = (c, none) := by cbv
  have hleft : "Left".toList ∈ required := by decide
  have hlineage : diamond.lineage "Left".toList =
      ["Left", "Thing", "Both", "Right"].map String.toList := by
    cbv
  have hboth : diamond.lineage "Both".toList = required :=
    (lineage_of_required diamond).1 "Both".toList _ hone
  obtain ⟨-, -, hsubset, hdesc, -⟩ := (lineage_of_required diamond).2 _ c hall _ hleft
  exact ⟨hone, hboth, hall, hleft, hlineage, hsubset, hdesc⟩

/-- A required class may be missing in the lineage of another one that its parents lead to: no walk
goes through a class without a name. -/
theorem exists_required_not_mem_lineage :
    ∃ c, Index.ofEntries namelessParent.entries = .ok namelessParent ∧
      ({ index := namelessParent : Context }).requireAll ["A".toList, "X".toList] = (c, none) ∧
      "A".toList ∈ c.required ∧ "X".toList ∈ c.required ∧
      ¬ ∀ x, x ∈ namelessParent.lineage "A".toList ↔
        x ≠ [] ∧ Relation.ReflTransGen namelessParent.HasParent "A".toList x := by
  have hlineage : namelessParent.lineage "A".toList = ["A".toList] := by cbv
  refine ⟨{ index := namelessParent, requested := ["A".toList, "X".toList],
            required := ["A".toList, "X".toList] },
    by cbv, by cbv, by decide, by decide, fun hall => ?_⟩
  have hup : namelessParent.HasParent "A".toList [] := by decide
  have hfrom : namelessParent.HasParent [] "X".toList := by decide
  have hreach := (Relation.ReflTransGen.single hup).tail hfrom
  have hmem := (hall "X".toList).mpr ⟨by decide, hreach⟩
  rw [hlineage] at hmem
  exact absurd hmem (by decide)

end Context

end VocabBindings
