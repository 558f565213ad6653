import VocabBindings.Resolve.Ancestry

/-!
The depth-first search of the ancestry as a recursion. The walks of the resolution keep the names
that are still to be visited on a stack, where one name may wait many times. Here every class is
followed by what the search finds among its parents, and then by what it finds among the remaining
names. Both walks visit the names in the order of this search; the walk for the required classes
stops at the first that the index does not hold.
-/

set_option autoImplicit false

namespace VocabBindings

/-- A name that a search comes to for the first time, and the class among whose parents it stands
there. A requested name has no such class. -/
structure Discovery where
  name : Text
  requestedBy : Option Text
  deriving DecidableEq

def Discovery.names (found : List Discovery) : List Text := found.map Discovery.name

@[simp] theorem Discovery.names_nil : Discovery.names [] = [] := rfl

@[simp] theorem Discovery.names_cons (d : Discovery) (rest : List Discovery) :
    Discovery.names (d :: rest) = d.name :: Discovery.names rest := rfl

@[simp] theorem Discovery.names_append (found more : List Discovery) :
    Discovery.names (found ++ more) = Discovery.names found ++ Discovery.names more :=
  List.map_append

theorem Discovery.mem_names {found : List Discovery} {name : Text} :
    name ∈ Discovery.names found ↔ ∃ d ∈ found, d.name = name := List.mem_map

namespace Index

def parentsOf (index : Index) (name : Text) : List Text :=
  ((index.get? name).map Entry.parents).getD []

theorem parentsOf_eq {index : Index} {name : Text} {e : Entry} (h : index.get? name = some e) :
    index.parentsOf name = e.parents := by simp [parentsOf, h]

theorem parentsOf_of_none {index : Index} {name : Text} (h : index.get? name = none) :
    index.parentsOf name = [] := by simp [parentsOf, h]

theorem exists_get?_of_mem_parentsOf {index : Index} {name parent : Text}
    (h : parent ∈ index.parentsOf name) :
    ∃ e, index.get? name = some e ∧ parent ∈ e.parents := by
  cases hg : index.get? name with
  | none => simp [parentsOf_of_none hg] at h
  | some e => exact ⟨e, rfl, parentsOf_eq hg ▸ h⟩

/-- The recursive search, in preorder. A name that is empty or was visited is skipped; any other is
discovered, its parents are searched, and then the remaining names. -/
def discoveries (index : Index) (visited : List Text) (requestedBy : Option Text) :
    List Text → List Discovery
  | [] => []
  | name :: rest =>
    if name = [] ∨ name ∈ visited then index.discoveries visited requestedBy rest
    else
      let above := index.discoveries (visited ++ [name]) (some name) (index.parentsOf name)
      ⟨name, requestedBy⟩ :: above ++
        index.discoveries (visited ++ name :: Discovery.names above) requestedBy rest
termination_by names => (index.unvisited visited, names.length)
decreasing_by
  · exact Prod.Lex.right _ (by simp)
  · rename_i hv
    cases hg : index.get? name with
    | none =>
      -- The index does not hold the name, so it has no parents and the list gets shorter.
      rcases Nat.lt_or_eq_of_le (unvisited_le index visited [name]) with hlt | heq
      · exact Prod.Lex.left _ _ hlt
      · rw [heq, parentsOf_of_none hg]
        exact Prod.Lex.right _ (by simp)
    | some e => exact Prod.Lex.left _ _ (unvisited_lt hg (fun hm => hv (.inr hm)))
  · rcases Nat.lt_or_eq_of_le (unvisited_le index visited (name :: Discovery.names above)) with
      hlt | heq
    · exact Prod.Lex.left _ _ hlt
    · rw [heq]
      exact Prod.Lex.right _ (by simp)

def discovered (index : Index) (names : List Text) : List Text :=
  Discovery.names (index.discoveries [] none names)

theorem discoveries_append (index : Index) (visited : List Text) (requestedBy : Option Text)
    (names more : List Text) :
    index.discoveries visited requestedBy (names ++ more) =
      index.discoveries visited requestedBy names ++
        index.discoveries
          (visited ++ Discovery.names (index.discoveries visited requestedBy names))
          requestedBy more := by
  fun_induction discoveries index visited requestedBy names with
  | case1 visited requestedBy => simp
  | case2 visited requestedBy name rest hv ih =>
    rw [List.cons_append, discoveries, if_pos hv]
    exact ih
  | case3 visited requestedBy name rest hv above ihAbove ihRest =>
    rw [List.cons_append, discoveries, if_neg hv]
    simpa [above] using ihRest

/-! What a search comes to. -/

section

variable {index : Index} {visited names : List Text} {requestedBy : Option Text}

theorem ne_nil_of_mem_discoveries {d : Discovery}
    (h : d ∈ index.discoveries visited requestedBy names) : d.name ≠ [] := by
  fun_induction discoveries index visited requestedBy names with
  | case1 => simp at h
  | case2 visited requestedBy name rest hv ih => exact ih h
  | case3 visited requestedBy name rest hv above ihAbove ihRest =>
    rcases List.mem_append.mp h with h | h
    · rcases List.mem_cons.mp h with rfl | h
      · exact fun hn => hv (.inl hn)
      · exact ihAbove h
    · exact ihRest h

theorem not_mem_of_mem_discoveries {d : Discovery}
    (h : d ∈ index.discoveries visited requestedBy names) : d.name ∉ visited := by
  fun_induction discoveries index visited requestedBy names with
  | case1 => simp at h
  | case2 visited requestedBy name rest hv ih => exact ih h
  | case3 visited requestedBy name rest hv above ihAbove ihRest =>
    rcases List.mem_append.mp h with h | h
    · rcases List.mem_cons.mp h with rfl | h
      · exact fun hn => hv (.inr hn)
      · exact fun hn => ihAbove h (List.mem_append_left _ hn)
    · exact fun hn => ihRest h (List.mem_append_left _ hn)

theorem nodup_discoveries (index : Index) (visited : List Text) (requestedBy : Option Text)
    (names : List Text) :
    (Discovery.names (index.discoveries visited requestedBy names)).Nodup := by
  fun_induction discoveries index visited requestedBy names with
  | case1 => exact List.nodup_nil
  | case2 visited requestedBy name rest hv ih => exact ih
  | case3 visited requestedBy name rest hv above ihAbove ihRest =>
    have hname : name ∉ Discovery.names above := by
      intro hm
      obtain ⟨d, hd, hdn⟩ := Discovery.mem_names.mp hm
      exact not_mem_of_mem_discoveries hd (by simp [hdn])
    rw [Discovery.names_append, Discovery.names_cons, List.nodup_append]
    refine ⟨List.nodup_cons.mpr ⟨hname, ihAbove⟩, ihRest, ?_⟩
    intro a ha b hb hab
    obtain ⟨d, hd, hdn⟩ := Discovery.mem_names.mp hb
    exact not_mem_of_mem_discoveries hd (List.mem_append_right _ (by rw [hdn, ← hab]; exact ha))

theorem mem_discoveries_of_mem (index : Index) (visited : List Text) (requestedBy : Option Text)
    {names : List Text} {name : Text} (hm : name ∈ names) (hn : name ≠ []) :
    name ∈ visited ++ Discovery.names (index.discoveries visited requestedBy names) := by
  fun_induction discoveries index visited requestedBy names with
  | case1 => simp at hm
  | case2 visited requestedBy first rest hv ih =>
    rcases List.mem_cons.mp hm with rfl | hm
    · exact List.mem_append_left _ (hv.resolve_left hn)
    · exact ih hm
  | case3 visited requestedBy first rest hv above ihAbove ihRest =>
    rcases List.mem_cons.mp hm with rfl | hm
    · simp
    · simpa using ihRest hm

theorem mem_discoveries_of_parent {d : Discovery} {parent : Text}
    (hd : d ∈ index.discoveries visited requestedBy names) (hp : parent ∈ index.parentsOf d.name)
    (hn : parent ≠ []) :
    parent ∈ visited ++ Discovery.names (index.discoveries visited requestedBy names) := by
  fun_induction discoveries index visited requestedBy names with
  | case1 => simp at hd
  | case2 visited requestedBy name rest hv ih => exact ih hd
  | case3 visited requestedBy name rest hv above ihAbove ihRest =>
    -- What was visited when the search above the name ended stays visited.
    have hwiden : ∀ x, x ∈ visited ++ [name] ++ Discovery.names above → x ∈ visited ++
        Discovery.names (⟨name, requestedBy⟩ :: above ++
          index.discoveries (visited ++ name :: Discovery.names above) requestedBy rest) := by
      intro x hx
      simp only [List.append_assoc, List.singleton_append, Discovery.names_append,
        Discovery.names_cons, List.mem_append] at hx ⊢
      exact hx.imp_right .inl
    rcases List.mem_append.mp hd with hd | hd
    · rcases List.mem_cons.mp hd with rfl | hd
      · exact hwiden _ (mem_discoveries_of_mem index _ _ hp hn)
      · exact hwiden _ (ihAbove hd)
    · simpa using ihRest hd

theorem mem_of_requestedBy_eq_none {d : Discovery}
    (hd : d ∈ index.discoveries visited requestedBy names) (hn : d.requestedBy = none) :
    requestedBy = none ∧ d.name ∈ names := by
  fun_induction discoveries index visited requestedBy names with
  | case1 => simp at hd
  | case2 visited requestedBy name rest hv ih =>
    exact (ih hd).imp_right (List.mem_cons_of_mem _)
  | case3 visited requestedBy name rest hv above ihAbove ihRest =>
    rcases List.mem_append.mp hd with hd | hd
    · rcases List.mem_cons.mp hd with rfl | hd
      · exact ⟨hn, List.mem_cons_self⟩
      · exact absurd (ihAbove hd).1 (by simp)
    · exact (ihRest hd).imp_right (List.mem_cons_of_mem _)

theorem requestedBy_eq_none_iff {name : Text} {d : Discovery}
    (hd : d ∈ index.discoveries visited none [name]) : d.requestedBy = none ↔ d.name = name := by
  constructor
  · exact fun hn => List.mem_singleton.mp (mem_of_requestedBy_eq_none hd hn).2
  · intro hn
    rw [discoveries] at hd
    split at hd
    · simp [discoveries] at hd
    · simp only [discoveries, List.append_nil, List.mem_cons] at hd
      rcases hd with rfl | hd
      · rfl
      · exact absurd (not_mem_of_mem_discoveries hd) (by simp [hn])

end

/-- Every discovery that names a class comes after that class and is one of its parents. -/
def Traced (index : Index) : List Text → List Discovery → Prop
  | _, [] => True
  | visited, d :: rest =>
    (∀ child, d.requestedBy = some child → child ∈ visited ∧ d.name ∈ index.parentsOf child) ∧
      index.Traced (visited ++ [d.name]) rest

theorem traced_append {index : Index} {visited : List Text} {found more : List Discovery} :
    index.Traced visited (found ++ more) ↔
      index.Traced visited found ∧ index.Traced (visited ++ Discovery.names found) more := by
  induction found generalizing visited with
  | nil => simp [Traced]
  | cons d rest ih => simp [Traced, ih, and_assoc]

theorem traced_discoveries {index : Index} {visited names : List Text} {requestedBy : Option Text}
    (h : ∀ child, requestedBy = some child →
      child ∈ visited ∧ ∀ name ∈ names, name ∈ index.parentsOf child) :
    index.Traced visited (index.discoveries visited requestedBy names) := by
  fun_induction discoveries index visited requestedBy names with
  | case1 => trivial
  | case2 visited requestedBy name rest hv ih =>
    refine ih fun child hc => ?_
    obtain ⟨hm, hp⟩ := h child hc
    exact ⟨hm, fun n hn => hp n (List.mem_cons_of_mem _ hn)⟩
  | case3 visited requestedBy name rest hv above ihAbove ihRest =>
    have hfirst : ∀ child, requestedBy = some child →
        child ∈ visited ∧ name ∈ index.parentsOf child :=
      fun child hc => ⟨(h child hc).1, (h child hc).2 name List.mem_cons_self⟩
    -- The search above the name runs on its behalf, and it has just been visited.
    have habove : index.Traced (visited ++ [name]) above := by
      refine ihAbove fun child hc => ?_
      obtain rfl := Option.some.inj hc
      exact ⟨by simp, fun _ hn => hn⟩
    have hrest := ihRest fun child hc => ⟨List.mem_append_left _ (h child hc).1,
      fun n hn => (h child hc).2 n (List.mem_cons_of_mem _ hn)⟩
    exact traced_append.mpr ⟨⟨hfirst, habove⟩, by simpa using hrest⟩

/-! Where a search meets a name that the index does not hold. -/

/-- The names of discoveries up to the first that the index does not hold, and that one. -/
def untilMissing (index : Index) : List Discovery → List Text × Option MissingSchema
  | [] => ([], none)
  | d :: rest =>
    if index.contains d.name then
      (d.name :: (index.untilMissing rest).1, (index.untilMissing rest).2)
    else ([d.name], some ⟨d.name, d.requestedBy⟩)

theorem untilMissing_append (index : Index) (found more : List Discovery) :
    index.untilMissing (found ++ more) =
      match index.untilMissing found with
      | (names, some missing) => (names, some missing)
      | (names, none) => (names ++ (index.untilMissing more).1, (index.untilMissing more).2) := by
  induction found with
  | nil => rfl
  | cons d rest ih =>
    by_cases hd : index.contains d.name
    · simp only [List.cons_append, untilMissing, hd, if_true, ih]
      rcases index.untilMissing rest with ⟨names, _ | missing⟩ <;> rfl
    · simp [untilMissing, hd]

theorem untilMissing_eq_none_iff {index : Index} {found : List Discovery} {names : List Text} :
    index.untilMissing found = (names, none) ↔
      Discovery.names found = names ∧ ∀ d ∈ found, index.contains d.name := by
  induction found generalizing names with
  | nil => simp [untilMissing]
  | cons d rest ih =>
    by_cases hd : index.contains d.name
    · rcases hr : index.untilMissing rest with ⟨restNames, _ | missing⟩
      · obtain ⟨rfl, hheld⟩ := ih.mp hr
        simp only [untilMissing, hd, if_true, hr, Discovery.names_cons, Prod.mk.injEq, and_true,
          List.forall_mem_cons, true_and]
        exact ⟨fun h => ⟨h, hheld⟩, And.left⟩
      · have hno : ¬ ∀ d ∈ rest, index.contains d.name := by
          intro hall
          have := ih.mpr ⟨rfl, hall⟩
          simp [hr] at this
        simp [untilMissing, hd, hr, hno]
    · simp [untilMissing, hd]

/-- What is missing is the first discovery that the index does not hold. The names end with it. -/
theorem untilMissing_eq_some_iff {index : Index} {found : List Discovery} {names : List Text}
    {missing : MissingSchema} :
    index.untilMissing found = (names, some missing) ↔
      ∃ before after, found = before ++ ⟨missing.identifier, missing.requestedBy⟩ :: after ∧
        (∀ d ∈ before, index.contains d.name) ∧ ¬ index.contains missing.identifier ∧
        names = Discovery.names before ++ [missing.identifier] := by
  constructor
  · intro h
    induction found generalizing names with
    | nil => simp [untilMissing] at h
    | cons d rest ih =>
      by_cases hd : index.contains d.name
      · rcases hr : index.untilMissing rest with ⟨restNames, restMissing⟩
        simp only [untilMissing, hd, if_true, hr, Prod.mk.injEq] at h
        obtain ⟨rfl, rfl⟩ := h
        obtain ⟨before, after, rfl, hheld, hmiss, rfl⟩ := ih hr
        exact ⟨d :: before, after, rfl, List.forall_mem_cons.mpr ⟨hd, hheld⟩, hmiss, rfl⟩
      · simp only [untilMissing, hd, Bool.false_eq_true, if_false, Prod.mk.injEq,
          Option.some.injEq] at h
        obtain ⟨rfl, rfl⟩ := h
        exact ⟨[], rest, rfl, by simp, hd, rfl⟩
  · rintro ⟨before, after, rfl, hheld, hmiss, rfl⟩
    rw [untilMissing_append, untilMissing_eq_none_iff.mpr ⟨rfl, hheld⟩]
    simp [untilMissing, hmiss]

/-! The walks of the resolution against the recursive search. -/

/-- The walk for the required classes visits what the search for the names on top of the stack
discovers, and goes on below them unless a name is missing. -/
theorem visit_append (index : Index) (visited : List Text) (requestedBy : Option Text)
    (names : List Text) (stack : List (Text × Option Text)) :
    index.visit visited (names.map (·, requestedBy) ++ stack) =
      match index.untilMissing (index.discoveries visited requestedBy names) with
      | (found, some missing) => (visited ++ found, some missing)
      | (found, none) => index.visit (visited ++ found) stack := by
  -- The parents go on the stack on top of the remaining names, so the stack below is general.
  fun_induction discoveries index visited requestedBy names generalizing stack with
  | case1 => simp [untilMissing]
  | case2 visited requestedBy name rest hv ih =>
    rw [List.map_cons, List.cons_append, visit, if_pos hv]
    exact ih stack
  | case3 visited requestedBy name rest hv above ihAbove ihRest =>
    rw [List.map_cons, List.cons_append, visit, if_neg hv, List.cons_append]
    split
    · rename_i hg
      simp [untilMissing, contains, hg]
    · rename_i e hg
      have hheld : index.contains name := by simp [contains, hg]
      rw [← parentsOf_eq hg, ihAbove]
      simp only [untilMissing, hheld, if_true, untilMissing_append]
      -- The rest of the names is searched only if the ancestors of the first are all there.
      rcases hu : index.untilMissing above with ⟨found, _ | missing⟩
      · obtain ⟨rfl, -⟩ := untilMissing_eq_none_iff.mp hu
        have hr := ihRest stack
        simp only [List.append_assoc, List.singleton_append]
        rw [hr]
        rcases index.untilMissing (index.discoveries (visited ++ name :: Discovery.names above)
          requestedBy rest) with ⟨found, _ | missing⟩ <;> simp
      · simp

theorem extendLineage_append (index : Index) (visited : List Text) (requestedBy : Option Text)
    (names stack : List Text) :
    index.extendLineage visited (names ++ stack) =
      index.extendLineage
        (visited ++ Discovery.names (index.discoveries visited requestedBy names)) stack := by
  fun_induction discoveries index visited requestedBy names generalizing stack with
  | case1 => simp
  | case2 visited requestedBy name rest hv ih =>
    rw [List.cons_append, extendLineage, if_pos hv]
    exact ih stack
  | case3 visited requestedBy name rest hv above ihAbove ihRest =>
    have hstep : index.extendLineage visited (name :: (rest ++ stack)) =
        index.extendLineage (visited ++ [name]) (index.parentsOf name ++ (rest ++ stack)) := by
      rw [extendLineage, if_neg hv]
      split
      · rename_i hg
        simp [parentsOf_of_none hg]
      · rename_i e hg
        rw [parentsOf_eq hg]
    rw [List.cons_append, hstep, ihAbove]
    simpa using ihRest stack

/-- The lineage of a class lists what the search from it discovers. -/
theorem lineage_eq_discovered (index : Index) (name : Text) :
    index.lineage name = index.discovered [name] := by
  have h := index.extendLineage_append [] none [name] []
  rw [List.append_nil, List.nil_append] at h
  rw [lineage, h, extendLineage]
  rfl

end Index

end VocabBindings
