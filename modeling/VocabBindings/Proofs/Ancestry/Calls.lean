import VocabBindings.Proofs.Ancestry.Requests

/-!
Several calls on one context, some of which fail. A failed call leaves the missing class among the
required ones, where later calls take it for a class that was found. So each missing class is
reported once, a failed call that is repeated goes on behind the name at which it failed, and only
below the missing classes may ancestors be left out.
-/

set_option autoImplicit false

namespace VocabBindings

namespace Index

variable {index : Index} {visited names : List Text} {requestedBy : Option Text}

theorem filter_untilMissing (found : List Discovery) :
    ((index.untilMissing found).1.filter fun name => ¬ index.contains name) =
      (index.untilMissing found).2.toList.map MissingSchema.identifier := by
  induction found with
  | nil => rfl
  | cons d rest ih =>
    by_cases hd : index.contains d.name
    · simpa [untilMissing, hd] using ih
    · simp [untilMissing, hd]

theorem untilMissing_lead (found : List Discovery) :
    (index.untilMissing found).1 <+: Discovery.names found := by
  induction found with
  | nil => exact List.prefix_rfl
  | cons d rest ih =>
    by_cases hd : index.contains d.name
    · simpa [untilMissing, hd] using ih
    · simp [untilMissing, hd]

theorem visited_of_mem_above {name parent : Text} {child : Discovery}
    (hc : child ∈ ⟨name, requestedBy⟩ ::
      index.discoveries (visited ++ [name]) (some name) (index.parentsOf name))
    (hp : parent ∈ index.parentsOf child.name) (hn : parent ≠ []) :
    parent ∈ visited ++ name :: Discovery.names
      (index.discoveries (visited ++ [name]) (some name) (index.parentsOf name)) := by
  rw [List.append_cons]
  rcases List.mem_cons.mp hc with rfl | hc
  · exact mem_discoveries_of_mem index _ _ hp hn
  · exact mem_discoveries_of_parent hc hp hn

/-- Wherever a search stands, the parents of a class that it came to have been visited, or it is
still above this class. -/
theorem visited_or_descends {before after : List Discovery} {child d : Discovery} {parent : Text}
    (h : index.discoveries visited requestedBy names = before ++ d :: after)
    (hc : child ∈ before) (hp : parent ∈ index.parentsOf child.name) (hn : parent ≠ []) :
    parent ∈ visited ++ Discovery.names before ∨ index.Descends child.name d.name := by
  fun_induction discoveries index visited requestedBy names generalizing before after with
  | case1 => simp at h
  | case2 visited requestedBy name rest hv ih => exact ih h hc
  | case3 visited requestedBy name rest hv above ihAbove =>
    rename_i ihRest
    have hname : name ≠ [] := fun hn => hv (.inl hn)
    have hpassed : ∀ more, before = ⟨name, requestedBy⟩ :: above ++ more →
        index.discoveries (visited ++ name :: Discovery.names above) requestedBy rest =
          more ++ d :: after →
        parent ∈ visited ++ Discovery.names before ∨ index.Descends child.name d.name := by
      rintro more rfl hrest
      rcases List.mem_append.mp hc with hc | hc
      · have hm := visited_of_mem_above hc hp hn
        simp only [List.mem_append, Discovery.names_append, Discovery.names_cons] at hm ⊢
        exact .inl (hm.imp_right .inl)
      · exact (ihRest hrest hc).imp_left fun hm => by simpa using hm
    rcases List.append_eq_append_iff.mp h with ⟨more, hbefore, hrest⟩ | ⟨more, habove, hrest⟩
    · exact hpassed more hbefore hrest
    · cases more with
      | nil => exact hpassed [] (by simpa using habove.symm) hrest.symm
      | cons next more =>
        -- The search stands above the name, which leads to everything there.
        obtain ⟨rfl, -⟩ := List.cons_eq_cons.mp hrest
        cases before with
        | nil => simp at hc
        | cons first before =>
          rw [List.cons_append, List.cons_eq_cons] at habove
          obtain ⟨rfl, habove⟩ := habove
          rcases List.mem_cons.mp hc with rfl | hc
          · have hd : d ∈ above := by simp [habove]
            obtain ⟨start, hs, hsn, hr⟩ := exists_descends_of_mem hd
            exact .inr (hr.head ⟨hname, hsn, hs⟩)
          · exact (ihAbove habove hc).imp_left fun hm => by simpa using hm

theorem parents_of_untilMissing {found : List Text} {stop : Option MissingSchema}
    {name parent : Text}
    (h : index.untilMissing (index.discoveries visited requestedBy names) = (found, stop))
    (hm : name ∈ found) (hp : parent ∈ index.parentsOf name) (hn : parent ≠ []) :
    parent ∈ visited ++ found ∨
      ∃ missing, stop = some missing ∧ index.Descends name missing.identifier := by
  cases stop with
  | none =>
    obtain ⟨rfl, -⟩ := untilMissing_eq_none_iff.mp h
    obtain ⟨d, hd, rfl⟩ := Discovery.mem_names.mp hm
    exact .inl (mem_discoveries_of_parent hd hp hn)
  | some missing =>
    obtain ⟨before, after, hsplit, -, habsent, rfl⟩ := untilMissing_eq_some_iff.mp h
    rcases List.mem_append.mp hm with hm | hm
    · obtain ⟨d, hd, rfl⟩ := Discovery.mem_names.mp hm
      rcases visited_or_descends hsplit hd hp hn with hv | hr
      · exact .inl (by rw [← List.append_assoc]; exact List.mem_append_left _ hv)
      · exact .inr ⟨missing, rfl, hr⟩
    · -- The missing class has no parents.
      obtain rfl := List.mem_singleton.mp hm
      obtain ⟨e, he, -⟩ := exists_get?_of_mem_parentsOf hp
      exact absurd (by simp [contains, he]) habsent

end Index

namespace Context

inductive Call where
  | one (name : Text)
  | all (names : List Text)
  deriving DecidableEq

def Call.names : Call → List Text
  | .one name => [name]
  | .all names => names

def call (c : Context) : Call → Context × Option MissingSchema
  | .one name => c.require name
  | .all names => c.requireAll names

/-- The context after a list of calls, and the classes that were missing in them. A call that fails
does not keep the next one from being made. -/
def afterCalls (c : Context) : List Call → Context × List MissingSchema
  | [] => (c, [])
  | call :: rest =>
    let (next, missing) := c.call call
    let (last, missed) := next.afterCalls rest
    (last, missing.toList ++ missed)

variable {c next : Context} {index : Index} {name : Text} {missing : MissingSchema}
  {missed : List MissingSchema}

theorem call_eq (c : Context) (call : Call) :
    ∃ requested,
      c.call call =
        ({ c with
            requested
            required := c.required ++
              (c.index.untilMissing (c.index.discoveries c.required none call.names)).1 },
          (c.index.untilMissing (c.index.discoveries c.required none call.names)).2) := by
  cases call with
  | one name => exact ⟨c.requested, c.require_eq name⟩
  | all names => exact c.requireAll_eq names

/-- What holds of a context after calls in which classes were missing. -/
structure Reached (index : Index) (missed : List MissingSchema) (c : Context) : Prop where
  index_eq : c.index = index
  nodup : c.required.Nodup
  ne_nil : ∀ name ∈ c.required, name ≠ []
  /-- The required classes that the index does not hold are the missing ones, in this order. -/
  absent : (c.required.filter fun name => ¬ index.contains name) =
    missed.map MissingSchema.identifier
  /-- The parents of a class are required too, unless it is below a missing class. -/
  parents : ∀ name ∈ c.required, ∀ parent ∈ index.parentsOf name, parent ≠ [] →
    parent ∈ c.required ∨ ∃ m ∈ missed, index.Descends name m.identifier

theorem reached_fresh (index : Index) : Reached index [] { index } :=
  ⟨rfl, List.nodup_nil, by simp, rfl, by simp⟩

namespace Reached

theorem call {missing : Option MissingSchema} (h : Reached index missed c) {call : Call}
    (hc : c.call call = (next, missing)) : Reached index (missed ++ missing.toList) next := by
  obtain ⟨requested, heq⟩ := c.call_eq call
  rcases hu : index.untilMissing (index.discoveries c.required none call.names) with ⟨found, stop⟩
  rw [heq, h.index_eq, hu, Prod.mk.injEq] at hc
  obtain ⟨rfl, rfl⟩ := hc
  have hlead : found <+: Discovery.names (index.discoveries c.required none call.names) := by
    simpa [hu] using index.untilMissing_lead (index.discoveries c.required none call.names)
  have hfound : ∀ name ∈ found, name ≠ [] ∧ name ∉ c.required := by
    intro name hn
    obtain ⟨d, hd, rfl⟩ := Discovery.mem_names.mp (hlead.subset hn)
    exact ⟨Index.ne_nil_of_mem_discoveries hd, Index.not_mem_of_mem_discoveries hd⟩
  have habsent : (found.filter fun name => ¬ index.contains name) =
      stop.toList.map MissingSchema.identifier := by
    simpa [hu] using index.filter_untilMissing (index.discoveries c.required none call.names)
  refine ⟨rfl, ?_, ?_, ?_, ?_⟩
  · refine List.nodup_append.mpr ⟨h.nodup, (index.nodup_discoveries ..).sublist hlead.sublist, ?_⟩
    rintro a ha b hb rfl
    exact (hfound a hb).2 ha
  · intro name hn
    exact (List.mem_append.mp hn).elim (h.ne_nil name) fun hm => (hfound name hm).1
  · rw [List.filter_append, h.absent, habsent, List.map_append]
  · intro name hn parent hp hne
    rcases List.mem_append.mp hn with hn | hn
    · rcases h.parents name hn parent hp hne with hm | ⟨m, hm, hr⟩
      · exact .inl (List.mem_append_left _ hm)
      · exact .inr ⟨m, List.mem_append_left _ hm, hr⟩
    · rcases Index.parents_of_untilMissing hu hn hp hne with hm | ⟨m, rfl, hr⟩
      · exact .inl hm
      · exact .inr ⟨m, by simp, hr⟩

theorem afterCalls {more : List MissingSchema} (h : Reached index missed c) {calls : List Call}
    (hc : c.afterCalls calls = (next, more)) : Reached index (missed ++ more) next := by
  induction calls generalizing c missed more with
  | nil =>
    obtain ⟨rfl, rfl⟩ := Prod.mk.inj hc
    rwa [List.append_nil]
  | cons call rest ih =>
    obtain ⟨rfl, rfl⟩ := Prod.mk.inj hc
    rw [← List.append_assoc]
    exact ih (h.call rfl) rfl

theorem not_contains (h : Reached index missed c) (hm : missing ∈ missed) :
    missing.identifier ∈ c.required ∧ ¬ index.contains missing.identifier := by
  have hmem := List.mem_map_of_mem (f := MissingSchema.identifier) hm
  rw [← h.absent, List.mem_filter] at hmem
  simpa using hmem

theorem descends_iff (h : Reached index missed c) (hn : name ∈ c.required) :
    (∀ x, x ≠ [] → index.Descends name x → x ∈ c.required ∧ index.contains x) ↔
      ∀ m ∈ missed, ¬ index.Descends name m.identifier := by
  constructor
  · intro hall m hm hr
    obtain ⟨hreq, habsent⟩ := h.not_contains hm
    exact habsent (hall _ (h.ne_nil _ hreq) hr).2
  · intro hno x _ hr
    have hreq : x ∈ c.required := by
      -- One step up from a required class, the parent is required or something is missing above.
      induction hr with
      | refl => exact hn
      | @tail child parent hchild hp ih =>
        rcases h.parents child (ih hp.1) parent hp.2.2 hp.2.1 with hm | ⟨m, hm, hup⟩
        · exact hm
        · exact absurd (hchild.trans hup) (hno m hm)
    refine ⟨hreq, Classical.byContradiction fun habsent => ?_⟩
    have hmem : x ∈ c.required.filter fun name => ¬ index.contains name :=
      List.mem_filter.mpr ⟨hreq, by simpa using habsent⟩
    rw [h.absent] at hmem
    obtain ⟨m, hm, rfl⟩ := List.mem_map.mp hmem
    exact hno m hm hr

end Reached

theorem outlines_eq_error_iff {names : List Text} :
    c.outlines names = .error name ↔
      (names.filter fun name => ¬ c.index.contains name).head? = some name := by
  induction names with
  | nil => simp [outlines]
  | cons first rest ih =>
    cases hg : c.index.get? first with
    | none => simp [outlines, hg, Index.contains]
    | some e =>
      have hheld : c.index.contains first := by simp [Index.contains, hg]
      rw [List.filter_cons_of_neg (by simpa using hheld), ← ih]
      cases ho : c.outlines rest <;> simp [outlines, hg, ho, Except.map]

theorem Reached.result_eq_error_iff (h : Reached index missed c) :
    c.result = .error name ↔ missed.head?.map MissingSchema.identifier = some name := by
  have hfirst : (c.required.filter fun name => ¬ c.index.contains name).head? =
      missed.head?.map MissingSchema.identifier := by
    rw [h.index_eq, h.absent, List.head?_map]
  rw [← hfirst, ← outlines_eq_error_iff, result]
  cases c.outlines c.required <;> simp [Except.map]

/-! Names that were met before change nothing. -/

theorem require_of_mem (h : name = [] ∨ name ∈ c.required) : c.require name = (c, none) := by
  rw [require_eq, Index.discoveries, if_pos h]
  simp [Index.discoveries, Index.untilMissing]

theorem mem_required_require (hn : name ≠ []) : name ∈ (c.require name).1.required := by
  by_cases hm : name ∈ c.required
  · rwa [require_of_mem (.inr hm)]
  · have hv : ¬ (name = [] ∨ name ∈ c.required) := fun h => h.elim hn hm
    rw [require_eq, Index.discoveries, if_neg hv, List.cons_append, Index.untilMissing]
    split <;> simp

theorem descends_of_require (h : c.require name = (next, some missing)) :
    c.index.Descends name missing.identifier := by
  rw [require_eq, Prod.mk.injEq] at h
  obtain ⟨before, after, hsplit, -⟩ := Index.untilMissing_eq_some_iff.mp (Prod.ext rfl h.2)
  have hmem : ⟨missing.identifier, missing.requestedBy⟩ ∈
      c.index.discoveries c.required none [name] := by
    simp [hsplit]
  obtain ⟨start, hs, -, hr⟩ := Index.exists_descends_of_mem hmem
  rwa [List.mem_singleton.mp hs] at hr

theorem requireAll_cons_of_mem {rest : List Text}
    (h : name = [] ∨ (name ∈ c.requested ∧ name ∈ c.required)) :
    c.requireAll (name :: rest) = c.requireAll rest := by
  rw [requireAll, request, if_pos (h.imp_right And.left), require_of_mem (h.imp_right And.right)]

/-- A request keeps what was requested and required, and adds its name, also if it fails. -/
theorem mem_of_request {stop : Option MissingSchema}
    (h : (c.request name).require name = (next, stop)) :
    next.index = c.index ∧ c.requested ⊆ next.requested ∧ c.required ⊆ next.required ∧
      (name = [] ∨ (name ∈ next.requested ∧ name ∈ next.required)) := by
  have hadded := fun hn : name ≠ [] => mem_required_require (c := c.request name) hn
  rw [h] at hadded
  rw [require_eq, request_eq, Prod.mk.injEq] at h
  obtain ⟨rfl, -⟩ := h
  refine ⟨rfl, ?_, List.subset_append_left .., ?_⟩
  · dsimp only
    split
    · exact List.Subset.refl _
    · exact List.subset_append_left ..
  · refine Classical.or_iff_not_imp_left.mpr fun hn => ⟨?_, hadded hn⟩
    dsimp only
    split
    · rename_i hm
      exact hm.resolve_left hn
    · simp

theorem subset_requireAll (c : Context) (names : List Text) :
    c.requested ⊆ (c.requireAll names).1.requested ∧
      c.required ⊆ (c.requireAll names).1.required := by
  induction names generalizing c with
  | nil => exact ⟨List.Subset.refl _, List.Subset.refl _⟩
  | cons name rest ih =>
    rcases hm : (c.request name).require name with ⟨mid, _ | missing⟩
    · obtain ⟨-, hrequested, hrequired, -⟩ := mem_of_request hm
      rw [requireAll, hm]
      exact ⟨List.Subset.trans hrequested (ih mid).1, List.Subset.trans hrequired (ih mid).2⟩
    · obtain ⟨-, hrequested, hrequired, -⟩ := mem_of_request hm
      rw [requireAll, hm]
      exact ⟨hrequested, hrequired⟩

/-- Failed requests that are repeated go on behind the name at which they failed. -/
theorem requireAll_again {names : List Text} (h : c.requireAll names = (next, some missing)) :
    ∃ done name later, names = done ++ name :: later ∧
      c.index.Descends name missing.identifier ∧ next.requireAll names = next.requireAll later := by
  induction names generalizing c with
  | nil => simp [requireAll] at h
  | cons first rest ih =>
    rcases hm : (c.request first).require first with ⟨mid, _ | stop⟩
    · obtain ⟨hindex, -, -, hadded⟩ := mem_of_request hm
      rw [requireAll, hm] at h
      dsimp only at h
      obtain ⟨done, name, later, rfl, hr, hagain⟩ := ih h
      -- What the first name added is still there after the later ones.
      have hkept := mid.subset_requireAll (done ++ name :: later)
      rw [h] at hkept
      refine ⟨first :: done, name, later, rfl, hindex ▸ hr, ?_⟩
      rw [requireAll_cons_of_mem (hadded.imp_right fun ha => ⟨hkept.1 ha.1, hkept.2 ha.2⟩), hagain]
    · obtain ⟨-, -, -, hadded⟩ := mem_of_request hm
      rw [requireAll, hm] at h
      obtain ⟨rfl, rfl⟩ : stop = missing ∧ mid = next := by simpa [and_comm] using h
      have hr := descends_of_require hm
      rw [request_eq] at hr
      exact ⟨[], first, rest, rfl, hr, requireAll_cons_of_mem hadded⟩

theorem call_again {call : Call} (h : c.call call = (next, some missing)) :
    ∃ done name later, call.names = done ++ name :: later ∧
      c.index.Descends name missing.identifier ∧ next.call call = next.requireAll later := by
  cases call with
  | one name =>
    refine ⟨[], name, [], rfl, descends_of_require h, require_of_mem ?_⟩
    refine Classical.or_iff_not_imp_left.mpr fun hn => ?_
    have hm := mem_required_require (c := c) hn
    rwa [show c.require name = _ from h] at hm
  | all names => exact requireAll_again h

theorem mem_required_of_call {call : Call} (h : c.call call = (next, none)) (hm : name ∈ call.names)
    (hn : name ≠ []) : name ∈ next.required := by
  obtain ⟨requested, heq⟩ := c.call_eq call
  rcases hu : c.index.untilMissing (c.index.discoveries c.required none call.names) with
    ⟨found, stop⟩
  rw [heq, hu, Prod.mk.injEq] at h
  obtain ⟨rfl, rfl⟩ := h
  obtain ⟨rfl, -⟩ := Index.untilMissing_eq_none_iff.mp hu
  exact c.index.mem_discoveries_of_mem c.required none hm hn

/-- After any calls on a fresh context, the required classes that the index does not hold are those
that were missing in a call, each of them once, and assembling the classes fails at the first. The
next call, if it succeeds, leaves every class that it is for required, and all the ancestors of this
class as well, which the index holds then, exactly if none of the missing classes is among them. If
the next call fails, its repetition goes on behind the name at which it failed. -/
theorem calls_of_afterCalls {calls : List Call}
    (h : ({ index : Context }).afterCalls calls = (c, missed)) :
    (c.required.filter fun name => ¬ index.contains name) =
        missed.map MissingSchema.identifier ∧
      (missed.map MissingSchema.identifier).Nodup ∧
      (∀ name, c.result = .error name ↔
        missed.head?.map MissingSchema.identifier = some name) ∧
      ∀ call next,
        (c.call call = (next, none) → ∀ name ∈ call.names, name ≠ [] →
          name ∈ next.required ∧
            ((∀ x, x ≠ [] → index.Descends name x → x ∈ next.required ∧ index.contains x) ↔
              ∀ m ∈ missed, ¬ index.Descends name m.identifier)) ∧
        ∀ missing, c.call call = (next, some missing) →
          ∃ done name later, call.names = done ++ name :: later ∧
            index.Descends name missing.identifier ∧ next.call call = next.requireAll later := by
  have hc : Reached index missed c := by simpa using (reached_fresh index).afterCalls h
  refine ⟨hc.absent, ?_, fun name => hc.result_eq_error_iff, fun call next => ⟨?_, ?_⟩⟩
  · rw [← hc.absent]
    exact hc.nodup.filter _
  · intro hcall name hm hn
    have hnext : Reached index missed next := by simpa using hc.call hcall
    have hreq := mem_required_of_call hcall hm hn
    exact ⟨hreq, hnext.descends_iff hreq⟩
  · intro missing hcall
    obtain ⟨done, name, later, hnames, hr, hagain⟩ := call_again hcall
    exact ⟨done, name, later, hnames, hc.index_eq ▸ hr, hagain⟩

theorem calls_of_afterCalls_missing_root :
    let book := Call.one "Book".toList
    let calls := [.all (["Thing", "Book", "Other"].map String.toList), book]
    ∃ c next, ({ index := missingRoot : Context }).afterCalls calls =
        (c, [⟨"Ghost".toList, some "Work".toList⟩]) ∧
      c.result = .error "Ghost".toList ∧ c.call book = (next, none) ∧
      ¬ ∀ x, x ≠ [] → missingRoot.Descends "Book".toList x →
        x ∈ next.required ∧ missingRoot.contains x := by
  intro book calls
  let c : Context :=
    { index := missingRoot
      requested := ["Thing", "Book"].map String.toList
      required := ["Thing", "Book", "Work", "Ghost"].map String.toList }
  have h : ({ index := missingRoot : Context }).afterCalls calls =
      (c, [⟨"Ghost".toList, some "Work".toList⟩]) := by
    cbv
  have hnext : c.call book = (c, none) := by cbv
  obtain ⟨-, -, hresult, hcall⟩ := calls_of_afterCalls h
  obtain ⟨-, habove⟩ := (hcall book c).1 hnext "Book".toList (by simp [book, Call.names]) (by decide)
  refine ⟨c, c, h, (hresult _).mpr rfl, hnext, fun hall => ?_⟩
  have hghost : missingRoot.HasParent "Book".toList "Ghost".toList := by decide
  refine habove.mp hall ⟨"Ghost".toList, _⟩ (List.mem_singleton.mpr rfl) ?_
  exact Relation.ReflTransGen.single ⟨by decide, by decide, hghost⟩

def orphan : Index := ⟨[bareClass "A" ["Ghost", "B"], bareClass "B" []]⟩

/-- A failed call need not fail again. The class is required then without its parents, one of which
the index does not hold. -/
theorem exists_failed_call_returning :
    let call := Call.one "A".toList
    ∃ c, Index.ofEntries orphan.entries = .ok orphan ∧
      ({ index := orphan : Context }).call call = (c, some ⟨"Ghost".toList, some "A".toList⟩) ∧
      c.call call = (c, none) ∧ c.required = ["A".toList, "Ghost".toList] ∧
      orphan.parentsOf "A".toList = ["Ghost".toList, "B".toList] ∧
      ¬ orphan.contains "Ghost".toList ∧ c.result = .error "Ghost".toList := by
  exact ⟨{ index := orphan, required := ["A".toList, "Ghost".toList] }, by cbv, by cbv, by cbv, rfl,
    by decide, by decide, by cbv⟩

end Context

end VocabBindings
