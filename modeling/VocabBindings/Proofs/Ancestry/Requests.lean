import VocabBindings.Proofs.Ancestry.Descent
import VocabBindings.Resolve.Context

/-!
Requests against the search. On a fresh context the requests for a list of names require exactly
the classes that the search from these names discovers, in the same order. They fail if one of the
names descends from a class that the index does not hold; what is required then is the beginning of
the search up to the first such class.
-/

set_option autoImplicit false

namespace VocabBindings.Context

/-- The names that a list of requests notes: each one once, in the order in which they first occur,
and no empty one. -/
def noted (names : List Text) : List Text := (names.filter (· ≠ [])).eraseDups

theorem mem_noted {names : List Text} {name : Text} :
    name ∈ noted names ↔ name ∈ names ∧ name ≠ [] := by
  simp [noted]

theorem nodup_noted (names : List Text) : (noted names).Nodup := Keyed.nodup_eraseDups _

theorem noted_concat (names : List Text) (name : Text) :
    noted (names ++ [name]) =
      if name = [] ∨ name ∈ noted names then noted names else noted names ++ [name] := by
  by_cases hn : name = []
  · simp [noted, hn]
  · by_cases hm : name ∈ names <;>
      simp [noted, hn, hm, List.eraseDups_append, List.eraseDups_cons, List.removeAll]

theorem require_eq (c : Context) (name : Text) :
    c.require name =
      ({ c with
          required := c.required ++
            (c.index.untilMissing (c.index.discoveries c.required none [name])).1 },
        (c.index.untilMissing (c.index.discoveries c.required none [name])).2) := by
  have h := c.index.visit_append c.required none [name] []
  simp only [List.map_cons, List.map_nil, List.append_nil] at h
  rw [require, h]
  rcases c.index.untilMissing (c.index.discoveries c.required none [name]) with
    ⟨found, _ | missing⟩
  · simp [Index.visit]
  · rfl

theorem request_eq (c : Context) (name : Text) :
    c.request name = { c with
      requested :=
        if name = [] ∨ name ∈ c.requested then c.requested else c.requested ++ [name] } := by
  unfold request
  split <;> rfl

/-- Requests add the discoveries of their search up to the first missing class. Index, properties
and suggestions stay as they are. -/
theorem requireAll_eq (c : Context) (names : List Text) :
    ∃ requested,
      c.requireAll names =
        ({ c with
            requested
            required := c.required ++
              (c.index.untilMissing (c.index.discoveries c.required none names)).1 },
          (c.index.untilMissing (c.index.discoveries c.required none names)).2) := by
  induction names generalizing c with
  | nil => exact ⟨c.requested, by simp [requireAll, Index.discoveries, Index.untilMissing]⟩
  | cons name rest ih =>
    have happ := c.index.discoveries_append c.required none [name] rest
    rw [List.singleton_append] at happ
    rw [requireAll, request_eq, require_eq, happ, Index.untilMissing_append]
    rcases hu : c.index.untilMissing (c.index.discoveries c.required none [name]) with
      ⟨found, _ | missing⟩
    · obtain ⟨rfl, -⟩ := Index.untilMissing_eq_none_iff.mp hu
      dsimp only
      obtain ⟨requested, h⟩ := ih { c with
        requested := if name = [] ∨ name ∈ c.requested then c.requested else c.requested ++ [name]
        required := c.required ++
          Discovery.names (c.index.discoveries c.required none [name]) }
      exact ⟨requested, by rw [h, List.append_assoc]⟩
    · exact ⟨_, rfl⟩

theorem requested_request {c : Context} {done : List Text} (h : c.requested = noted done)
    (name : Text) : (c.request name).requested = noted (done ++ [name]) := by
  rw [request_eq, noted_concat, h]

theorem requested_requireAll {c next : Context} {done names : List Text}
    (hc : c.requested = noted done) (h : c.requireAll names = (next, none)) :
    next.requested = noted (done ++ names) := by
  induction names generalizing c done with
  | nil =>
    simp only [requireAll, Prod.mk.injEq, and_true] at h
    rw [← h, hc, List.append_nil]
  | cons name rest ih =>
    rw [requireAll, require_eq] at h
    split at h
    · rename_i mid hm
      have hmid : mid.requested = noted (done ++ [name]) := by
        rw [← requested_request hc name, ← (Prod.mk.inj hm).1]
      simpa using ih hmid h
    · simp at h

theorem exists_failing_request {c next : Context} {names : List Text} {missing : MissingSchema}
    (h : c.requireAll names = (next, some missing)) :
    ∃ done name later mid, names = done ++ name :: later ∧ c.requireAll done = (mid, none) ∧
      (mid.request name).require name = (next, some missing) := by
  induction names generalizing c with
  | nil => simp [requireAll] at h
  | cons name rest ih =>
    rw [requireAll] at h
    split at h
    · rename_i mid hm
      obtain ⟨done, failing, later, before, rfl, hdone, hfail⟩ := ih h
      exact ⟨name :: done, failing, later, before, rfl, by rw [requireAll, hm]; exact hdone, hfail⟩
    · rename_i stopped first hm
      exact ⟨[], name, rest, c, rfl, rfl, by rw [hm]; exact h⟩

/-- What requests that succeed make of a fresh context. -/
structure Answers (index : Index) (names : List Text) (c : Context) : Prop where
  index_eq : c.index = index
  requested : c.requested = noted names
  required : c.required = index.discovered names
  held : ∀ name ∈ c.required, index.contains name
  properties : c.properties = []
  suggestions : c.suggestions = .empty

section

variable {index : Index} {names : List Text} {c : Context} {missing : MissingSchema}

theorem answers_of_requireAll (h : ({ index : Context }).requireAll names = (c, none)) :
    Answers index names c := by
  have hfresh : ({ index : Context }).requested = noted [] := rfl
  have hrequested := requested_requireAll hfresh h
  obtain ⟨requested, heq⟩ := requireAll_eq { index } names
  rw [heq, Prod.mk.injEq] at h
  obtain ⟨rfl, hnone⟩ := h
  obtain ⟨hfound, hheld⟩ := Index.untilMissing_eq_none_iff.mp (Prod.ext rfl hnone)
  have hreq : (index.untilMissing (index.discoveries [] none names)).1 =
      index.discovered names := hfound.symm
  have hrequired : [] ++ (index.untilMissing (index.discoveries [] none names)).1 =
      index.discovered names := by rw [List.nil_append, hreq]
  refine ⟨rfl, hrequested, hrequired, ?_, rfl, rfl⟩
  intro name hn
  obtain ⟨d, hd, rfl⟩ := Discovery.mem_names.mp (hrequired ▸ hn)
  exact hheld d hd

theorem requireAll_eq_none_iff :
    (({ index : Context }).requireAll names).2 = none ↔
      ∀ name ∈ names, ∀ x, x ≠ [] → index.Descends name x → index.contains x := by
  obtain ⟨requested, heq⟩ := requireAll_eq { index } names
  rw [heq]
  exact Index.untilMissing_discoveries_eq_none_iff

/-- Requests that succeed on a fresh context require the preorder of the recursive search: every
class that a requested name descends from, each one once, all of them in the index and with all
their parents. -/
theorem requireAll_preorder (h : ({ index : Context }).requireAll names = (c, none)) :
    c.required = index.discovered names ∧ c.required.Nodup ∧
      (∀ x, x ∈ c.required ↔ x ≠ [] ∧ ∃ name ∈ names, index.Descends name x) ∧
      (index.get? [] = none → ∀ x, x ∈ c.required ↔
        x ≠ [] ∧ ∃ name ∈ names, Relation.ReflTransGen index.HasParent name x) ∧
      (∀ x ∈ c.required, ∃ e, index.get? x = some e ∧
        ∀ parent ∈ e.parents, parent ≠ [] → parent ∈ c.required) ∧
      c.requested = (names.filter (· ≠ [])).eraseDups := by
  have hc := answers_of_requireAll h
  have hreq := hc.required
  have hiff : ∀ x, x ∈ c.required ↔ x ≠ [] ∧ ∃ name ∈ names, index.Descends name x := by
    intro x
    rw [hreq]
    exact Index.mem_discovered_iff
  refine ⟨hreq, ?_, hiff, ?_, ?_, hc.requested⟩
  · rw [hreq]
    exact index.nodup_discoveries [] none names
  · intro hempty x
    rw [hiff]
    refine and_congr_right fun hx => ?_
    simp only [Index.descends_iff hempty hx]
  · intro x hx
    obtain ⟨e, he⟩ := Option.isSome_iff_exists.mp (hc.held x hx)
    refine ⟨e, he, fun parent hp hn => ?_⟩
    rw [hreq] at hx ⊢
    have hne := (Index.mem_discovered_iff.mp hx).1
    exact Index.mem_discovered_of_inherits hx ⟨hne, hn, by rwa [Index.HasParent, Index.parentsOf_eq he]⟩

def bareClass (id : String) (parents : List String) : Entry where
  id := id.toList
  kind := .schema
  parents := parents.map String.toList

def diamond : Index :=
  ⟨[bareClass "Both" ["Left", "Right", "Left"], bareClass "Left" ["Thing"],
    bareClass "Right" ["Thing", ""], bareClass "Thing" ["Both", "Thing"]]⟩

theorem requireAll_preorder_diamond :
    let names := ["Both", "", "Left", "Both"].map String.toList
    let c : Context :=
      { index := diamond
        requested := ["Both", "Left"].map String.toList
        required := ["Both", "Left", "Thing", "Right"].map String.toList }
    ({ index := diamond : Context }).requireAll names = (c, none) ∧
      c.required = diamond.discovered names ∧ c.required.Nodup ∧
      ∀ x, x ∈ c.required ↔ x ≠ [] ∧ ∃ name ∈ names, diamond.Descends name x := by
  intro names c
  have h : ({ index := diamond : Context }).requireAll names = (c, none) := by cbv
  exact ⟨h, (requireAll_preorder h).1, (requireAll_preorder h).2.1, (requireAll_preorder h).2.2.1⟩

def namelessParent : Index := ⟨[bareClass "A" [""], bareClass "" ["X"], bareClass "X" []]⟩

/-- A name that the parents lead to need not be required: no search goes through a class without a
name. -/
theorem exists_reachable_not_required :
    ∃ c, Index.ofEntries namelessParent.entries = .ok namelessParent ∧
      ({ index := namelessParent : Context }).requireAll ["A".toList] = (c, none) ∧
      ¬ ∀ x, x ∈ c.required ↔ x ≠ [] ∧
        ∃ name ∈ ["A".toList], Relation.ReflTransGen namelessParent.HasParent name x := by
  refine ⟨{ index := namelessParent, requested := ["A".toList], required := ["A".toList] },
    by cbv, by cbv, fun hall => ?_⟩
  have hup : namelessParent.HasParent "A".toList [] := by decide
  have hfrom : namelessParent.HasParent [] "X".toList := by decide
  have hreach := (Relation.ReflTransGen.single hup).tail hfrom
  exact absurd ((hall "X".toList).mpr ⟨by decide, _, List.mem_singleton.mpr rfl, hreach⟩) (by decide)

/-- Where requests on a fresh context end that meet a missing class. -/
structure StoppedAt (index : Index) (names : List Text) (c : Context) (missing : MissingSchema) :
    Prop where
  absent : ¬ index.contains missing.identifier
  /-- The missing class is the first in the preorder that the index does not hold. Required are it
  and what comes before it, and the class that it is a parent of came before it too. -/
  preorder : ∃ before after,
    index.discoveries [] none names =
        before ++ ⟨missing.identifier, missing.requestedBy⟩ :: after ∧
      (∀ d ∈ before, index.contains d.name) ∧
      c.required = Discovery.names before ++ [missing.identifier] ∧
      ∀ child, missing.requestedBy = some child → child ∈ Discovery.names before ∧
        ∃ e, index.get? child = some e ∧ missing.identifier ∈ e.parents
  /-- Everything that the requests before the failing one lead to is there, and no request after it
  is noted. No class is named if the missing one was requested itself. -/
  request : ∃ done name later,
    names = done ++ name :: later ∧ (∀ x ∈ index.discovered done, index.contains x) ∧
      index.Descends name missing.identifier ∧
      (missing.requestedBy = none ↔ missing.identifier = name) ∧
      c.requested = noted (done ++ [name])

theorem requestedBy_eq_none_iff {next : Context} {name : Text}
    (h : (c.request name).require name = (next, some missing)) :
    (missing.requestedBy = none ↔ missing.identifier = name) ∧
      c.index.Descends name missing.identifier := by
  rw [require_eq, Prod.mk.injEq, request_eq] at h
  obtain ⟨before, after, hsplit, -, -, -⟩ := Index.untilMissing_eq_some_iff.mp (Prod.ext rfl h.2)
  have hmem : ⟨missing.identifier, missing.requestedBy⟩ ∈
      c.index.discoveries c.required none [name] := by
    rw [hsplit]
    simp
  obtain ⟨start, hs, -, hr⟩ := Index.exists_descends_of_mem hmem
  obtain rfl := List.mem_singleton.mp hs
  exact ⟨Index.requestedBy_eq_none_iff hmem, hr⟩

theorem stoppedAt_of_requireAll
    (h : ({ index : Context }).requireAll names = (c, some missing)) :
    StoppedAt index names c missing := by
  obtain ⟨requested, heq⟩ := requireAll_eq { index } names
  have hparts := heq.symm.trans h
  rw [Prod.mk.injEq] at hparts
  obtain ⟨before, after, hsplit, hheld, habsent, hnames⟩ :=
    Index.untilMissing_eq_some_iff.mp (Prod.ext rfl hparts.2)
  refine ⟨habsent, ⟨before, after, hsplit, hheld, ?_, ?_⟩, ?_⟩
  · rw [← hparts.1, ← hnames, List.nil_append]
  · intro child hc
    have htraced : index.Traced [] (index.discoveries [] none names) :=
      Index.traced_discoveries (by simp)
    rw [hsplit, Index.traced_append] at htraced
    obtain ⟨hm, hp⟩ := htraced.2.1 child hc
    exact ⟨by simpa using hm, Index.exists_get?_of_mem_parentsOf hp⟩
  · obtain ⟨done, name, later, mid, rfl, hdone, hfail⟩ := exists_failing_request h
    have hmid := answers_of_requireAll hdone
    obtain ⟨hnone, hdesc⟩ := requestedBy_eq_none_iff hfail
    refine ⟨done, name, later, rfl, hmid.required ▸ hmid.held, hmid.index_eq ▸ hdesc, hnone, ?_⟩
    have hnoted := requested_request hmid.requested name
    rw [require_eq, Prod.mk.injEq] at hfail
    rw [← hfail.1]
    exact hnoted

/-- Requests on a fresh context fail exactly if one of the names descends from a class that the
index does not hold, and they stop at the first such class of the preorder. -/
theorem requireAll_missing (index : Index) (names : List Text) :
    ((({ index : Context }).requireAll names).2 ≠ none ↔
      ∃ name ∈ names, ∃ x, x ≠ [] ∧ index.Descends name x ∧ ¬ index.contains x) ∧
    ∀ c missing, ({ index : Context }).requireAll names = (c, some missing) →
      StoppedAt index names c missing := by
  refine ⟨?_, fun c missing h => stoppedAt_of_requireAll h⟩
  rw [ne_eq, requireAll_eq_none_iff]
  simp only [Classical.not_forall, exists_prop]

def missingRoot : Index :=
  ⟨[bareClass "Book" ["Work", "Ghost"], bareClass "Work" ["Ghost"], bareClass "Thing" []]⟩

theorem requireAll_missing_root :
    let names := ["Thing", "Book", "Other"].map String.toList
    let missing : MissingSchema := ⟨"Ghost".toList, some "Work".toList⟩
    let c : Context :=
      { index := missingRoot
        requested := ["Thing", "Book"].map String.toList
        required := ["Thing", "Book", "Work", "Ghost"].map String.toList }
    ({ index := missingRoot : Context }).requireAll names = (c, some missing) ∧
      StoppedAt missingRoot names c missing := by
  intro names missing c
  have h : ({ index := missingRoot : Context }).requireAll names = (c, some missing) := by cbv
  exact ⟨h, (requireAll_missing missingRoot names).2 c missing h⟩

def missingAboveNameless : Index := ⟨[bareClass "A" [""], bareClass "" ["Ghost"]]⟩

/-- Requests need not fail where the parents lead to a missing class: no search goes through a class
without a name. -/
theorem exists_missing_reachable_of_success :
    Index.ofEntries missingAboveNameless.entries = .ok missingAboveNameless ∧
      (({ index := missingAboveNameless : Context }).requireAll ["A".toList]).2 = none ∧
      ∃ name ∈ ["A".toList], ∃ x, x ≠ [] ∧
        Relation.ReflTransGen missingAboveNameless.HasParent name x ∧
        ¬ missingAboveNameless.contains x := by
  have hok : ({ index := missingAboveNameless : Context }).requireAll ["A".toList] =
      ({ index := missingAboveNameless
         requested := ["A".toList]
         required := ["A".toList] }, none) := by cbv
  have hup : missingAboveNameless.HasParent "A".toList [] := by decide
  have hfrom : missingAboveNameless.HasParent [] "Ghost".toList := by decide
  exact ⟨by cbv, congrArg Prod.snd hok, _, List.mem_singleton.mpr rfl, "Ghost".toList, by decide,
    (Relation.ReflTransGen.single hup).tail hfrom, by decide⟩

end

end VocabBindings.Context
