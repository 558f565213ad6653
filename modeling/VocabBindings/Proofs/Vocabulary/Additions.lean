import Mathlib.Data.Finset.Card
import Mathlib.Data.Finset.Dedup
import VocabBindings.Keyed
import VocabBindings.Proofs.Vocabulary.Acceptance

/-!
Additions one after the other. A refused addition changes nothing, and an entry is refused exactly
if it has another kind than the first entry with its identifier. So all accepted entries of an
identifier have one kind, the last of them is as good as any to compare with, and a table of the
last ones never differs from the list that the index looks them up in.
-/

set_option autoImplicit false

namespace VocabBindings

namespace Index

/-- The index after one addition. If the entry is refused, it stays as it was. -/
def afterAddition (index : Index) (e : Entry) : Index :=
  match index.add e with
  | .ok next => next
  | .error _ => index

def afterAdditions (entries : List Entry) : Index := entries.foldl afterAddition empty

def firstKind? (entries : List Entry) (id : Text) : Option Entry.Kind :=
  (entries.find? (·.id = id)).map Entry.kind

/-- The entries of a list that give their identifiers no other kinds than the first ones do. -/
def accepted (entries : List Entry) : List Entry :=
  entries.filter fun e => firstKind? entries e.id = some e.kind

/-- An index in two stores: the entries in order, and a table of the last one of each identifier. -/
structure Tabled where
  entries : List Entry := []
  table : List (Text × Entry) := []

namespace Tabled

def add (t : Tabled) (e : Entry) : Tabled × Option KindConflict :=
  match Keyed.get? e.id t.table with
  | some existing =>
    if existing.kind = e.kind then (⟨t.entries ++ [e], Keyed.put e.id e t.table⟩, none)
    else (t, some ⟨e.id, existing.kind, e.kind⟩)
  | none => (⟨t.entries ++ [e], Keyed.put e.id e t.table⟩, none)

def afterAdditions (entries : List Entry) : Tabled :=
  entries.foldl (fun t e => (t.add e).1) {}

structure Represents (t : Tabled) (index : Index) : Prop where
  entries : t.entries = index.entries
  get? : ∀ id, Keyed.get? id t.table = index.get? id
  keys : Keyed.keys t.table = (index.entries.map Entry.id).eraseDups

end Tabled

/-- What an index that holds some entries answers. -/
structure Holds (index : Index) (held : List Entry) : Prop where
  entries : index.entries = held
  get?_eq_some_iff : ∀ id e, index.get? id = some e ↔ e.id = id ∧
    ∃ before after, held = before ++ e :: after ∧ ∀ later ∈ after, later.id ≠ id
  contains_iff : ∀ id, index.contains id ↔ id ∈ held.map Entry.id
  size : index.size = (held.map Entry.id).toFinset.card
  properties : index.properties = held.filter (·.kind = .property)
  schemas : index.schemas = held.filter (·.kind = .schema)
  apart : ∀ p ∈ index.properties, ∀ s ∈ index.schemas, p.id ≠ s.id

section

variable {index : Index} {entries : List Entry} {e : Entry}

theorem add_cases (h : KindsAgree index.entries) (e : Entry) :
    (∃ a ∈ index.entries, a.id = e.id ∧ a.kind ≠ e.kind ∧
        index.add e = .error ⟨e.id, a.kind, e.kind⟩) ∨
      (∀ a ∈ index.entries, a.id = e.id → a.kind = e.kind) ∧
        index.add e = .ok ⟨index.entries ++ [e]⟩ := by
  cases hadd : index.add e with
  | ok next =>
    obtain ⟨rfl, hkinds⟩ := (add_eq_ok_iff h).mp hadd
    exact .inr ⟨hkinds, rfl⟩
  | error refusal =>
    left
    unfold add at hadd
    cases hget : index.get? e.id with
    | none => simp [hget] at hadd
    | some existing =>
      obtain ⟨hmem, hid⟩ := get?_mem hget
      by_cases hkind : existing.kind = e.kind
      · simp [hget, hkind] at hadd
      · simp only [hget, hkind, if_false, Except.error.injEq] at hadd
        exact ⟨existing, hmem, hid, hkind, by rw [hadd]⟩

theorem add_eq_error_iff (h : KindsAgree index.entries) {refusal : KindConflict} :
    index.add e = .error refusal ↔ ∃ a ∈ index.entries, a.id = e.id ∧ a.kind ≠ e.kind ∧
      refusal = ⟨e.id, a.kind, e.kind⟩ := by
  rcases add_cases h e with ⟨a, ha, hid, hne, hadd⟩ | ⟨hall, hadd⟩
  · rw [hadd, Except.error.injEq]
    constructor
    · exact fun heq => ⟨a, ha, hid, hne, heq.symm⟩
    · intro ⟨b, hb, hbid, _, heq⟩
      rw [heq, h a ha b hb (hid.trans hbid.symm)]
  · rw [hadd]
    simp only [reduceCtorEq, false_iff]
    exact fun ⟨a, ha, hid, hne, _⟩ => hne (hall a ha hid)

/-! The accepted entries. -/

theorem firstKind?_append (before after : List Entry) (id : Text) :
    firstKind? (before ++ after) id = (firstKind? before id).or (firstKind? after id) := by
  rw [firstKind?, List.find?_append, firstKind?, firstKind?]
  cases before.find? (·.id = id) <;> rfl

theorem firstKind?_eq_none_iff {id : Text} :
    firstKind? entries id = none ↔ ∀ a ∈ entries, a.id ≠ id := by
  simp [firstKind?]

theorem mem_accepted_iff :
    e ∈ accepted entries ↔ e ∈ entries ∧ firstKind? entries e.id = some e.kind := by
  simp [accepted]

theorem kindsAgree_accepted (entries : List Entry) : KindsAgree (accepted entries) := by
  intro a ha b hb hid
  have hkind := (mem_accepted_iff.mp ha).2
  rw [hid, (mem_accepted_iff.mp hb).2] at hkind
  exact (Option.some.inj hkind).symm

theorem firstKind?_eq_some_iff {id : Text} {kind : Entry.Kind} :
    firstKind? entries id = some kind ↔ ∃ a ∈ accepted entries, a.id = id ∧ a.kind = kind := by
  constructor
  · intro h
    obtain ⟨a, ha, rfl⟩ := Option.map_eq_some_iff.mp h
    have hid : a.id = id := by simpa using List.find?_some ha
    subst hid
    exact ⟨a, mem_accepted_iff.mpr ⟨List.mem_of_find?_eq_some ha, h⟩, rfl, rfl⟩
  · intro ⟨a, ha, hid, hkind⟩
    rw [← hid, ← hkind]
    exact (mem_accepted_iff.mp ha).2

theorem accepted_concat (entries : List Entry) (e : Entry) :
    accepted (entries ++ [e]) =
      accepted entries ++ if firstKind? (entries ++ [e]) e.id = some e.kind then [e] else [] := by
  have hheld : ∀ a ∈ entries, firstKind? (entries ++ [e]) a.id = firstKind? entries a.id := by
    intro a ha
    rw [firstKind?_append]
    cases hfirst : firstKind? entries a.id with
    | none => exact absurd rfl (firstKind?_eq_none_iff.mp hfirst a ha)
    | some kind => rfl
  rw [accepted, List.filter_append, accepted]
  congr 1
  · exact List.filter_congr fun a ha => by rw [hheld a ha]
  · simp [List.filter_cons]

/-- An entry is left out exactly if an accepted one has its identifier and another kind. -/
theorem firstKind?_concat_eq_iff :
    firstKind? (entries ++ [e]) e.id = some e.kind ↔
      ∀ a ∈ accepted entries, a.id = e.id → a.kind = e.kind := by
  have hown : firstKind? [e] e.id = some e.kind := by simp [firstKind?]
  rw [firstKind?_append, hown]
  cases hfirst : firstKind? entries e.id with
  | none =>
    have hnone := firstKind?_eq_none_iff.mp hfirst
    simp only [Option.none_or, true_iff]
    exact fun a ha hid => absurd hid (hnone a (mem_accepted_iff.mp ha).1)
  | some kind =>
    obtain ⟨first, hmem, hid, rfl⟩ := firstKind?_eq_some_iff.mp hfirst
    simp only [Option.some_or, Option.some.injEq]
    constructor
    · intro hkind a ha haid
      rw [← hkind]
      exact kindsAgree_accepted entries a ha first hmem (haid.trans hid.symm)
    · exact fun hall => hall first hmem hid

theorem entries_afterAddition (h : index.entries = accepted entries) (e : Entry) :
    (index.afterAddition e).entries = accepted (entries ++ [e]) := by
  have hkinds : KindsAgree index.entries := h ▸ kindsAgree_accepted entries
  rw [accepted_concat, afterAddition]
  rcases add_cases hkinds e with ⟨a, ha, hid, hne, hadd⟩ | ⟨hall, hadd⟩
  · have hout : ¬ firstKind? (entries ++ [e]) e.id = some e.kind :=
      fun hin => hne (firstKind?_concat_eq_iff.mp hin a (h ▸ ha) hid)
    simp [hadd, h, hout]
  · have hin : firstKind? (entries ++ [e]) e.id = some e.kind :=
      firstKind?_concat_eq_iff.mpr (h ▸ hall)
    simp [hadd, h, hin]

theorem afterAdditions_concat (entries : List Entry) (e : Entry) :
    afterAdditions (entries ++ [e]) = (afterAdditions entries).afterAddition e := by
  simp [afterAdditions]

theorem entries_afterAdditions (entries : List Entry) :
    (afterAdditions entries).entries = accepted entries := by
  induction entries using List.reverseRecOn with
  | nil => rfl
  | append_singleton entries e ih =>
    rw [afterAdditions_concat]
    exact entries_afterAddition ih e

theorem accepted_of_kindsAgree (h : KindsAgree entries) : accepted entries = entries := by
  rw [accepted, List.filter_eq_self]
  intro e he
  cases hfirst : firstKind? entries e.id with
  | none => exact absurd rfl (firstKind?_eq_none_iff.mp hfirst e he)
  | some kind =>
    obtain ⟨a, ha, hid, rfl⟩ := firstKind?_eq_some_iff.mp hfirst
    simpa using h a (mem_accepted_iff.mp ha).1 e he hid

/-! Answers of an index whose kinds agree. -/

theorem get?_eq_some_iff_append {id : Text} :
    index.get? id = some e ↔ e.id = id ∧
      ∃ before after, index.entries = before ++ e :: after ∧ ∀ later ∈ after, later.id ≠ id := by
  rw [get?, List.find?_eq_some_iff_append, decide_eq_true_eq]
  refine and_congr_right fun _ => ?_
  constructor
  · intro h
    obtain ⟨after, before, hsplit, hafter⟩ := h
    refine ⟨before.reverse, after.reverse, ?_, by simpa using hafter⟩
    simpa using congrArg List.reverse hsplit
  · intro h
    obtain ⟨before, after, hsplit, hafter⟩ := h
    exact ⟨after.reverse, before.reverse, by simp [hsplit], by simpa using hafter⟩

theorem contains_iff {id : Text} : index.contains id ↔ id ∈ index.entries.map Entry.id := by
  rw [contains, Option.isSome_iff_ne_none, ne_eq, get?_eq_none_iff]
  simp

theorem size_eq (index : Index) : index.size = (index.entries.map Entry.id).toFinset.card := by
  have hids : (index.entries.map Entry.id).eraseDups.toFinset =
      (index.entries.map Entry.id).toFinset := by
    ext id
    simp
  rw [← hids, List.toFinset_card_of_nodup (Keyed.nodup_eraseDups _), size]

theorem holds_of_kindsAgree (h : KindsAgree index.entries) : index.Holds index.entries := by
  refine ⟨rfl, fun _ _ => get?_eq_some_iff_append, fun _ => contains_iff, size_eq index, rfl, rfl,
    fun p hp s hs hid => ?_⟩
  obtain ⟨hp, hproperty⟩ := List.mem_filter.mp hp
  obtain ⟨hs, hschema⟩ := List.mem_filter.mp hs
  have hkind := h p hp s hs hid
  rw [of_decide_eq_true hproperty, of_decide_eq_true hschema] at hkind
  cases hkind

/-! The two stores. -/

namespace Tabled

variable {t : Tabled}

theorem represents_add (h : t.Represents index) (e : Entry) :
    (t.add e).1.Represents (index.afterAddition e) := by
  have hadded : (⟨t.entries ++ [e], Keyed.put e.id e t.table⟩ : Tabled).Represents
      ⟨index.entries ++ [e]⟩ := by
    refine ⟨by rw [h.entries], fun id => ?_, ?_⟩
    · rw [Keyed.get?_put, h.get?, get?_append]
      by_cases hid : e.id = id <;> simp [get?, hid]
    · rw [Keyed.keys_put, h.keys, List.map_append, List.map_singleton, List.eraseDups_append]
      generalize index.entries.map Entry.id = ids
      by_cases hmem : e.id ∈ ids <;> simp [hmem, List.removeAll, List.eraseDups_cons]
  rw [add, h.get?, afterAddition, Index.add]
  cases index.get? e.id with
  | none => exact hadded
  | some existing =>
    by_cases hkind : existing.kind = e.kind
    · simpa [hkind] using hadded
    · simpa [hkind] using h

theorem refused_add_iff (h : t.Represents index) (e : Entry) (refusal : KindConflict) :
    (t.add e).2 = some refusal ↔ index.add e = .error refusal := by
  rw [add, h.get?, Index.add]
  cases index.get? e.id with
  | none => simp
  | some existing => by_cases hkind : existing.kind = e.kind <;> simp [hkind]

theorem represents_afterAdditions (entries : List Entry) :
    (afterAdditions entries).Represents (Index.afterAdditions entries) := by
  induction entries using List.reverseRecOn with
  | nil => exact ⟨rfl, fun _ => rfl, rfl⟩
  | append_singleton entries e ih =>
    rw [afterAdditions, List.foldl_append, ← afterAdditions, Index.afterAdditions_concat]
    exact represents_add ih e

end Tabled

/-! Whole lists. -/

theorem exists_ofEntries_error_iff :
    (∃ refusal, ofEntries entries = .error refusal) ↔
      ∃ a ∈ entries, ∃ b ∈ entries, a.id = b.id ∧ a.kind ≠ b.kind := by
  have hok : (∃ built, ofEntries entries = .ok built) ↔ KindsAgree entries :=
    ⟨fun ⟨_, h⟩ => (ofEntries_eq_ok_iff.mp h).2, fun h => ⟨_, ofEntries_eq_ok_iff.mpr ⟨rfl, h⟩⟩⟩
  have hnot : (∃ refusal, ofEntries entries = .error refusal) ↔ ¬ KindsAgree entries := by
    rw [← hok]
    cases ofEntries entries <;> simp
  rw [hnot]
  simp [KindsAgree]

end

/-- After additions in any number the index holds the accepted entries, and so do a list and a table
that are kept beside each other. One more addition is refused exactly if an accepted entry has its
identifier and another kind, and changes nothing then. A list of entries is refused exactly if two
of them give one identifier different kinds, in whatever order they stand. -/
theorem holds_afterAdditions (entries : List Entry) (e : Entry) :
    let index := afterAdditions entries
    let tabled := Tabled.afterAdditions entries
    index.Holds (accepted entries) ∧
      (∀ refusal, index.add e = .error refusal ↔
        ∃ a ∈ accepted entries, a.id = e.id ∧ a.kind ≠ e.kind ∧
          refusal = ⟨e.id, a.kind, e.kind⟩) ∧
      (∀ refusal, index.add e = .error refusal →
        afterAdditions (entries ++ [e]) = index ∧ accepted (entries ++ [e]) = accepted entries) ∧
      (∀ next, index.add e = .ok next →
        afterAdditions (entries ++ [e]) = next ∧
          accepted (entries ++ [e]) = accepted entries ++ [e]) ∧
      tabled.Represents index ∧
      (∀ refusal, (tabled.add e).2 = some refusal ↔ index.add e = .error refusal) ∧
      ∀ order : List Entry, order.Perm entries →
        ((∃ refusal, ofEntries order = .error refusal) ↔
          ∃ a ∈ entries, ∃ b ∈ entries, a.id = b.id ∧ a.kind ≠ b.kind) ∧
        ∀ built, ofEntries order = .ok built → built = afterAdditions order := by
  intro index tabled
  have hentries : index.entries = accepted entries := entries_afterAdditions entries
  have hkinds : KindsAgree index.entries := hentries ▸ kindsAgree_accepted entries
  have hnext : afterAdditions (entries ++ [e]) = index.afterAddition e :=
    afterAdditions_concat entries e
  have haccepted : accepted (entries ++ [e]) = (index.afterAddition e).entries :=
    (entries_afterAddition hentries e).symm
  have hrepresents : tabled.Represents index := Tabled.represents_afterAdditions entries
  refine ⟨hentries ▸ holds_of_kindsAgree hkinds, fun refusal => ?_, fun refusal h => ?_,
    fun next h => ?_, hrepresents, Tabled.refused_add_iff hrepresents e,
    fun order horder => ⟨?_, fun built hbuilt => ?_⟩⟩
  · rw [← hentries]
    exact add_eq_error_iff hkinds
  · have hsame : index.afterAddition e = index := by rw [afterAddition, h]
    exact ⟨hnext.trans hsame, by rw [haccepted, hsame, hentries]⟩
  · have hsame : index.afterAddition e = next := by rw [afterAddition, h]
    obtain ⟨rfl, -⟩ := (add_eq_ok_iff hkinds).mp h
    exact ⟨hnext.trans hsame, by rw [haccepted, hsame, hentries]⟩
  · rw [exists_ofEntries_error_iff]
    simp only [horder.mem_iff]
  · obtain ⟨rfl, hagree⟩ := ofEntries_eq_ok_iff.mp hbuilt
    have hall : order = (afterAdditions order).entries := by
      rw [entries_afterAdditions, accepted_of_kindsAgree hagree]
    exact congrArg Index.mk hall

def reclaimed : List Entry :=
  [{ id := "Thing".toList, kind := .schema }, { id := "Thing".toList, kind := .property },
    { id := "name".toList, kind := .property },
    { id := "Thing".toList, kind := .schema, comment := "Anything.".toList }]

theorem holds_afterAdditions_reclaimed :
    let index := afterAdditions reclaimed
    let thing : Entry := { id := "Thing".toList, kind := .schema, comment := "Anything.".toList }
    index.get? "Thing".toList = some thing ∧ index.size = 2 ∧
      index.add { id := "Thing".toList, kind := .other } =
        .error ⟨"Thing".toList, .schema, .other⟩ ∧
      afterAdditions (reclaimed ++ [{ id := "Thing".toList, kind := .other }]) = index ∧
      ∃ refusal, ofEntries reclaimed.reverse = .error refusal := by
  intro index thing
  obtain ⟨hholds, hrefused, hsame, -, -, -, horder⟩ :=
    holds_afterAdditions reclaimed { id := "Thing".toList, kind := .other }
  have hrefusal := (hrefused ⟨"Thing".toList, .schema, .other⟩).mpr
    ⟨thing, by decide, rfl, by decide, rfl⟩
  refine ⟨?_, ?_, hrefusal, (hsame _ hrefusal).1, ?_⟩
  · exact (hholds.get?_eq_some_iff _ _).mpr ⟨rfl, (accepted reclaimed).take 2, [], by decide, by decide⟩
  · rw [hholds.size]
    decide
  · exact (horder _ (List.reverse_perm _)).1.mpr
      ⟨_, List.mem_cons_self, _, List.mem_cons_of_mem _ List.mem_cons_self, rfl, by decide⟩

end Index

end VocabBindings
