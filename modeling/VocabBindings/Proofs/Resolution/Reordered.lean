import VocabBindings.Proofs.Resolution.Replaced

/-!
Entries in another order. If no identifier is declared twice and no class has two properties with
one label, then a resolution is the same for every order of the entries, the order of the properties
of a class aside: entries are looked up by their identifiers, every label is stored once, and
suggestions are a set.
-/

set_option autoImplicit false

namespace VocabBindings

namespace Keyed

variable {κ α : Type} [DecidableEq κ] {pairs others : List (κ × α)}

theorem mem_ofList_iff (hkeys : (pairs.map Prod.fst).Nodup) {p : κ × α} :
    p ∈ ofList pairs ↔ p ∈ pairs := by
  refine ⟨mem_of_mem_ofList, fun hp => mem_ofList hp fun other ho => ?_⟩
  exact congrArg Prod.snd (List.inj_on_of_nodup_map hkeys ho hp rfl)

theorem ofList_perm (h : others.Perm pairs) (hkeys : (pairs.map Prod.fst).Nodup) :
    (ofList others).Perm (ofList pairs) := by
  have hothers : (others.map Prod.fst).Nodup := (h.map Prod.fst).nodup_iff.mpr hkeys
  rw [List.perm_ext_iff_of_nodup (nodup_keys_ofList others).of_map (nodup_keys_ofList pairs).of_map]
  intro p
  rw [mem_ofList_iff hothers, mem_ofList_iff hkeys, h.mem_iff]

end Keyed

theorem NameSet.insertAll_congr {s : NameSet} {names others : List Text}
    (h : ∀ name, name ∈ names ↔ name ∈ others) : s.insertAll names = s.insertAll others :=
  eq_of_mem_iff fun name => by rw [mem_names_insertAll, mem_names_insertAll, h]

namespace Index

variable {entries others : List Entry}

def LabelsDiffer (entries : List Entry) : Prop :=
  entries.Pairwise fun a b => a.kind = .property → b.kind = .property →
    (∃ name ∈ a.domains, name ∈ b.domains) → Context.labelOf a ≠ Context.labelOf b

instance (entries : List Entry) : Decidable (LabelsDiffer entries) :=
  inferInstanceAs (Decidable (List.Pairwise _ _))

theorem get?_eq_some_iff {index : Index} (hids : (index.entries.map Entry.id).Nodup) {id : Text}
    {e : Entry} : index.get? id = some e ↔ e ∈ index.entries ∧ e.id = id := by
  refine ⟨get?_mem, ?_⟩
  rintro ⟨he, rfl⟩
  cases hg : index.get? e.id with
  | none => exact absurd rfl (get?_eq_none_iff.mp hg e he)
  | some found =>
    obtain ⟨hf, hid⟩ := get?_mem hg
    rw [List.inj_on_of_nodup_map hids hf he hid]

theorem get?_of_perm (h : others.Perm entries) (hids : (entries.map Entry.id).Nodup) :
    (⟨others⟩ : Index).get? = (⟨entries⟩ : Index).get? := by
  have hothers : (others.map Entry.id).Nodup := (h.map Entry.id).nodup_iff.mpr hids
  funext id
  ext e
  rw [get?_eq_some_iff hothers, get?_eq_some_iff hids, h.mem_iff]

theorem ofEntries_of_nodup (hids : (entries.map Entry.id).Nodup) :
    ofEntries entries = .ok ⟨entries⟩ := by
  refine ofEntries_eq_ok_iff.mpr ⟨rfl, fun a ha b hb hid => ?_⟩
  rw [List.inj_on_of_nodup_map hids ha hb hid]

theorem nodup_labels_declarations (h : LabelsDiffer entries) (name : Text) :
    (((⟨entries⟩ : Index).declarations name).map Context.labelOf).Nodup := by
  rw [declarations_eq, List.Nodup, List.pairwise_map]
  refine (h.filter _).imp_of_mem fun ha hb hdiffer => ?_
  obtain ⟨-, ha⟩ := List.mem_filter.mp ha
  obtain ⟨-, hb⟩ := List.mem_filter.mp hb
  simp only [decide_eq_true_eq] at ha hb
  exact hdiffer ha.1 hb.1 ⟨name, ha.2, hb.2⟩

theorem declared_of_perm (h : others.Perm entries) (hlabels : LabelsDiffer entries) (m : TypeNaming)
    (name : Text) :
    ((⟨entries⟩ : Index).declared m name).Perm ((⟨others⟩ : Index).declared m name) := by
  have hdeclarations : ((⟨others⟩ : Index).declarations name).Perm
      ((⟨entries⟩ : Index).declarations name) := by
    rw [declarations_eq, declarations_eq]
    exact h.filter _
  refine (Keyed.ofList_perm (hdeclarations.map _) ?_).symm
  rw [List.map_map]
  exact nodup_labels_declarations hlabels name

end Index

namespace Context

variable {c : Context} {m : TypeNaming} {entries others : List Entry}

theorem suggest_gatheredTypes_of_perm (h : others.Perm entries) (hc : c.index = ⟨entries⟩) :
    m.suggest ({ c with index := ⟨others⟩ }).gatheredTypes = m.suggest c.gatheredTypes := by
  have htypes : ∀ type, type ∈ ({ c with index := ⟨others⟩ }).gatheredTypes ↔
      type ∈ c.gatheredTypes := by
    intro type
    simp only [mem_gatheredTypes, Index.properties, hc, List.mem_filter, h.mem_iff]
  have hreferenced : ∀ type, type ∈ m.referenced ({ c with index := ⟨others⟩ }).gatheredTypes ↔
      type ∈ m.referenced c.gatheredTypes := by
    intro type
    simp only [TypeNaming.referenced, List.mem_filter, htypes]
  rw [TypeNaming.suggest, TypeNaming.suggest, NameSet.insertAll_congr hreferenced]

theorem alike_of_perm (h : others.Perm entries) (hids : (entries.map Entry.id).Nodup)
    (hlabels : Index.LabelsDiffer entries) (hc : c.index = ⟨entries⟩) :
    (c.resolution m).Alike (({ c with index := ⟨others⟩ }).resolution m) := by
  have hget : (⟨others⟩ : Index).get? = c.index.get? := by rw [hc, Index.get?_of_perm h hids]
  refine ⟨?_, rfl, ?_⟩
  · rw [classes_resolution_eq, classes_resolution_congr hget, List.forall₂_map_left_iff,
      List.forall₂_map_right_iff, List.forall₂_same]
    intro p _
    exact ⟨rfl, hc ▸ Index.declared_of_perm h hlabels m p.1⟩
  · rw [resolution, resolution, suggest_gatheredTypes_of_perm h hc]

end Context

/-- If identifiers are not repeated and no class has two properties with one label, the order of the
entries makes no difference: the same class is missing, or the resolutions are the same, the order
of properties aside. Every label has one property in a class, so that order is all that can differ.
The naming comes back with the same suggestions. -/
theorem resolveClasses_of_perm {entries others : List Entry} (h : others.Perm entries)
    (hids : (entries.map Entry.id).Nodup) (hlabels : Index.LabelsDiffer entries)
    (schemas : List Text) (m : TypeNaming) :
    (∃ missing, resolveClasses entries schemas m = .error (.missing missing) ∧
        resolveClasses others schemas m = .error (.missing missing)) ∨
      ∃ r s naming, resolveClasses entries schemas m = .ok (r, naming) ∧
        resolveClasses others schemas m = .ok (s, naming) ∧ r.Alike s ∧
        ∀ outline ∈ r.classes, (Keyed.keys outline.properties).Nodup := by
  have hothers : (others.map Entry.id).Nodup := (h.map Entry.id).nodup_iff.mpr hids
  have hi := Index.ofEntries_of_nodup hids
  have hj := Index.ofEntries_of_nodup hothers
  have hget := Index.get?_of_perm h hids
  have hrun := Context.requireAll_congr (c := { index := ⟨entries⟩ }) hget.symm schemas
  rcases hc : ({ index := ⟨entries⟩ : Context }).requireAll schemas with ⟨c, _ | missing⟩
  · rw [hc] at hrun
    have hindex := (Context.answers_of_requireAll hc).index_eq
    refine .inr ⟨_, _, _, resolveClasses_eq_ok hi hc, ?_,
      Context.alike_of_perm h hids hlabels hindex, ?_⟩
    · rw [resolveClasses_eq_ok hj hrun, Context.suggest_gatheredTypes_of_perm h hindex]
    · intro outline ho
      obtain ⟨name, -, ho⟩ := Context.mem_classes_resolution.mp ho
      obtain ⟨e, -, rfl⟩ := Option.map_eq_some_iff.mp ho
      exact Keyed.nodup_keys_ofList _
  · rw [hc] at hrun
    refine .inl ⟨missing, ?_, ?_⟩
    · rw [resolveClasses_eq, hi]
      simp only [hc]
    · rw [resolveClasses_eq, hj]
      simp only [show ({ index := ⟨others⟩ : Context }).requireAll schemas = _ from hrun]

def authored : List Entry :=
  [Context.bareClass "Book" ["Work"], bareProperty "title" ["Work", "Book"] ["Text"],
    Context.bareClass "Work" [], bareProperty "author" ["Book"] ["Person"]]

theorem resolveClasses_of_perm_authored :
    authored.reverse.Perm authored ∧ (authored.map Entry.id).Nodup ∧
      Index.LabelsDiffer authored ∧
      ∃ r s naming, resolveClasses authored ["Book".toList] {} = .ok (r, naming) ∧
        resolveClasses authored.reverse ["Book".toList] {} = .ok (s, naming) ∧ r.Alike s ∧
        (r.classes.map fun c => Keyed.keys c.properties) =
          [["title", "author"].map String.toList, ["title"].map String.toList] ∧
        (s.classes.map fun c => Keyed.keys c.properties) =
          [["author", "title"].map String.toList, ["title"].map String.toList] := by
  let c : Context :=
    { index := ⟨authored⟩
      requested := ["Book".toList]
      required := ["Book", "Work"].map String.toList }
  let d : Context := { c with index := ⟨authored.reverse⟩ }
  have hperm : authored.reverse.Perm authored := authored.reverse_perm
  have hids : (authored.map Entry.id).Nodup := by decide
  have hlabels : Index.LabelsDiffer authored := by decide
  have hc : ({ index := ⟨authored⟩ : Context }).requireAll ["Book".toList] = (c, none) := by cbv
  have hd : ({ index := ⟨authored.reverse⟩ : Context }).requireAll ["Book".toList] = (d, none) := by
    cbv
  have hr := resolveClasses_eq_ok (m := {}) (Index.ofEntries_of_nodup hids) hc
  have hs := resolveClasses_eq_ok (m := {})
    (Index.ofEntries_of_nodup ((hperm.map _).nodup_iff.mpr hids)) hd
  rcases resolveClasses_of_perm hperm hids hlabels ["Book".toList] {} with
    ⟨_, hfailed, -⟩ | ⟨r, s, naming, hr', hs', halike, -⟩
  · rw [hr] at hfailed
    cases hfailed
  · obtain ⟨rfl, rfl⟩ := Prod.mk.inj (Except.ok.inj (hr.symm.trans hr'))
    obtain ⟨rfl, -⟩ := Prod.mk.inj (Except.ok.inj (hs.symm.trans hs'))
    exact ⟨hperm, hids, hlabels, _, _, _, hr, hs', halike, by decide, by decide⟩

end VocabBindings
