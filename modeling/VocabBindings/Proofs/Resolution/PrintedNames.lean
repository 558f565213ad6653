import VocabBindings.Proofs.Module.Trait
import VocabBindings.Proofs.Resolution.Identifiers
import VocabBindings.Proofs.Text.Markup

/-!
Names from a document that are printed as they are. A trait prints the name of its class, the names
of the parents and the references of the properties without escapes, and all of them come from
identifiers of the document. Nothing keeps them inside the docstrings but that none of them ends
one. Then the code of the trait is made of its own name, its fields and their annotations.
-/

set_option autoImplicit false

namespace VocabBindings

namespace Module

theorem plain_withoutMarkup {t : Text} (h : Plain t) : Plain (Text.withoutMarkup t) :=
  ⟨fun hquote => h.1 (Text.mem_of_mem_withoutMarkup hquote),
    fun hescape => h.2 (Text.mem_of_mem_withoutMarkup hescape)⟩

theorem Plain.unbroken {t : Text} (h : Plain t) : Unbroken t :=
  unbroken_of_few_quotes fun hquotes => h.1 (hquotes.subset (by simp))

theorem Breaks.isInfix {t : Text} (h : Breaks t) : tripleQuote <:+: t := by
  obtain ⟨before, after, rfl, -⟩ := h
  exact ⟨before, after, rfl⟩

theorem Passes.not_breaks_append {t u : Text} (ht : Passes t) (hu : ¬ Breaks u) :
    ¬ Breaks (t ++ u) := by
  intro hbreaks
  have hpasses := ht.append (passes_append_singleton hu (by decide : '\n' ≠ '"') (by decide))
  rw [← List.append_assoc] at hpasses
  exact (hbreaks.append ['\n']).not_passes hpasses

theorem contained_of_names {seeUrl : Text} {c : ClassOutline} (hsee : Plain seeUrl)
    (h : ∀ name ∈ printedNames c, ¬ tripleQuote <:+: name) : Contained seeUrl c := by
  have hnames : ∀ name ∈ printedNames c, ¬ Breaks name := fun name hname hbreaks =>
    h name hname hbreaks.isInfix
  exact ⟨hsee.passes.not_breaks_append (forall_mem_printedNames.mp hnames).1, hnames⟩

end Module

theorem exists_entry_of_printedNames {namespaces : List Text} {document : Json}
    {entries : List Entry} (hentries : JsonLd.entries namespaces document = .ok entries)
    {c : Context} {m : TypeNaming} {names : List Text} (ha : Context.Answers ⟨entries⟩ names c)
    {outline : ClassOutline} (ho : outline ∈ (c.resolution m).classes) :
    ∀ name ∈ Module.printedNames outline, ∃ e ∈ entries, name <:+ e.uri := by
  have hread : ∀ e ∈ entries, e.uri ≠ [] ∧ e.id <:+ e.uri := by
    intro e he
    obtain ⟨node, -, hnamed, heq⟩ := JsonLd.exists_of_mem_entries hentries he
    have hread := JsonLd.readFrom_of_entry hnamed heq
    exact ⟨hread.uri_ne_nil, hread.id ▸ Name.localName_suffix namespaces e.uri⟩
  obtain ⟨e, he, hid, -, hparents⟩ := ha.exists_of_mem_classes ho
  refine Module.forall_mem_printedNames.mpr ⟨⟨e, he, hid ▸ (hread e he).2⟩, ?_, fun p hp => ?_⟩
  · intro name hname
    obtain ⟨parent, hp, rfl⟩ := hparents name hname
    exact ⟨parent, hp, (hread parent hp).2⟩
  · obtain ⟨property, hproperty, -, -, rfl⟩ := Context.exists_of_mem_properties ha.index_eq ho hp
    refine ⟨property, hproperty, ?_⟩
    rw [Context.attributeOf, if_neg (hread property hproperty).1]

section

open VocabBindings.Module

/-- A document whose descriptions hold neither a quote nor a backslash. A trait of a class in it is
read as it was written exactly if none of the names from the document ends a docstring, and then its
code is made of its own name, its fields and their annotations. Names do no harm if no identifier in
the document has three quotes in a row. -/
theorem code_of_resolveClasses {namespaces : List Text} {document : Json} {entries : List Entry}
    {schemas : List Text} {m naming : TypeNaming} {r : Resolution}
    (hentries : JsonLd.entries namespaces document = .ok entries)
    (hplain : ∀ e ∈ entries, Plain e.comment)
    (h : resolveClasses entries schemas m = .ok (r, naming)) (seeUrl : Text) :
    ∀ c ∈ r.classes,
      (∀ name ∈ printedNames c, ∃ e ∈ entries, name <:+ e.uri) ∧
      (parts false (traitModule seeUrl c) = written (traitPieces (seeUrl ++ c.name) c) ↔
        Contained seeUrl c) ∧
      (Contained seeUrl c →
        codeParts (parts false (traitModule seeUrl c)) = traitCode c.traitName (fields c)) ∧
      (Plain seeUrl → (∀ e ∈ entries, ¬ tripleQuote <:+: e.uri) → Contained seeUrl c) := by
  obtain ⟨index, c, hi, hc, rfl⟩ := exists_of_resolveClasses_eq_ok h
  obtain ⟨rfl, -⟩ := Index.ofEntries_eq_ok_iff.mp hi
  have ha := Context.answers_of_requireAll hc
  intro outline ho
  have hnames := exists_entry_of_printedNames hentries ha ho
  have hunbroken : AllUnbroken outline := by
    obtain ⟨e, he, -, hdescription, -⟩ := ha.exists_of_mem_classes ho
    refine ⟨hdescription ▸ (plain_withoutMarkup (hplain e he)).unbroken, fun p hp => ?_⟩
    obtain ⟨property, hproperty, -, -, rfl⟩ := Context.exists_of_mem_properties ha.index_eq ho hp
    exact (plain_withoutMarkup (hplain property hproperty)).unbroken
  have hread : parts false (traitModule seeUrl outline) =
      written (traitPieces (seeUrl ++ outline.name) outline) ↔ Contained seeUrl outline := by
    rw [parts_traitModule_eq_iff, and_iff_right hunbroken]
  refine ⟨hnames, hread, fun hcontained => ?_, fun hsee hquotes => ?_⟩
  · rw [hread.mpr hcontained, codeParts_written_traitPieces_eq]
  · refine contained_of_names hsee fun name hname hthree => ?_
    obtain ⟨e, he, hsuffix⟩ := hnames name hname
    exact hquotes e he (hthree.trans hsuffix.isInfix)

theorem code_of_resolveClasses_inches :
    let document := thingDocument "disc 5\"\"" [("rdfs:comment".toList, .text "<b>Size</b>".toList)]
    ∃ entries r naming, JsonLd.entries Name.vocabularyNamespaces document = .ok entries ∧
      resolveClasses entries [thing.id] {} = .ok (r, naming) ∧
      ∃ c ∈ r.classes,
        parts false (traitModule schemaUrl c) = written (traitPieces (schemaUrl ++ c.name) c) ∧
        codeParts (parts false (traitModule schemaUrl c)) =
          traitCode "ThingTrait".toList [("disc_5__".toList, "Any".toList)] := by
  intro document
  let e : Entry :=
    { id := "disc 5\"\"".toList, kind := .property, comment := "<b>Size</b>".toList
      domains := [thing.id], uri := "disc 5\"\"".toList }
  have hentries : JsonLd.entries Name.vocabularyNamespaces document = .ok [thing, e] := by rfl
  obtain ⟨r, naming, hr, hclasses⟩ := exists_resolveClasses_thing (e := e) (by decide) rfl rfl {}
  have hplain : ∀ entry ∈ [thing, e], Plain entry.comment := by decide
  have hquotes : ∀ entry ∈ [thing, e], ¬ tripleQuote <:+: entry.uri := by decide
  have hc : thingOutline {} e ∈ r.classes := hclasses ▸ List.mem_cons_self
  obtain ⟨-, hread, hcode, hcontained⟩ :=
    code_of_resolveClasses hentries hplain hr schemaUrl _ hc
  have hall := hcontained (by decide) hquotes
  exact ⟨_, r, naming, hentries, hr, _, hc, hread.mpr hall, hcode hall⟩

/-- A property whose identifier ends the docstring, goes on with an import, and starts another
docstring for what is left. -/
theorem exists_code_in_identifier :
    ∃ document entries r naming,
      JsonLd.entries Name.vocabularyNamespaces document = .ok entries ∧
      (∀ e ∈ entries, Plain e.comment) ∧
      resolveClasses entries [thing.id] {} = .ok (r, naming) ∧
      ∃ c ∈ r.classes,
        parts false (traitModule schemaUrl c) ≠ written (traitPieces (schemaUrl ++ c.name) c) ∧
        "; import os; ".toList ∈ codeParts (parts false (traitModule schemaUrl c)) := by
  let e : Entry :=
    { id := "p\"\"\"; import os; \"\"\"".toList, kind := .property, domains := [thing.id]
      uri := "p\"\"\"; import os; \"\"\"".toList }
  have hentries : JsonLd.entries Name.vocabularyNamespaces
      (thingDocument "p\"\"\"; import os; \"\"\"" []) = .ok [thing, e] := by
    rfl
  obtain ⟨r, naming, hr, hclasses⟩ := exists_resolveClasses_thing (e := e) (by decide) rfl rfl {}
  exact ⟨_, _, r, naming, hentries, by decide, hr, _, hclasses ▸ List.mem_cons_self,
    by decide +kernel, by decide +kernel⟩

end

end VocabBindings
