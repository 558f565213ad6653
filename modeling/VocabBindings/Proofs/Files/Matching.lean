import VocabBindings.Files.Pattern
import VocabBindings.Proofs.Files.Making

/-!
Patterns. A star before fixed characters is found by every name that ends with these characters. A
pattern in a folder whose own path holds no pattern is found only in that folder.
-/

set_option autoImplicit false

namespace VocabBindings.Files

theorem mem_endsOf_iff {t tail : Text} : tail ∈ endsOf t ↔ tail <:+ t := by
  induction t with
  | nil => simp [endsOf]
  | cons c rest ih => rw [endsOf, List.mem_cons, List.suffix_cons_iff, ih]

theorem fits_exactly_iff {fixed t : Text} : fits (fixed.map .exactly) t = true ↔ t = fixed := by
  induction fixed generalizing t with
  | nil => simp [fits]
  | cons a fixed ih =>
    cases t with
    | nil => simp [fits]
    | cons c t =>
      simp only [List.map_cons, fits, Bool.and_eq_true, decide_eq_true_eq, ih, List.cons.injEq]
      rw [@eq_comm _ a c]

theorem fits_run_iff {fixed t : Text} :
    fits (.run :: fixed.map .exactly) t = true ↔ fixed <:+ t := by
  rw [fits, List.any_eq_true]
  constructor
  · rintro ⟨tail, htail, hfits⟩
    rw [← fits_exactly_iff.mp hfits]
    exact mem_endsOf_iff.mp htail
  · intro hsuffix
    exact ⟨fixed, mem_endsOf_iff.mpr hsuffix, fits_exactly_iff.mpr rfl⟩

theorem isPattern_append (t u : Text) : isPattern (t ++ u) = (isPattern t || isPattern u) :=
  List.any_append

theorem isPattern_of_subset {t u : Text} (hsub : t ⊆ u) (h : isPattern u = false) :
    isPattern t = false := by
  rw [isPattern, List.any_eq_false] at h ⊢
  exact fun c hc => h c (hsub hc)

def shown (folder : Text) : Text :=
  if folder.all (· = '/') then folder else withoutEndSlashes folder

theorem withoutEndSlashes_concat (t : Text) :
    withoutEndSlashes (t ++ ['/']) = withoutEndSlashes t := by
  simp [withoutEndSlashes]

theorem namesOf_shown (folder : Text) : namesOf (shown folder) = namesOf folder := by
  rw [shown]
  split
  · rfl
  · exact namesOf_withoutEndSlashes folder

theorem splitPattern_append {lead name : Text} (hlead : isPattern lead = false)
    (hname : isPattern name = true) (hslash : '/' ∉ name) :
    splitPattern (lead ++ '/' :: name) = (shown (lead ++ ['/']), [name]) := by
  have hne : name ≠ [] := by
    rintro rfl
    simp [isPattern] at hname
  have hpieces : Text.pieces '/' (lead ++ '/' :: name) = Text.pieces '/' lead ++ [name] := by
    rw [Text.pieces_append_cons, Text.pieces_of_not_mem hslash]
  have hplain : (Text.pieces '/' lead ++ [name]).takeWhile (fun n => !isPattern n) =
      Text.pieces '/' lead := by
    rw [List.takeWhile_append_of_pos]
    · simp [hname]
    · intro piece hpiece
      have := isPattern_of_subset (Text.subset_of_mem_pieces hpiece) hlead
      simp [this]
  have hbehind : [name].filter (fun n => decide (n ≠ [])) = [name] := by simp [hne]
  simp only [splitPattern, hpieces, hplain, Text.joined_pieces, List.drop_left, hbehind]
  simp only [ne_eq, Text.pieces_ne_nil, not_false_eq_true, decide_true, Bool.true_and, shown,
    List.all_append, List.all_cons, List.all_nil, Bool.and_true, withoutEndSlashes_concat]

theorem splitPattern_join {folder name : Text} (hfolder : isPattern folder = false)
    (hname : isPattern name = true) (hslash : '/' ∉ name) :
    splitPattern (join folder name) = (shown folder, [name]) := by
  have hhead : name.head? ≠ some '/' := fun h => hslash (List.mem_of_mem_head? h)
  rw [join, if_neg hhead]
  split
  · rename_i hends
    simp only [Bool.or_eq_true, decide_eq_true_eq] at hends
    rcases hends with rfl | hends
    · have hne : name ≠ [] := by
        rintro rfl
        simp [isPattern] at hname
      have hstart : splitPattern name = (withoutEndSlashes [], [name]) := by
        simp [splitPattern, Text.pieces_of_not_mem hslash, hname, hne, Text.joined]
      exact hstart
    · obtain ⟨lead, rfl⟩ := List.getLast?_eq_some_iff.mp hends
      have hlead := isPattern_of_subset (List.subset_append_left lead ['/']) hfolder
      simpa using splitPattern_append hlead hname hslash
  · rename_i hends
    have hall : folder.all (· = '/') = false := by
      rw [List.all_eq_false]
      simp only [Bool.or_eq_true, decide_eq_true_eq, not_or] at hends
      refine ⟨folder.getLast hends.1, List.getLast_mem hends.1, ?_⟩
      simpa [List.getLast?_eq_some_getLast hends.1] using hends.2
    rw [splitPattern_append hfolder hname hslash, shown, shown, List.all_append, hall,
      Bool.false_and, withoutEndSlashes_concat]
    rfl

/-! What a star before fixed characters finds. -/

theorem patternFrom_of_not_isPattern {t : Text} (h : isPattern t = false) :
    patternFrom 0 t = t.map .exactly := by
  induction t with
  | nil => rfl
  | cons c t ih =>
    rw [isPattern, List.any_cons, Bool.or_eq_false_iff] at h
    have hc : c ≠ '*' ∧ c ≠ '?' ∧ c ≠ '[' := by simpa [and_assoc] using h.1
    rw [patternFrom, if_neg hc.1, if_neg hc.2.1, if_neg hc.2.2, ih h.2, List.map_cons]

theorem length_encode_le {t u : Text} (h : t <+: u) :
    (Text.encode t).length ≤ (Text.encode u).length := by
  obtain ⟨rest, rfl⟩ := h
  simp [Text.encode]

theorem prefix_shown (folder : Text) : shown folder <+: folder := by
  rw [shown]
  split
  · exact List.prefix_rfl
  · obtain ⟨n, hn⟩ := exists_eq_withoutEndSlashes_append folder
    exact ⟨_, hn.symm⟩

theorem join_injective {folder a b : Text} (ha : '/' ∉ a) (hb : '/' ∉ b)
    (h : join folder a = join folder b) : a = b := by
  have hheads : a.head? ≠ some '/' ∧ b.head? ≠ some '/' :=
    ⟨fun h => ha (List.mem_of_mem_head? h), fun h => hb (List.mem_of_mem_head? h)⟩
  rw [join, join, if_neg hheads.1, if_neg hheads.2] at h
  split at h
  · exact List.append_cancel_left h
  · exact (List.cons.inj (List.append_cancel_left h)).2

namespace Tree

variable {t : Tree} {folder fixed : Text}

/-- A folder that is there and whose path can be looked up and is no pattern. -/
structure Searchable (t : Tree) (folder : Text) : Prop where
  plain : isPattern folder = false
  noNull : '\x00' ∉ folder
  short : (Text.encode folder).length < pathLimit
  walk : t.walk [] (Text.pieces '/' folder) = .ok (placeOf folder)

theorem contentOf_shown (h : t.Searchable folder) :
    t.contentOf (shown folder) = t.namesIn (placeOf folder) := by
  have hwalk : t.walk [] (Text.pieces '/' (shown folder)) = .ok (placeOf folder) := by
    rw [← walk_namesOf, namesOf_shown, walk_namesOf, h.walk]
  have hfolder : t.find? (placeOf folder) = some .folder :=
    (walk_eq_ok h.walk).2 t.reaches_nil _ List.prefix_rfl
  have hlook : t.look (if shown folder = [] then ['.'] else shown folder) = .ok .folder := by
    split
    · rfl
    · rename_i hne
      have hlead := prefix_shown folder
      have husable : Usable (shown folder) :=
        ⟨hne, fun hmem => h.noNull (hlead.subset hmem),
          Nat.lt_of_le_of_lt (length_encode_le hlead) h.short⟩
      exact look_of_folder (locate_of_walk husable hwalk) hfolder
  rw [contentOf, hlook, hwalk]

theorem glob_star_eq (h : t.Searchable folder) (hfixed : isPattern fixed = false)
    (hslash : '/' ∉ fixed) :
    t.glob (join folder ('*' :: fixed)) =
      (((t.namesIn (placeOf folder)).filter fun entry =>
        !isHidden entry.1 && fits (.run :: fixed.map .exactly) entry.1).map
          fun entry => join (shown folder) entry.1).mergeSort Text.atMost := by
  have hpattern : isPattern ('*' :: fixed) = true := rfl
  have hparts : patternFrom 0 ('*' :: fixed) = .run :: fixed.map .exactly := by
    rw [patternFrom, if_pos rfl, patternFrom_of_not_isPattern hfixed]
  have hname : '/' ∉ '*' :: fixed := by simpa using hslash
  have hhidden : isHidden ('*' :: fixed) = false := rfl
  simp only [glob, splitPattern_join h.plain hpattern hname, expand, List.flatMap_cons,
    List.flatMap_nil, List.append_nil, matchesIn, if_pos hpattern, hparts, hhidden, Bool.false_or,
    Bool.not_false, Bool.or_true, Bool.true_and, contentOf_shown h]

/-- The paths found are those of the names in the folder that end with the fixed characters and do
not start with a dot. -/
theorem mem_glob_star_iff (ht : t.WellFormed) (h : t.Searchable folder)
    (hfixed : isPattern fixed = false) (hslash : '/' ∉ fixed) {path : Text} :
    path ∈ t.glob (join folder ('*' :: fixed)) ↔
      ∃ name node, t.find? (placeOf folder ++ [name]) = some node ∧ isHidden name = false ∧
        fixed <:+ name ∧ path = join (shown folder) name := by
  rw [glob_star_eq h hfixed hslash, List.mem_mergeSort, List.mem_map]
  constructor
  · rintro ⟨⟨name, node⟩, hmem, rfl⟩
    obtain ⟨hin, hfits⟩ := List.mem_filter.mp hmem
    rw [Bool.and_eq_true, Bool.not_eq_true', fits_run_iff] at hfits
    exact ⟨name, node, (mem_namesIn_iff ht).mp hin, hfits.1, hfits.2, rfl⟩
  · rintro ⟨name, node, hfind, hshown, hends, rfl⟩
    refine ⟨(name, node), List.mem_filter.mpr ⟨(mem_namesIn_iff ht).mpr hfind, ?_⟩, rfl⟩
    rw [Bool.and_eq_true, Bool.not_eq_true', fits_run_iff]
    exact ⟨hshown, hends⟩

theorem nodup_glob_star (ht : t.WellFormed) (h : t.Searchable folder)
    (hfixed : isPattern fixed = false) (hslash : '/' ∉ fixed) :
    (t.glob (join folder ('*' :: fixed))).Nodup := by
  have hnames := List.pairwise_map.mp (nodup_names_namesIn ht (placeOf folder))
  rw [glob_star_eq h hfixed hslash, (List.mergeSort_perm _ _).nodup_iff, List.Nodup,
    List.pairwise_map]
  refine (hnames.filter _).imp_of_mem fun ha hb hne heq => hne ?_
  have hslashes : ∀ {entry : Text × Node}, entry ∈ t.namesIn (placeOf folder) → '/' ∉ entry.1 :=
    fun hentry => ht.slash_not_mem_name ((mem_namesIn_iff ht).mp hentry)
  exact join_injective (hslashes (List.mem_filter.mp ha).1) (hslashes (List.mem_filter.mp hb).1) heq

end Tree

end VocabBindings.Files
