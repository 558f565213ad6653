import VocabBindings.Files.Tree
import VocabBindings.Proofs.Text.Pieces

/-!
Paths and places. Names that lead somewhere lead to a place that depends on the names alone; a tree
only decides whether they lead there. A tree that has all folders of another one leads to the same
places.
-/

set_option autoImplicit false

namespace VocabBindings.Files

def placeFrom : Place → List Text → Place
  | place, [] => place
  | place, name :: rest =>
    if name = [] || name = ['.'] then placeFrom place rest
    else if name = "..".toList then placeFrom place.dropLast rest
    else placeFrom (place ++ [name]) rest

def placeOf (path : Text) : Place := placeFrom [] (Text.pieces '/' path)

theorem placeFrom_append (place : Place) (names more : List Text) :
    placeFrom place (names ++ more) = placeFrom (placeFrom place names) more := by
  fun_induction placeFrom place names with
  | case1 => rfl
  | case2 place name rest hskip ih => rw [List.cons_append, placeFrom, if_pos hskip, ih]
  | case3 place rest hskip ih => rw [List.cons_append, placeFrom, if_neg hskip, if_pos rfl, ih]
  | case4 place name rest hskip hup ih =>
    rw [List.cons_append, placeFrom, if_neg hskip, if_neg hup, ih]

theorem mem_placeFrom {place : Place} {names : List Text} {name : Text}
    (h : name ∈ placeFrom place names) : name ∈ place ∨ name ∈ names := by
  fun_induction placeFrom place names with
  | case1 => exact .inl h
  | case2 place first rest hskip ih => exact (ih h).imp_right (List.mem_cons_of_mem _)
  | case3 place rest hskip ih =>
    rcases ih h with h | h
    · exact .inl (List.dropLast_subset place h)
    · exact .inr (List.mem_cons_of_mem _ h)
  | case4 place first rest hskip hup ih =>
    rcases ih h with h | h
    · rcases List.mem_append.mp h with h | h
      · exact .inl h
      · exact .inr (List.mem_singleton.mp h ▸ List.mem_cons_self)
    · exact .inr (List.mem_cons_of_mem _ h)

theorem slash_not_mem_placeOf {path name : Text} (h : name ∈ placeOf path) : '/' ∉ name :=
  Text.not_mem_of_mem_pieces ((mem_placeFrom h).resolve_left List.not_mem_nil)

def IsPlainName (name : Text) : Prop := name ≠ [] ∧ name ≠ ['.'] ∧ name ≠ "..".toList

instance (name : Text) : Decidable (IsPlainName name) := inferInstanceAs (Decidable (_ ∧ _))

theorem not_isPlainName_iff {name : Text} :
    (name = [] || name = ['.'] || name = "..".toList) = true ↔ ¬ IsPlainName name := by
  simp only [IsPlainName, ne_eq, Bool.or_eq_true, decide_eq_true_eq,
    Classical.not_and_iff_not_or_not, not_not, or_assoc]

theorem IsPlainName.not_skipped {name : Text} (h : IsPlainName name) :
    ¬ (name = [] || name = ['.']) := by
  simp [h.1, h.2.1]

theorem placeFrom_singleton {name : Text} (h : IsPlainName name) (place : Place) :
    placeFrom place [name] = place ++ [name] := by
  rw [placeFrom, if_neg h.not_skipped, if_neg h.2.2, placeFrom]

namespace Tree

theorem walk_append (t : Tree) (place : Place) (names more : List Text) :
    t.walk place (names ++ more) =
      match t.walk place names with
      | .error fault => .error fault
      | .ok q => t.walk q more := by
  fun_induction t.walk place names with
  | case1 => rfl
  | case2 place name rest hskip ih => rw [List.cons_append, walk, if_pos hskip, ih]
  | case3 place rest hskip ih => rw [List.cons_append, walk, if_neg hskip, if_pos rfl, ih]
  | case4 place name rest hskip hup hlong =>
    rw [List.cons_append, walk, if_neg hskip, if_neg hup, if_pos hlong]
  | case5 place name rest hskip hup hlong hfind =>
    rw [List.cons_append, walk, if_neg hskip, if_neg hup, if_neg hlong, hfind]
  | case6 place name rest hskip hup hlong bytes hfind =>
    rw [List.cons_append, walk, if_neg hskip, if_neg hup, if_neg hlong, hfind]
  | case7 place name rest hskip hup hlong hfind ih =>
    rw [List.cons_append, walk, if_neg hskip, if_neg hup, if_neg hlong, hfind, ih]

def Reaches (t : Tree) (place : Place) : Prop :=
  ∀ lead, lead <+: place → t.find? lead = some .folder

theorem reaches_nil (t : Tree) : t.Reaches [] := by
  intro lead hlead
  rw [List.prefix_nil.mp hlead, find?, if_pos rfl]

theorem Reaches.dropLast {t : Tree} {place : Place} (h : t.Reaches place) :
    t.Reaches place.dropLast :=
  fun lead hlead => h lead (hlead.trans (List.dropLast_prefix place))

theorem Reaches.concat {t : Tree} {place : Place} {name : Text} (h : t.Reaches place)
    (hfind : t.find? (place ++ [name]) = some .folder) : t.Reaches (place ++ [name]) := by
  intro lead hlead
  rcases List.prefix_concat_iff.mp hlead with rfl | hlead
  · exact hfind
  · exact h lead hlead

theorem walk_eq_ok {t : Tree} {place q : Place} {names : List Text}
    (h : t.walk place names = .ok q) :
    q = placeFrom place names ∧ (t.Reaches place → t.Reaches q) := by
  fun_induction t.walk place names with
  | case1 => obtain ⟨⟩ := h; exact ⟨rfl, id⟩
  | case2 place name rest hskip ih => rw [placeFrom, if_pos hskip]; exact ih h
  | case3 place rest hskip ih =>
    rw [placeFrom, if_neg hskip, if_pos rfl]
    exact ⟨(ih h).1, fun hplace => (ih h).2 hplace.dropLast⟩
  | case4 => cases h
  | case5 => cases h
  | case6 => cases h
  | case7 place name rest hskip hup hlong hfind ih =>
    rw [placeFrom, if_neg hskip, if_neg hup]
    exact ⟨(ih h).1, fun hplace => (ih h).2 (hplace.concat hfind)⟩

theorem walk_of_folders {t next : Tree}
    (hfolders : ∀ q, t.find? q = some .folder → next.find? q = some .folder) {place q : Place}
    {names : List Text} (h : t.walk place names = .ok q) : next.walk place names = .ok q := by
  fun_induction t.walk place names with
  | case1 => exact h
  | case2 place name rest hskip ih => rw [walk, if_pos hskip, ih h]
  | case3 place rest hskip ih => rw [walk, if_neg hskip, if_pos rfl, ih h]
  | case4 => cases h
  | case5 => cases h
  | case6 => cases h
  | case7 place name rest hskip hup hlong hfind ih =>
    rw [walk, if_neg hskip, if_neg hup, if_neg hlong, hfolders _ hfind, ih h]

end Tree

/-! Slashes at the end of a path. -/

theorem exists_eq_withoutEndSlashes_append (path : Text) :
    ∃ n, path = withoutEndSlashes path ++ List.replicate n '/' := by
  have hsplit := congrArg List.reverse (List.takeWhile_append_dropWhile (p := (· = '/'))
    (l := path.reverse))
  refine ⟨(path.reverse.takeWhile (· = '/')).length, ?_⟩
  have hslashes : path.reverse.takeWhile (· = '/') =
      List.replicate (path.reverse.takeWhile (· = '/')).length '/' :=
    List.eq_replicate_of_mem fun c hc => by simpa using List.mem_takeWhile_imp hc
  rw [List.reverse_append, List.reverse_reverse, hslashes, List.reverse_replicate] at hsplit
  exact hsplit.symm

theorem pieces_withoutEndSlashes (path : Text) :
    Text.pieces '/' (withoutEndSlashes path) =
      (Text.pieces '/' (withoutEndSlashes path)).dropLast ++ [lastName path] := by
  have hlast := Text.getLast?_pieces '/' (withoutEndSlashes path)
  rw [List.getLast?_eq_some_iff] at hlast
  obtain ⟨lead, hlead⟩ := hlast
  rw [hlead, List.dropLast_concat]
  rfl

def namesOf (path : Text) : List Text := (Text.pieces '/' path).filter (· ≠ [])

theorem placeFrom_filter (place : Place) (names : List Text) :
    placeFrom place (names.filter (· ≠ [])) = placeFrom place names := by
  induction names generalizing place with
  | nil => rfl
  | cons name rest ih =>
    simp only [ne_eq, decide_not] at ih ⊢
    by_cases hname : name = [] <;> simp [placeFrom, hname, ih]

theorem placeFrom_namesOf (path : Text) : placeFrom [] (namesOf path) = placeOf path :=
  placeFrom_filter [] _

theorem namesOf_withoutEndSlashes (path : Text) :
    namesOf (withoutEndSlashes path) = namesOf path := by
  obtain ⟨n, hn⟩ := exists_eq_withoutEndSlashes_append path
  have hpieces := Text.pieces_append_replicate '/' (withoutEndSlashes path) n
  rw [← hn] at hpieces
  simp [namesOf, hpieces]

theorem placeOf_withoutEndSlashes (path : Text) :
    placeOf (withoutEndSlashes path) = placeOf path := by
  rw [← placeFrom_namesOf, namesOf_withoutEndSlashes, placeFrom_namesOf]

theorem namesOf_join {name : Text} (hne : name ≠ []) (hslash : '/' ∉ name) (folder : Text) :
    namesOf (join folder name) = namesOf folder ++ [name] := by
  have hhead : name.head? ≠ some '/' := fun h => hslash (List.mem_of_mem_head? h)
  have hname : namesOf name = [name] := by simp [namesOf, Text.pieces_of_not_mem hslash, hne]
  have happend : ∀ lead, namesOf (lead ++ '/' :: name) = namesOf lead ++ [name] := by
    intro lead
    rw [← hname]
    simp [namesOf, Text.pieces_append_cons]
  rw [join, if_neg hhead]
  split
  · rename_i hfolder
    simp only [Bool.or_eq_true, decide_eq_true_eq] at hfolder
    rcases hfolder with rfl | hlast
    · rw [List.nil_append, hname]
      rfl
    · obtain ⟨lead, rfl⟩ := List.getLast?_eq_some_iff.mp hlast
      have hlead : namesOf (lead ++ ['/']) = namesOf lead := by
        simp [namesOf, Text.pieces_append_cons, Text.pieces]
      rw [hlead, ← happend lead]
      simp
  · exact happend folder

theorem lastName_join_ne_dot {name : Text} (hne : name ≠ []) (hslash : '/' ∉ name)
    (hdot : name ≠ ['.']) (folder : Text) : lastName (join folder name) ≠ ['.'] := by
  intro hlast
  have hnames := namesOf_join hne hslash folder
  rw [← namesOf_withoutEndSlashes, namesOf, pieces_withoutEndSlashes, hlast, List.filter_append]
    at hnames
  exact hdot (List.singleton_inj.mp (List.append_inj' hnames rfl).2).symm

theorem exists_join_eq (folder : Text) :
    ∃ lead, ∀ name : Text, name.head? ≠ some '/' → join folder name = lead ++ name := by
  by_cases hends : folder = [] || folder.getLast? = some '/'
  · exact ⟨folder, fun name hname => by rw [join, if_neg hname, if_pos hends]⟩
  · refine ⟨folder ++ ['/'], fun name hname => ?_⟩
    rw [join, if_neg hname, if_neg hends, List.append_assoc]
    rfl

theorem prefix_join {name : Text} (hslash : '/' ∉ name) (folder : Text) :
    folder <+: join folder name := by
  have hhead : name.head? ≠ some '/' := fun h => hslash (List.mem_of_mem_head? h)
  rw [join, if_neg hhead]
  split
  · exact List.prefix_append _ _
  · exact List.prefix_append _ _

theorem placeOf_join {name : Text} (hname : IsPlainName name) (hslash : '/' ∉ name)
    (folder : Text) : placeOf (join folder name) = placeOf folder ++ [name] := by
  rw [← placeFrom_namesOf, namesOf_join hname.1 hslash, placeFrom_append, placeFrom_namesOf,
    placeFrom_singleton hname]

namespace Tree

theorem walk_filter (t : Tree) (place : Place) (names : List Text) :
    t.walk place (names.filter (· ≠ [])) = t.walk place names := by
  induction names generalizing place with
  | nil => rfl
  | cons name rest ih =>
    simp only [ne_eq, decide_not] at ih ⊢
    by_cases hname : name = [] <;> simp [walk, hname, ih]

theorem walk_namesOf (t : Tree) (path : Text) :
    t.walk [] (namesOf path) = t.walk [] (Text.pieces '/' path) :=
  t.walk_filter [] _

theorem walk_withoutEndSlashes (t : Tree) (path : Text) :
    t.walk [] (Text.pieces '/' (withoutEndSlashes path)) = t.walk [] (Text.pieces '/' path) := by
  rw [← walk_namesOf, namesOf_withoutEndSlashes, walk_namesOf]

structure Usable (path : Text) : Prop where
  ne_nil : path ≠ []
  noNull : '\x00' ∉ path
  short : (Text.encode path).length < pathLimit

theorem usable_of_locate {t : Tree} {path : Text} {place : Place} (h : t.locate path = .ok place) :
    Usable path := by
  unfold locate at h
  split at h
  · cases h
  · rename_i hne
    split at h
    · cases h
    · rename_i hnull
      split at h
      · cases h
      · exact ⟨hne, by simpa using hnull, by omega⟩

theorem locate_of_usable {path : Text} (h : Usable path) (t : Tree) :
    t.locate path =
      if IsPlainName (lastName path) then
        match t.walk [] (Text.pieces '/' (withoutEndSlashes path)).dropLast with
        | .error fault => .error fault
        | .ok folder =>
          if nameLimit < (Text.encode (lastName path)).length then .error .nameTooLong
          else .ok (folder ++ [lastName path])
      else t.walk [] (Text.pieces '/' path) := by
  have hnull : ¬ path.contains '\x00' = true := by simpa using h.noNull
  have hshort : ¬ pathLimit ≤ (Text.encode path).length := Nat.not_le.mpr h.short
  simp only [locate, if_neg h.ne_nil, if_neg hnull, if_neg hshort, walk_withoutEndSlashes]
  by_cases hplain : IsPlainName (lastName path)
  · have hskip := fun h => not_isPlainName_iff.mp h hplain
    exact (if_neg hskip).trans (if_pos hplain).symm
  · have hskip := not_isPlainName_iff.mpr hplain
    exact (if_pos hskip).trans (if_neg hplain).symm

theorem walk_singleton {name : Text} (h : IsPlainName name) (t : Tree) (place : Place) :
    t.walk place [name] =
      if nameLimit < (Text.encode name).length then .error .nameTooLong
      else
        match t.find? (place ++ [name]) with
        | none => .error .missing
        | some (.file _) => .error .notFolder
        | some .folder => .ok (place ++ [name]) := by
  rw [walk, if_neg h.not_skipped, if_neg h.2.2]
  rfl

theorem locate_of_walk {t : Tree} {path : Text} {place : Place} (hu : Usable path)
    (h : t.walk [] (Text.pieces '/' path) = .ok place) : t.locate path = .ok place := by
  rw [locate_of_usable hu]
  split
  · rename_i hplain
    rw [← walk_withoutEndSlashes, pieces_withoutEndSlashes, walk_append] at h
    split at h
    · cases h
    · rename_i folder hwalk
      rw [walk_singleton hplain] at h
      split at h
      · cases h
      · rename_i hshort
        split at h
        · cases h
        · cases h
        · rw [if_neg hshort]
          exact h
  · exact h

theorem locate_of_folders {t next : Tree}
    (hfolders : ∀ q, t.find? q = some .folder → next.find? q = some .folder) {path : Text}
    {place : Place} (h : t.locate path = .ok place) : next.locate path = .ok place := by
  have hu := usable_of_locate h
  rw [locate_of_usable hu] at h ⊢
  split at h
  · rename_i hplain
    split at h
    · cases h
    · rename_i folder hwalk
      rw [if_pos hplain, walk_of_folders hfolders hwalk]
      exact h
  · rename_i hplain
    rw [if_neg hplain]
    exact walk_of_folders hfolders h

theorem locate_eq_ok {t : Tree} {path : Text} {place : Place} (h : t.locate path = .ok place) :
    place = placeOf path ∧
      (t.find? place = some .folder → t.walk [] (Text.pieces '/' path) = .ok place) := by
  rw [locate_of_usable (usable_of_locate h)] at h
  split at h
  · rename_i hplain
    split at h
    · cases h
    · rename_i folder hwalk
      split at h
      · cases h
      · rename_i hshort
        obtain ⟨⟩ := h
        constructor
        · rw [← placeOf_withoutEndSlashes, placeOf, pieces_withoutEndSlashes, placeFrom_append,
            placeFrom_singleton hplain, (walk_eq_ok hwalk).1]
        · intro hfind
          rw [← walk_withoutEndSlashes, pieces_withoutEndSlashes, walk_append, hwalk]
          simp only [walk_singleton hplain, if_neg hshort, hfind]
  · exact ⟨(walk_eq_ok h).1, fun _ => h⟩

theorem exists_of_look {t : Tree} {path : Text} {node : Node} (h : t.look path = .ok node) :
    ∃ place, t.locate path = .ok place ∧ t.find? place = some node := by
  unfold look at h
  split at h
  · cases h
  · rename_i place hlocate
    refine ⟨place, hlocate, ?_⟩
    split at h
    · cases h
    · rename_i hfind
      obtain ⟨⟩ := h
      exact hfind
    · rename_i bytes hfind
      split at h
      · cases h
      · obtain ⟨⟩ := h
        exact hfind

theorem look_of_folder {t : Tree} {path : Text} {place : Place}
    (hlocate : t.locate path = .ok place) (hfind : t.find? place = some .folder) : t.look path = .ok .folder := by
  rw [look, hlocate]
  simp only [hfind]

end Tree

end VocabBindings.Files
