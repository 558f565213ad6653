import VocabBindings.Proofs.Files.Writing
import VocabBindings.Snapshot.Cache

/-!
The cache of snapshots over calls. What a call answers is a whole file: one that was there, or the
body of the answer that this call had. Later calls find the same file and request nothing, and no
call touches the file of another version.
-/

set_option autoImplicit false

namespace VocabBindings

/-! What a download brings. -/

namespace Web

variable {network : Network} {body : Bytes}

/-- The last of some requests was answered, and the body is that of the answer. -/
def Delivered (network : Network) (requests : List Text) (body : Bytes) : Prop :=
  ∃ address status location, requests.getLast? = some address ∧
    network address = .answer status body location ∧ 200 ≤ status ∧ status < 300

theorem Delivered.cons {requests : List Text} (address : Text)
    (h : Delivered network requests body) : Delivered network (address :: requests) body := by
  obtain ⟨last, status, location, hlast, hanswer⟩ := h
  refine ⟨last, status, location, ?_, hanswer⟩
  rw [List.getLast?_cons, hlast]
  rfl

theorem delivered_of_follow {left : Nat} {u : Url}
    (h : (follow network left u).outcome = .ok body) :
    Delivered network (follow network left u).requests body := by
  fun_induction follow network left u with
  | case1 => cases h
  | case2 => cases h
  | case3 left u status found location hreply =>
    dsimp only at h
    split at h
    · rename_i hstatus
      obtain ⟨⟩ := h
      simp only [Bool.and_eq_true, decide_eq_true_eq] at hstatus
      exact ⟨u.text, status, location, rfl, hreply, hstatus⟩
    · cases h
  | case4 => cases h
  | case5 => cases h
  | case6 u _ _ _ _ _ _ _ _ _ _ _ ih => exact (ih h).cons u.text

theorem delivered_of_download {address : Text} (h : (download network address).outcome = .ok body) :
    Delivered network (download network address).requests body := by
  unfold download at h ⊢
  split at h
  · cases h
  · exact delivered_of_follow h

end Web

namespace Snapshot.Cache

open Files

variable {c : Cache} {network : Web.Network} {t : Tree} {v : Text}

def partPath (c : Cache) (version : Text) : Text := c.path version ++ ".part".toList

/-! Places of the cache. -/

def fileName (version : Text) : Text := "schemas-".toList ++ version ++ ".jsonld".toList

def partName (version : Text) : Text := fileName version ++ ".part".toList

theorem head?_fileName (v : Text) : (fileName v).head? = some 's' := by
  unfold fileName
  simp

theorem head?_partName (v : Text) : (partName v).head? = some 's' := by
  unfold partName
  simp [head?_fileName]

theorem getLast?_fileName (v : Text) : (fileName v).getLast? = some 'd' := by
  unfold fileName
  rw [List.getLast?_append]
  simp

theorem getLast?_partName (v : Text) : (partName v).getLast? = some 't' := by
  unfold partName
  rw [List.getLast?_append]
  simp

theorem isPlainName_of_head? {name : Text} (h : name.head? = some 's') : IsPlainName name := by
  refine ⟨?_, ?_, ?_⟩ <;> rintro rfl <;> simp at h

theorem fileName_inj {w : Text} : fileName v = fileName w ↔ v = w := by
  unfold fileName
  rw [List.append_left_inj, List.append_right_inj]

theorem slash_not_mem_fileName (hv : '/' ∉ v) : '/' ∉ fileName v := by
  unfold fileName
  simp [hv]

theorem slash_not_mem_partName (hv : '/' ∉ v) : '/' ∉ partName v := by
  unfold partName
  simp [slash_not_mem_fileName hv]

theorem placeOf_path (c : Cache) (hv : '/' ∉ v) :
    placeOf (c.path v) = placeOf c.folder ++ [fileName v] :=
  placeOf_join (isPlainName_of_head? (head?_fileName v)) (slash_not_mem_fileName hv) c.folder

theorem exists_path_eq (c : Cache) (v : Text) :
    ∃ lead, c.path v = lead ++ fileName v ∧ join c.folder (partName v) = lead ++ partName v := by
  obtain ⟨lead, hlead⟩ := exists_join_eq c.folder
  refine ⟨lead, hlead (fileName v) ?_, hlead (partName v) ?_⟩
  · simp [head?_fileName]
  · simp [head?_partName]

theorem partPath_eq (c : Cache) (v : Text) : c.partPath v = join c.folder (partName v) := by
  obtain ⟨lead, hpath, hpart⟩ := c.exists_path_eq v
  unfold partPath partName at *
  rw [hpath, hpart, List.append_assoc]

theorem placeOf_partPath (c : Cache) (hv : '/' ∉ v) :
    placeOf (c.partPath v) = placeOf c.folder ++ [partName v] := by
  rw [partPath_eq]
  exact placeOf_join (isPlainName_of_head? (head?_partName v)) (slash_not_mem_partName hv) c.folder

theorem getLast?_path (c : Cache) (v : Text) : (c.path v).getLast? = some 'd' := by
  obtain ⟨lead, hpath, -⟩ := c.exists_path_eq v
  simp [hpath, List.getLast?_append, getLast?_fileName]

theorem exists_placeOf_path (c : Cache) (w : Text) :
    ∃ place name, placeOf (c.path w) = place ++ [name] ∧ name.getLast? = some 'd' := by
  obtain ⟨lead, hlead⟩ := List.getLast?_eq_some_iff.mp (Text.getLast?_pieces '/' (c.path w))
  have hlast : (((c.path w).reverse.takeWhile (· ≠ '/')).reverse).getLast? = some 'd' := by
    obtain ⟨before, hbefore⟩ := List.getLast?_eq_some_iff.mp (getLast?_path c w)
    simp [hbefore]
  refine ⟨placeFrom [] lead, _, ?_, hlast⟩
  rw [placeOf, hlead, placeFrom_append, placeFrom_singleton]
  refine ⟨?_, ?_, ?_⟩ <;> intro heq <;> rw [heq] at hlast <;> simp at hlast

/-- No snapshot lies where an unfinished one is written. -/
theorem placeOf_path_ne_placeOf_partPath (c : Cache) (w : Text) (hv : '/' ∉ v) :
    placeOf (c.path w) ≠ placeOf (c.partPath v) := by
  intro heq
  obtain ⟨place, name, hplace, hname⟩ := c.exists_placeOf_path w
  rw [hplace, placeOf_partPath c hv] at heq
  obtain rfl := List.singleton_inj.mp (List.append_inj' heq rfl).2
  simp [getLast?_partName] at hname

theorem placeOf_path_inj (c : Cache) {w : Text} (hw : '/' ∉ w) (hv : '/' ∉ v) :
    placeOf (c.path w) = placeOf (c.path v) ↔ w = v := by
  rw [placeOf_path c hw, placeOf_path c hv, List.append_right_inj, List.singleton_inj,
    fileName_inj]

/-! Keeping a snapshot. -/

/-- A snapshot that cannot be kept leaves at most new folders and an unfinished file. One that is
kept is read at its path. -/
theorem keep_cases (c : Cache) (t : Tree) (v : Text) (body : Bytes) :
    (∃ e, (c.keep t (c.path v) body).2 = some e ∧
      Altered c.folder [placeOf (c.partPath v)] t (c.keep t (c.path v) body).1) ∨
    ((c.keep t (c.path v) body).2 = none ∧
      Altered c.folder [placeOf (c.partPath v), placeOf (c.path v)] t
        (c.keep t (c.path v) body).1 ∧
      (c.keep t (c.path v) body).1.read (c.path v) = .ok body) := by
  have hgained := Tree.gained_makeFolders c.folder t
  have hslash : (c.path v).getLast? ≠ some '/' := by simp [getLast?_path]
  unfold keep
  dsimp only
  split
  · rename_i made e hmade
    rw [hmade] at hgained
    exact .inl ⟨e, rfl, hgained.altered _⟩
  · rename_i made hmade
    rw [hmade] at hgained
    split
    · rename_i e _
      exact .inl ⟨e, rfl, hgained.altered _⟩
    · rename_i written hwrite
      have hwritten := (hgained.altered _).trans (Tree.altered_of_write c.folder hwrite)
      split
      · rename_i e _
        exact .inl ⟨e, rfl, hwritten⟩
      · rename_i moved hmove
        refine .inr ⟨rfl, ?_, ?_⟩
        · exact (hwritten.mono (by simp [partPath])).trans (Tree.altered_of_move c.folder hmove)
        · rw [Tree.read_of_move hmove hslash, Tree.read_of_write hwrite]

/-! Fetching a snapshot. -/

/-- What a fetch can come to. -/
inductive Fetches (c : Cache) (network : Web.Network) (t : Tree) (v : Text) (f : Fetched) : Prop
  where
  | found (hfile : t.hasFile (c.path v) = true) (houtcome : f.outcome = .ok (c.path v))
      (hfiles : f.files = t) (hrequests : f.requests = [])
  | badPattern (hmissing : t.hasFile (c.path v) = false) (e : PatternError)
      (haddress : address c.pattern v = .error e) (houtcome : f.outcome = .error (.badPattern e))
      (hfiles : f.files = t) (hrequests : f.requests = [])
  | undelivered (hmissing : t.hasFile (c.path v) = false) (a : Text) (e : Web.DownloadError)
      (haddress : address c.pattern v = .ok a)
      (hdownload : (Web.download network a).outcome = .error e)
      (houtcome : f.outcome = .error (downloadError a e)) (hfiles : f.files = t)
  | unkept (hmissing : t.hasFile (c.path v) = false) (a : Text) (body : Bytes) (e : FileError)
      (haddress : address c.pattern v = .ok a)
      (hdownload : (Web.download network a).outcome = .ok body)
      (houtcome : f.outcome = .error (keepError (c.path v) e))
      (hfiles : Altered c.folder [placeOf (c.partPath v)] t f.files)
  | kept (hmissing : t.hasFile (c.path v) = false) (a : Text) (body : Bytes)
      (haddress : address c.pattern v = .ok a)
      (hdownload : (Web.download network a).outcome = .ok body)
      (houtcome : f.outcome = .ok (c.path v)) (hdelivered : Web.Delivered network f.requests body)
      (hread : f.files.read (c.path v) = .ok body)
      (hfiles : Altered c.folder [placeOf (c.partPath v), placeOf (c.path v)] t f.files)

theorem fetches_fetch (c : Cache) (network : Web.Network) (t : Tree) (v : Text) :
    Fetches c network t v (c.fetch network t v) := by
  unfold fetch
  dsimp only
  split
  · rename_i hfile
    exact .found hfile rfl rfl rfl
  · rename_i hmissing
    rw [Bool.not_eq_true] at hmissing
    split
    · rename_i e haddress
      exact .badPattern hmissing e haddress rfl rfl rfl
    · rename_i a haddress
      split
      · rename_i e hdownload
        exact .undelivered hmissing a e haddress hdownload rfl rfl
      · rename_i body hdownload
        have hkeep := c.keep_cases t v body
        split
        · rename_i files e heq
          rw [heq] at hkeep
          obtain ⟨_, ⟨⟩, haltered⟩ | ⟨⟨⟩, -⟩ := hkeep
          exact .unkept hmissing a body e haddress hdownload rfl haltered
        · rename_i files heq
          rw [heq] at hkeep
          obtain ⟨_, ⟨⟩, -⟩ | ⟨-, haltered, hread⟩ := hkeep
          exact .kept hmissing a body haddress hdownload rfl
            (Web.delivered_of_download hdownload) hread haltered

/-- Whatever a fetch comes to, it changes no file but the one of its version and the unfinished
one. -/
theorem altered_fetch (c : Cache) (network : Web.Network) (t : Tree) (v : Text) :
    Altered c.folder [placeOf (c.partPath v), placeOf (c.path v)] t
      (c.fetch network t v).files := by
  cases c.fetches_fetch network t v with
  | found _ _ hfiles => rw [hfiles]; exact .refl _ _ t
  | badPattern _ _ _ _ hfiles => rw [hfiles]; exact .refl _ _ t
  | undelivered _ _ _ _ _ _ hfiles => rw [hfiles]; exact .refl _ _ t
  | unkept _ _ _ _ _ _ _ hfiles => exact hfiles.mono (by simp)
  | kept _ _ _ _ _ _ _ _ hfiles => exact hfiles

end Snapshot.Cache

end VocabBindings
