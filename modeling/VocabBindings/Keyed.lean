import VocabBindings.Text.Basic

/-!
Keyed lists: pairs in the order in which their keys were first stored. Storing under a key that is
present replaces the value and keeps the place.
-/

set_option autoImplicit false

namespace VocabBindings.Keyed

variable {κ α : Type} [DecidableEq κ]

def get? (key : κ) : List (κ × α) → Option α
  | [] => none
  | (k, v) :: rest => if k = key then some v else get? key rest

def put (key : κ) (value : α) : List (κ × α) → List (κ × α)
  | [] => [(key, value)]
  | (k, v) :: rest => if k = key then (k, value) :: rest else (k, v) :: put key value rest

def keys (items : List (κ × α)) : List κ := items.map Prod.fst

def erase (key : κ) (items : List (κ × α)) : List (κ × α) := items.filter fun p => p.1 ≠ key

def ofList (pairs : List (κ × α)) : List (κ × α) :=
  pairs.foldl (fun items p => put p.1 p.2 items) []

theorem get?_erase (key other : κ) (items : List (κ × α)) :
    get? other (erase key items) = if key = other then none else get? other items := by
  induction items with
  | nil => simp [erase, get?]
  | cons p rest ih =>
    obtain ⟨k, v⟩ := p
    simp only [erase, ne_eq, decide_not] at ih
    by_cases hk : k = key
    · subst hk
      by_cases h : k = other
      · subst h
        simpa [erase, get?] using ih
      · simp [erase, get?, ih, h]
    · by_cases ho : k = other
      · subst ho
        simp [erase, get?, hk, Ne.symm hk]
      · simp [erase, get?, hk, ho, ih]

theorem get?_put (key other : κ) (value : α) (items : List (κ × α)) :
    get? other (put key value items) = if key = other then some value else get? other items := by
  induction items with
  | nil => by_cases h : key = other <;> simp [put, get?, h]
  | cons p rest ih =>
    obtain ⟨k, v⟩ := p
    by_cases hk : k = key
    · subst hk
      by_cases h : k = other <;> simp [put, get?, h]
    · by_cases ho : k = other
      · subst ho
        simp [put, get?, hk, Ne.symm hk]
      · simp [put, get?, hk, ho, ih]

theorem keys_put (key : κ) (value : α) (items : List (κ × α)) :
    keys (put key value items) = if key ∈ keys items then keys items else keys items ++ [key] := by
  induction items with
  | nil => simp [put, keys]
  | cons p rest ih =>
    obtain ⟨k, v⟩ := p
    by_cases hk : k = key
    · subst hk
      simp [put, keys]
    · have hk' : key ≠ k := Ne.symm hk
      simp only [keys] at ih
      by_cases hm : key ∈ rest.map Prod.fst <;> simp [put, hk, hk', keys, ih, hm]

theorem put_put (key : κ) (value earlier : α) (items : List (κ × α)) :
    put key value (put key earlier items) = put key value items := by
  induction items with
  | nil => simp [put]
  | cons p rest ih =>
    obtain ⟨k, v⟩ := p
    by_cases hk : k = key <;> simp [put, hk, ih]

theorem mem_of_mem_put {key : κ} {value : α} {items : List (κ × α)} {p : κ × α}
    (h : p ∈ put key value items) : p = (key, value) ∨ p ∈ items := by
  induction items with
  | nil => exact .inl (List.mem_singleton.mp h)
  | cons q rest ih =>
    obtain ⟨k, v⟩ := q
    by_cases hk : k = key
    · subst hk
      simp only [put, if_true, List.mem_cons] at h
      exact h.imp_right (List.mem_cons_of_mem _)
    · simp only [put, hk, if_false, List.mem_cons] at h
      rcases h with rfl | h
      · exact .inr List.mem_cons_self
      · exact (ih h).imp_right (List.mem_cons_of_mem _)

theorem mem_of_get? {key : κ} {value : α} {items : List (κ × α)}
    (h : get? key items = some value) : (key, value) ∈ items := by
  induction items with
  | nil => simp [get?] at h
  | cons p rest ih =>
    obtain ⟨k, v⟩ := p
    by_cases hk : k = key
    · simp only [get?, hk, if_true, Option.some.injEq] at h
      simp [hk, h]
    · simp only [get?, hk, if_false] at h
      exact List.mem_cons_of_mem _ (ih h)

theorem mem_of_mem_foldl_put {pairs items : List (κ × α)} {p : κ × α}
    (h : p ∈ pairs.foldl (fun items q => put q.1 q.2 items) items) : p ∈ items ∨ p ∈ pairs := by
  induction pairs generalizing items with
  | nil => exact .inl h
  | cons q rest ih =>
    rcases ih h with h | h
    · rcases mem_of_mem_put h with rfl | h
      · exact .inr List.mem_cons_self
      · exact .inl h
    · exact .inr (List.mem_cons_of_mem _ h)

theorem get?_foldl_put (key : κ) (pairs items : List (κ × α)) :
    get? key (pairs.foldl (fun items q => put q.1 q.2 items) items) =
      ((pairs.reverse.find? (·.1 = key)).map Prod.snd).or (get? key items) := by
  induction pairs generalizing items with
  | nil => simp
  | cons q rest ih =>
    rw [List.foldl_cons, ih, get?_put, List.reverse_cons, List.find?_append]
    by_cases hq : q.1 = key <;> cases rest.reverse.find? (·.1 = key) <;> simp [hq]

theorem mem_of_mem_ofList {pairs : List (κ × α)} {p : κ × α} (h : p ∈ ofList pairs) :
    p ∈ pairs :=
  (mem_of_mem_foldl_put h).resolve_left List.not_mem_nil

theorem mem_ofList {pairs : List (κ × α)} {key : κ} {value : α} (hm : (key, value) ∈ pairs)
    (huniq : ∀ other, (key, other) ∈ pairs → other = value) : (key, value) ∈ ofList pairs := by
  apply mem_of_get?
  rw [ofList, get?_foldl_put]
  cases hf : pairs.reverse.find? (·.1 = key) with
  | none => simpa using List.find?_eq_none.mp hf (key, value) (List.mem_reverse.mpr hm)
  | some q =>
    obtain ⟨k, v⟩ := q
    have hk : k = key := by simpa using List.find?_some hf
    subst hk
    have hv := huniq v (List.mem_reverse.mp (List.mem_of_find?_eq_some hf))
    simp [hv]

theorem keys_foldl_put [BEq κ] [LawfulBEq κ] (pairs items : List (κ × α)) :
    keys (pairs.foldl (fun items q => put q.1 q.2 items) items) =
      keys items ++ ((pairs.map Prod.fst).removeAll (keys items)).eraseDups := by
  induction pairs generalizing items with
  | nil => simp [List.removeAll]
  | cons q rest ih =>
    rw [List.foldl_cons, ih, keys_put]
    by_cases hq : q.1 ∈ keys items
    · simp [List.removeAll, hq]
    · have hfilter : (rest.map Prod.fst).removeAll (keys items ++ [q.1]) =
          ((rest.map Prod.fst).removeAll (keys items)).filter fun k => !k == q.1 := by
        simp only [List.removeAll, List.filter_filter]
        refine List.filter_congr fun k _ => ?_
        by_cases hk : k = q.1 <;> simp [hk]
      rw [if_neg hq, hfilter]
      simp [List.removeAll, hq, List.eraseDups_cons]

theorem keys_ofList [BEq κ] [LawfulBEq κ] (pairs : List (κ × α)) :
    keys (ofList pairs) = (pairs.map Prod.fst).eraseDups := by
  rw [ofList, keys_foldl_put]
  simp [keys]

theorem nodup_keys_put {key : κ} {value : α} {items : List (κ × α)} (h : (keys items).Nodup) :
    (keys (put key value items)).Nodup := by
  rw [keys_put]
  split
  · exact h
  · rename_i hk
    rw [List.nodup_append]
    refine ⟨h, by simp, ?_⟩
    rintro a ha b hb rfl
    exact hk (List.mem_singleton.mp hb ▸ ha)

theorem nodup_keys_ofList (pairs : List (κ × α)) : (keys (ofList pairs)).Nodup := by
  have hfold : ∀ items : List (κ × α), (keys items).Nodup →
      (keys (pairs.foldl (fun items q => put q.1 q.2 items) items)).Nodup := by
    induction pairs with
    | nil => exact fun _ h => h
    | cons q rest ih => exact fun items h => ih _ (nodup_keys_put h)
  exact hfold [] List.nodup_nil

theorem nodup_eraseDups [BEq κ] [LawfulBEq κ] (ks : List κ) : ks.eraseDups.Nodup := by
  have h := nodup_keys_ofList (ks.map fun k => (k, ()))
  rw [keys_ofList, List.map_map] at h
  simpa [Function.comp_def] using h

theorem mem_keys_put {key other : κ} {value : α} {items : List (κ × α)} :
    other ∈ keys (put key value items) ↔ other = key ∨ other ∈ keys items := by
  rw [keys_put]
  split
  · rename_i hk
    exact ⟨.inr, fun h => h.elim (fun he => he ▸ hk) id⟩
  · simp [or_comm]

theorem get?_eq_some_iff_mem {key : κ} {value : α} {items : List (κ × α)}
    (h : (keys items).Nodup) : get? key items = some value ↔ (key, value) ∈ items := by
  refine ⟨mem_of_get?, fun hm => ?_⟩
  induction items with
  | nil => simp at hm
  | cons p rest ih =>
    obtain ⟨k, v⟩ := p
    simp only [keys, List.map_cons, List.nodup_cons] at h
    rcases List.mem_cons.mp hm with heq | hm
    · obtain ⟨rfl, rfl⟩ := Prod.mk.inj heq
      simp [get?]
    · have hk : k ≠ key := fun he => h.1 (he ▸ List.mem_map_of_mem hm)
      simpa [get?, hk] using ih h.2 hm

/-- Of the pairs with one key the last one counts. -/
theorem get?_ofList_eq_some_iff {key : κ} {value : α} {pairs : List (κ × α)} :
    get? key (ofList pairs) = some value ↔
      ∃ before after, pairs = before ++ (key, value) :: after ∧ ∀ q ∈ after, q.1 ≠ key := by
  simp only [ofList, get?_foldl_put, get?, Option.or_none, Option.map_eq_some_iff,
    List.find?_eq_some_iff_append]
  constructor
  · rintro ⟨⟨k, v⟩, ⟨hk, after, before, hsplit, hafter⟩, rfl⟩
    obtain rfl : k = key := by simpa using hk
    refine ⟨before.reverse, after.reverse, ?_, by simpa using hafter⟩
    have := congrArg List.reverse hsplit
    simpa using this
  · rintro ⟨before, after, rfl, hafter⟩
    exact ⟨(key, value), ⟨by simp, after.reverse, before.reverse, by simp, by simpa using hafter⟩,
      rfl⟩

theorem get?_eq_none_iff {key : κ} {items : List (κ × α)} :
    get? key items = none ↔ key ∉ keys items := by
  induction items with
  | nil => simp [get?, keys]
  | cons p rest ih =>
    obtain ⟨k, v⟩ := p
    by_cases hk : k = key
    · simp [get?, keys, hk]
    · rw [get?, if_neg hk, ih]
      simp [keys, Ne.symm hk]

/-- A keyed list is known by its keys in their order and by what is found under them. -/
theorem eq_of_get?_eq {items others : List (κ × α)} (hnodup : (keys items).Nodup)
    (hkeys : keys items = keys others) (hget : ∀ key, get? key items = get? key others) :
    items = others := by
  induction items generalizing others with
  | nil => exact (List.map_eq_nil_iff.mp hkeys.symm).symm
  | cons p rest ih =>
    obtain ⟨k, v⟩ := p
    cases others with
    | nil => simp [keys] at hkeys
    | cons q more =>
      obtain ⟨l, w⟩ := q
      obtain ⟨rfl, htail⟩ : k = l ∧ keys rest = keys more := List.cons_eq_cons.mp hkeys
      obtain ⟨hk, hdistinct⟩ : k ∉ keys rest ∧ (keys rest).Nodup := List.nodup_cons.mp hnodup
      have hv : v = w := by simpa [get?] using hget k
      have hrest : ∀ key, get? key rest = get? key more := by
        intro key
        by_cases hkey : k = key
        · subst hkey
          rw [get?_eq_none_iff.mpr hk, get?_eq_none_iff.mpr (htail ▸ hk)]
        · simpa [get?, hkey] using hget key
      rw [hv, ih hdistinct htail hrest]

theorem foldl_put_ofList [BEq κ] [LawfulBEq κ] (pairs : List (κ × α)) :
    pairs.foldl (fun items p => put p.1 p.2 items) (ofList pairs) = ofList pairs := by
  have hnone : (pairs.map Prod.fst).removeAll (keys (ofList pairs)) = [] := by
    rw [keys_ofList, List.removeAll, List.filter_eq_nil_iff]
    intro key hkey
    simpa using hkey
  refine (eq_of_get?_eq (nodup_keys_ofList pairs) ?_ fun key => ?_).symm
  · rw [keys_foldl_put, hnone, List.eraseDups_nil, List.append_nil]
  · rw [get?_foldl_put, ofList, get?_foldl_put]
    cases pairs.reverse.find? (·.1 = key) <;> rfl

end VocabBindings.Keyed
