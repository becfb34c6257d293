import FrameLisp.Bindings
import Mathlib.Data.List.Nodup
import Mathlib.Data.List.Perm.Subperm

/-!
# What bindings hold

Binding keys puts nothing into a list of bindings but the pairs that are bound, and binds no key
twice.  Where no key comes twice, binding pairs one after the other is the same as putting them at
the end (`Bindings.insertAll_of_nodup`).  Where keys come again, the last pair of each counts
(`Bindings.find?_insertAll`), and the keys stand in the order in which they first came
(`Bindings.keys_insertAll`).
-/

namespace FrameLisp.Bindings

variable {κ ν : Type} [DecidableEq κ] {key other : κ} {value bound : ν} {bindings : Bindings κ ν}

theorem mem_insert (h : (other, bound) ∈ insert key value bindings) :
    (other = key ∧ bound = value) ∨ (other, bound) ∈ bindings := by
  induction bindings with
  | nil => exact .inl (Prod.mk.injEq .. ▸ List.mem_singleton.mp h)
  | cons pair rest ih =>
    obtain ⟨k, v⟩ := pair
    unfold insert at h
    split at h
    · rcases List.mem_cons.mp h with heq | hrest
      · exact .inl (Prod.mk.injEq .. ▸ heq)
      · exact .inr (List.mem_cons_of_mem _ hrest)
    · rcases List.mem_cons.mp h with heq | hrest
      · exact .inr (heq ▸ List.mem_cons_self)
      · exact (ih hrest).imp_right (List.mem_cons_of_mem _)

theorem mem_insertAll {pairs : List (κ × ν)} (h : (key, value) ∈ insertAll bindings pairs) :
    (key, value) ∈ bindings ∨ (key, value) ∈ pairs := by
  unfold insertAll at h
  induction pairs generalizing bindings with
  | nil => exact .inl h
  | cons pair pairs ih =>
    rcases ih h with hinsert | hrest
    · rcases mem_insert hinsert with ⟨rfl, rfl⟩ | hmem
      · exact .inr List.mem_cons_self
      · exact .inl hmem
    · exact .inr (List.mem_cons_of_mem _ hrest)

theorem nodup_keys_insert (h : (keys bindings).Nodup) (key : κ) (value : ν) :
    (keys (insert key value bindings)).Nodup := by
  rw [keys_insert]
  split
  · exact h
  · rename_i hnew
    exact List.Nodup.append h (List.nodup_singleton key)
      (List.disjoint_singleton.mpr hnew)

theorem nodup_keys_insertAll (h : (keys bindings).Nodup) (pairs : List (κ × ν)) :
    (keys (insertAll bindings pairs)).Nodup := by
  unfold insertAll
  induction pairs generalizing bindings with
  | nil => exact h
  | cons pair pairs ih => exact ih (nodup_keys_insert h pair.1 pair.2)

theorem insert_of_notMem (h : key ∉ keys bindings) :
    insert key value bindings = bindings ++ [(key, value)] := by
  induction bindings with
  | nil => rfl
  | cons pair rest ih =>
    obtain ⟨k, v⟩ := pair
    rw [keys_cons, List.mem_cons, not_or] at h
    rw [insert, if_neg (Ne.symm h.1), ih h.2, List.cons_append]

theorem insertAll_of_nodup {pairs : List (κ × ν)} (h : (keys (bindings ++ pairs)).Nodup) :
    insertAll bindings pairs = bindings ++ pairs := by
  unfold insertAll
  induction pairs generalizing bindings with
  | nil => exact (List.append_nil _).symm
  | cons pair pairs ih =>
    have hnew : pair.1 ∉ keys bindings := by
      unfold keys at h
      rw [List.map_append, List.map_cons, List.nodup_middle] at h
      exact fun hmem => (List.nodup_cons.mp h).1 (List.mem_append_left _ hmem)
    rw [List.append_cons] at h
    rw [List.foldl_cons, insert_of_notMem hnew, ih h, ← List.append_cons]

theorem mem_of_find? (h : find? key bindings = some value) : (key, value) ∈ bindings := by
  induction bindings with
  | nil => cases h
  | cons pair rest ih =>
    obtain ⟨k, v⟩ := pair
    unfold find? at h
    split at h
    · rename_i hk
      cases h
      rw [hk]
      exact List.mem_cons_self
    · exact List.mem_cons_of_mem _ (ih h)

theorem find?_of_mem (h : (keys bindings).Nodup) (hmem : (key, value) ∈ bindings) :
    find? key bindings = some value := by
  induction bindings with
  | nil => cases hmem
  | cons pair rest ih =>
    obtain ⟨k, v⟩ := pair
    rw [keys_cons, List.nodup_cons] at h
    unfold find?
    rcases List.mem_cons.mp hmem with heq | hrest
    · cases heq
      rw [if_pos rfl]
    · have hne : k ≠ key := fun heq => h.1 (heq ▸ List.mem_map_of_mem hrest)
      rw [if_neg hne]
      exact ih h.2 hrest

theorem find?_eq_some_iff (h : (keys bindings).Nodup) :
    find? key bindings = some value ↔ (key, value) ∈ bindings :=
  ⟨mem_of_find?, find?_of_mem h⟩

/-- Bindings in another order bind the same keys to the same values. -/
theorem find?_perm {others : Bindings κ ν} (h : (keys bindings).Nodup)
    (hperm : bindings.Perm others) (key : κ) : find? key others = find? key bindings := by
  have hothers : (keys others).Nodup := (hperm.map Prod.fst).nodup_iff.mp h
  ext value
  rw [find?_eq_some_iff hothers, find?_eq_some_iff h, hperm.mem_iff]

theorem find?_eq_none_iff : find? key bindings = none ↔ ∀ pair ∈ bindings, pair.1 ≠ key := by
  induction bindings with
  | nil => simp [find?]
  | cons pair rest ih =>
    obtain ⟨k, v⟩ := pair
    rw [List.forall_mem_cons, find?, ← ih]
    split
    · rename_i hk
      simp [hk]
    · rename_i hk
      simp [hk]

theorem mem_keys_iff : key ∈ keys bindings ↔ ∃ value, find? key bindings = some value := by
  rw [← Option.ne_none_iff_exists', ne_eq, find?_eq_none_iff]
  simp [keys]

omit [DecidableEq κ] in
/-- No fewer bindings that bind no other keys bind all of them. -/
theorem keys_subset_of_length_le {others : Bindings κ ν} (h : (keys bindings).Nodup)
    (hsubset : keys bindings ⊆ keys others) (hlength : others.length ≤ bindings.length) :
    keys others ⊆ keys bindings := by
  have hperm : (keys bindings).Perm (keys others) :=
    (List.subperm_of_subset h hsubset).perm_of_length_le (by simpa [keys] using hlength)
  exact hperm.symm.subset

/-! ### What comes of pairs -/

theorem find?_append (key : κ) (first second : Bindings κ ν) :
    find? key (first ++ second) = (find? key first).or (find? key second) := by
  induction first with
  | nil => rfl
  | cons pair rest ih =>
    obtain ⟨k, v⟩ := pair
    rw [List.cons_append, find?, find?, ih]
    split
    · rfl
    · rfl

/-- **The last pair of a key counts.** -/
theorem find?_insertAll (key : κ) (bindings pairs : Bindings κ ν) :
    find? key (insertAll bindings pairs) = (find? key pairs.reverse).or (find? key bindings) := by
  unfold insertAll
  induction pairs generalizing bindings with
  | nil => rfl
  | cons pair pairs ih =>
    obtain ⟨k, v⟩ := pair
    have hsingle : find? key [(k, v)] = if key = k then some v else none := by
      simp only [find?, eq_comm]
    rw [List.foldl_cons, ih, find?_insert, List.reverse_cons, find?_append, hsingle,
      Option.or_assoc]
    split
    · rfl
    · rfl

/-- **Keys stand in the order in which they first came.** -/
theorem keys_insertAll (bindings pairs : Bindings κ ν) :
    keys (insertAll bindings pairs) =
      keys bindings ++ ((keys pairs).removeAll (keys bindings)).eraseDups := by
  unfold insertAll
  induction pairs generalizing bindings with
  | nil => exact (List.append_nil _).symm
  | cons pair pairs ih =>
    obtain ⟨k, v⟩ := pair
    rw [List.foldl_cons, ih, keys_insert, keys_cons, List.cons_removeAll]
    by_cases hmem : k ∈ keys bindings
    · rw [if_pos hmem, if_neg (by simpa using hmem)]
    · have hnew : (keys pairs).removeAll (keys bindings ++ [k]) =
          ((keys pairs).removeAll (keys bindings)).filter fun key => !key == k := by
        simp [List.removeAll, List.filter_filter, Bool.and_comm, beq_eq_decide]
      rw [if_neg hmem, if_pos (by simpa using hmem), hnew, List.eraseDups_cons, List.append_assoc,
        List.singleton_append]

theorem find?_reverse_eq_some_iff :
    find? key bindings.reverse = some value ↔
      ∃ before after, bindings = before ++ (key, value) :: after ∧
        ∀ pair ∈ after, pair.1 ≠ key := by
  constructor
  · intro h
    induction bindings with
    | nil => cases h
    | cons pair rest ih =>
      rw [List.reverse_cons, find?_append, Option.or_eq_some_iff] at h
      rcases h with hrest | ⟨hnone, hpair⟩
      · obtain ⟨before, after, rfl, hafter⟩ := ih hrest
        exact ⟨pair :: before, after, rfl, hafter⟩
      · obtain rfl : (key, value) = pair := List.mem_singleton.mp (mem_of_find? hpair)
        have hall := find?_eq_none_iff.mp hnone
        exact ⟨[], rest, rfl, fun pair hpair => hall pair (List.mem_reverse.mpr hpair)⟩
  · rintro ⟨before, after, rfl, hafter⟩
    have hnone : find? key after.reverse = none :=
      find?_eq_none_iff.mpr fun pair hpair => hafter pair (List.mem_reverse.mp hpair)
    rw [List.reverse_append, List.reverse_cons, find?_append, find?_append, hnone]
    simp [find?]

end FrameLisp.Bindings
