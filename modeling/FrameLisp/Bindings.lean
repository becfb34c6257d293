/-!
# Bindings in the order they were made

A list of pairs that is read as a map.  A key that is bound again keeps its place and takes the new
value; a new key goes to the end.  So the keys stand in the order in which they first came, which is
the order in which frames, dicts and modules show them.
-/

namespace FrameLisp

/-- Keys with their values, in the order in which the keys first came. -/
abbrev Bindings (κ ν : Type) := List (κ × ν)

namespace Bindings

variable {κ ν : Type}

/-- The keys in the order in which they first came. -/
def keys (bindings : Bindings κ ν) : List κ :=
  bindings.map Prod.fst

@[simp]
theorem keys_cons (key : κ) (value : ν) (bindings : Bindings κ ν) :
    keys ((key, value) :: bindings) = key :: keys bindings := rfl

variable [DecidableEq κ]

/-- The value bound to a key. -/
def find? (key : κ) : Bindings κ ν → Option ν
  | [] => none
  | (k, v) :: rest => if k = key then some v else find? key rest

/-- Binds a key to a value: in its place if it is bound, at the end if not. -/
def insert (key : κ) (value : ν) : Bindings κ ν → Bindings κ ν
  | [] => [(key, value)]
  | (k, v) :: rest => if k = key then (key, value) :: rest else (k, v) :: insert key value rest

/-- Binds several keys one after the other. -/
def insertAll (bindings : Bindings κ ν) (pairs : List (κ × ν)) : Bindings κ ν :=
  pairs.foldl (fun bindings pair => insert pair.1 pair.2 bindings) bindings

theorem find?_insert (key other : κ) (value : ν) (bindings : Bindings κ ν) :
    find? other (insert key value bindings) =
      if other = key then some value else find? other bindings := by
  induction bindings with
  | nil => simp [insert, find?, eq_comm]
  | cons pair rest ih =>
    obtain ⟨k, v⟩ := pair
    by_cases hk : k = key
    · subst hk
      by_cases ho : other = k
      · simp [insert, find?, ho]
      · simp [insert, find?, ho, Ne.symm ho]
    · by_cases ho : k = other
      · subst ho
        simp [insert, find?, hk]
      · simp [insert, find?, hk, ho, ih]

/-- **Order of keys.**  Binding a key that is there keeps the order; a new key goes to the end. -/
theorem keys_insert (key : κ) (value : ν) (bindings : Bindings κ ν) :
    keys (insert key value bindings) =
      if key ∈ keys bindings then keys bindings else keys bindings ++ [key] := by
  induction bindings with
  | nil => simp [insert, keys]
  | cons pair rest ih =>
    obtain ⟨k, v⟩ := pair
    by_cases hk : k = key
    · simp [insert, hk]
    · have hk' : key ≠ k := Ne.symm hk
      rw [insert, if_neg hk, keys_cons, keys_cons, ih]
      by_cases hm : key ∈ keys rest
      · rw [if_pos hm, if_pos (List.mem_cons_of_mem k hm)]
      · rw [if_neg hm, if_neg (by simpa [hk'] using hm), List.cons_append]

end Bindings

end FrameLisp
