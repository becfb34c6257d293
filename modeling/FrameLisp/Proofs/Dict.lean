import FrameLisp.Method
import FrameLisp.Proofs.Bindings
import FrameLisp.Value.Equality

/-!
# Dicts of pairs

A dict is made of pairs, one after the other.  The first pair whose key cannot be one stops that.
Otherwise each key has the value of its last pair and the place of its first (`Value.Holds`), so a
dict is made again of its own items (`Value.ofPairs_items`).
-/

namespace FrameLisp

/-! ### Keys and values in turn -/

/-- Two for each. -/
theorem length_flatMap_pair {α β : Type} (f g : α → β) (items : List α) :
    (items.flatMap fun item => [f item, g item]).length = 2 * items.length := by
  induction items with
  | nil => rfl
  | cons item items ih =>
    simp only [List.flatMap_cons, List.length_append, List.length_cons, List.length_nil, ih]
    omega

/-- The keys and values of pairs in turn. -/
def inTurn (pairs : List (Value × Value)) : List Value :=
  pairs.flatMap fun pair => [pair.1, pair.2]

namespace Operation

theorem pairUp_inTurn (pairs : List (Value × Value)) : pairUp (inTurn pairs) = .ok pairs := by
  induction pairs with
  | nil => rfl
  | cons pair pairs ih =>
    show pairUp (pair.1 :: pair.2 :: inTurn pairs) = _
    rw [pairUp, ih]
    rfl

/-- Keys and values in turn make the dict of the pairs. -/
theorem makeDict_inTurn (pairs : List (Value × Value)) :
    makeDict (inTurn pairs) = Stop.lift (Value.ofPairs pairs) := by
  have hlength : (inTurn pairs).length = 2 * pairs.length :=
    length_flatMap_pair Prod.fst Prod.snd pairs
  unfold makeDict
  rw [if_neg (by omega), pairUp_inTurn]
  rfl

end Operation

/-! ### Looking up -/

section Functions

variable {entries : List (Key × Value)} {key : Value} {defaults : List Value}

theorem Operation.run_get (h : defaults.length ≤ 1) :
    get.run (.dict entries :: key :: defaults) =
      .ok ((Operation.entry? entries key).getD (defaults.head?.getD .nil)) := by
  match defaults, h with
  | [], _ => rfl
  | [default], _ => rfl

theorem DictMethod.run_get (h : defaults.length ≤ 1) :
    get.run entries (key :: defaults) =
      .ok ((Operation.entry? entries key).getD (defaults.head?.getD .nil)) := by
  match defaults, h with
  | [], _ => rfl
  | [default], _ => rfl

end Functions

namespace Value

/-- An entry as a pair of values. -/
def ofEntry (entry : Key × Value) : Value × Value :=
  (entry.1.toValue, entry.2)

theorem toValue_injective {a b : Key} (h : a.toValue = b.toValue) : a = b := by
  rw [← Option.some_inj, ← key?_toValue, h, key?_toValue]

/-! ### Pairs whose keys can be keys -/

theorem exists_entries {pairs : List (Value × Value)} (h : ∀ pair ∈ pairs, pair.1.key? ≠ none) :
    ∃ entries : List (Key × Value), pairs = entries.map ofEntry := by
  induction pairs with
  | nil => exact ⟨[], rfl⟩
  | cons pair pairs ih =>
    obtain ⟨hpair, hpairs⟩ := List.forall_mem_cons.mp h
    obtain ⟨entries, rfl⟩ := ih hpairs
    obtain ⟨key, hkey⟩ := Option.ne_none_iff_exists'.mp hpair
    refine ⟨(key, pair.2) :: entries, ?_⟩
    rw [List.map_cons, ofEntry, ← key?_eq_some_iff.mp hkey]

theorem insertPairs_entries (bound entries : List (Key × Value)) :
    insertPairs bound (entries.map ofEntry) = .ok (Bindings.insertAll bound entries) := by
  induction entries generalizing bound with
  | nil => rfl
  | cons entry entries ih =>
    rw [List.map_cons, ofEntry, insertPairs, key?_toValue]
    exact ih _

theorem ofPairs_entries (entries : List (Key × Value)) :
    ofPairs (entries.map ofEntry) = .ok (dict (Bindings.insertAll [] entries)) := by
  unfold ofPairs
  rw [insertPairs_entries]
  rfl

/-- The first pair whose key cannot be one stops the making of a dict. -/
theorem ofPairs_unhashable (entries : List (Key × Value)) {key : Value} (h : key.key? = none)
    (value : Value) (rest : List (Value × Value)) :
    ofPairs (entries.map ofEntry ++ (key, value) :: rest) = .error (.unhashable key.typeName) := by
  have hstops (bound : List (Key × Value)) :
      insertPairs bound (entries.map ofEntry ++ (key, value) :: rest) =
        .error (.unhashable key.typeName) := by
    induction entries generalizing bound with
    | nil => rw [List.map_nil, List.nil_append, insertPairs, h]
    | cons entry entries ih =>
      rw [List.map_cons, List.cons_append, ofEntry, insertPairs, key?_toValue]
      exact ih _
  unfold ofPairs
  rw [hstops]
  rfl

/-- A dict is made again of its items. -/
theorem ofPairs_items {entries : List (Key × Value)} (h : (Bindings.keys entries).Nodup) :
    ofPairs (entries.map ofEntry) = .ok (dict entries) := by
  have hnodup : (Bindings.keys ([] ++ entries)).Nodup := h
  rw [ofPairs_entries, Bindings.insertAll_of_nodup hnodup]
  rfl

/-- What the method of a name gives for a value that has it. -/
def invoke? (receiver : Value) (name : String) (args : List Value) :
    Option (Except Stop Value) :=
  (receiver.method? name).map fun method => method.run args

/-! ### What pairs say -/

/-- A value is that of the last pair with a key. -/
def IsLatest (pairs : List (Value × Value)) (key value : Value) : Prop :=
  ∃ before after, pairs = before ++ (key, value) :: after ∧ ∀ pair ∈ after, pair.1 ≠ key

/-- A value is that of the last pair with a key, or a default if there is no such pair. -/
def IsUnder (pairs : List (Value × Value)) (key default value : Value) : Prop :=
  IsLatest pairs key value ∨ (∀ pair ∈ pairs, pair.1 ≠ key) ∧ value = default

theorem isLatest_entries {entries : List (Key × Value)} {key : Key} {value : Value} :
    IsLatest (entries.map ofEntry) key.toValue value ↔
      Bindings.find? key entries.reverse = some value := by
  rw [Bindings.find?_reverse_eq_some_iff]
  constructor
  · rintro ⟨before, after, h, hafter⟩
    obtain ⟨first, rest, rfl, rfl, hrest⟩ := List.map_eq_append_iff.mp h
    obtain ⟨⟨k, v⟩, last, rfl, hentry, rfl⟩ := List.map_eq_cons_iff.mp hrest
    obtain ⟨hk, rfl⟩ := Prod.mk.inj hentry
    obtain rfl := toValue_injective hk
    refine ⟨first, last, rfl, fun entry hmem heq => ?_⟩
    exact hafter (ofEntry entry) (List.mem_map_of_mem hmem) (congrArg Key.toValue heq)
  · rintro ⟨before, after, rfl, hafter⟩
    refine ⟨before.map ofEntry, after.map ofEntry, by rw [List.map_append]; rfl, ?_⟩
    rintro pair hpair heq
    obtain ⟨entry, hmem, rfl⟩ := List.mem_map.mp hpair
    exact hafter entry hmem (toValue_injective heq)

/-- The entries of a dict hold what pairs say. -/
structure Holds (entries : List (Key × Value)) (pairs : List (Value × Value)) : Prop where
  /-- No two keys are equal. -/
  distinct : entries.Pairwise fun a b => a.1.toValue.equal b.1.toValue = false
  /-- The keys stand in the order in which they first come in the pairs. -/
  order : Bindings.keys entries = (pairs.filterMap fun pair => pair.1.key?).eraseDups
  /-- Each has the value of its last pair. -/
  latest : ∀ key value, (key, value) ∈ entries ↔ IsLatest pairs key.toValue value

theorem holds_insertAll (entries : List (Key × Value)) :
    Holds (Bindings.insertAll [] entries) (entries.map ofEntry) := by
  have hempty : (Bindings.keys ([] : List (Key × Value))).Nodup := List.nodup_nil
  have hnodup := Bindings.nodup_keys_insertAll hempty entries
  refine ⟨?_, ?_, fun key value => ?_⟩
  · refine (List.pairwise_map.mp hnodup).imp fun {a b} hne => ?_
    exact Bool.eq_false_iff.mpr fun hequal => hne ((equal_toValue_iff _ _).mp hequal)
  · have hkeys : (entries.map ofEntry).filterMap (fun pair => pair.1.key?) =
        Bindings.keys entries := by
      rw [List.filterMap_map]
      show entries.filterMap (fun entry => entry.1.toValue.key?) = _
      simp only [key?_toValue]
      exact congrFun List.filterMap_eq_map' entries
    rw [hkeys, Bindings.keys_insertAll]
    show ((Bindings.keys entries).filter fun _ => true).eraseDups = _
    rw [List.filter_true]
  · rw [isLatest_entries, ← Option.or_none (o := Bindings.find? key entries.reverse)]
    show _ ↔ (Bindings.find? key entries.reverse).or (Bindings.find? key []) = some value
    rw [← Bindings.find?_insertAll]
    exact ⟨Bindings.find?_of_mem hnodup, Bindings.mem_of_find?⟩

theorem isUnder_entry? (entries : List (Key × Value)) (key default : Value) :
    IsUnder (entries.map ofEntry) key default
      ((Operation.entry? (Bindings.insertAll [] entries) key).getD default) := by
  have habsent (h : ∀ entry ∈ entries, entry.1.toValue ≠ key) :
      ∀ pair ∈ entries.map ofEntry, pair.1 ≠ key := by
    intro pair hpair
    obtain ⟨entry, hmem, rfl⟩ := List.mem_map.mp hpair
    exact h entry hmem
  cases hkey : key.key? with
  | none =>
    refine .inr ⟨habsent fun entry _ heq => ?_, by rw [Operation.entry?, hkey]; rfl⟩
    rw [← heq, key?_toValue] at hkey
    cases hkey
  | some k =>
    obtain rfl := key?_eq_some_iff.mp hkey
    rw [Operation.entry?, key?_toValue, Option.bind_some, Bindings.find?_insertAll]
    cases hfind : Bindings.find? k entries.reverse with
    | some value => exact .inl (isLatest_entries.mpr hfind)
    | none =>
      refine .inr ⟨habsent fun entry hmem heq => ?_, rfl⟩
      exact Bindings.find?_eq_none_iff.mp hfind entry (List.mem_reverse.mpr hmem)
        (toValue_injective heq)

end Value

end FrameLisp
