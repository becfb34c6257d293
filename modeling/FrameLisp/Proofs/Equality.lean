import FrameLisp.Operation
import FrameLisp.Proofs.Dict
import Mathlib.Data.List.Forall2
import Mathlib.Logic.Relation

/-!
# Equality without floats

A value that holds no others is told apart by its `Identity`, its content or the number it was given
when it came to be.  Lists are compared item by item.  Dicts are compared entry by entry, and as no
key comes twice, two dicts of the same size have the same keys if one has no others: they are equal
if they have equal values under each key (`dict_equal_dict_iff`).

So equality is an equivalence on values without floats, in which the order of dicts does not matter
(`FloatFree.equal_of_reordered`).  Equal values are interchangeable as keys, and in their truth,
count and type (`FloatFree.interchangeable`), and methods that look for items find the same in equal
lists (`equality_coherent`).
-/

namespace FrameLisp.Value

/-! ### Values without floats -/

/-- What tells values apart that hold no others. -/
inductive Identity where
  /-- A value that can be a key is told apart by its content. -/
  | plain (key : Key)
  /-- A function of the program, by its number. -/
  | function (ref : Nat)
  /-- A builtin, by its number. -/
  | builtin (ref : Nat)
  /-- An error class, by its kind. -/
  | errorClass (kind : Fault.Kind)
  /-- A caught fault, by its number. -/
  | exception (ref : Nat)
  /-- An object, by its number. -/
  | object (ref : Nat)
  /-- A module, by its number. -/
  | module (ref : Nat)

/-- The identity of a value that holds no others and is no float.  A module is an object of its own,
whatever its members are. -/
def identity? : Value → Option Identity
  | function ref _ => some (.function ref)
  | builtin ref _ => some (.builtin ref)
  | errorClass kind => some (.errorClass kind)
  | exception ref _ => some (.exception ref)
  | object ref _ => some (.object ref)
  | module ref _ _ => some (.module ref)
  | value => value.key?.map .plain

/-- No float is in a value, at any depth.  No key comes twice in a dict, as it is in all dicts that
are made of pairs (`floatFree_ofPairs`). -/
inductive FloatFree : Value → Prop
  /-- A value that holds no others. -/
  | atom {value : Value} (h : value.identity?.isSome = true) : FloatFree value
  /-- A list of such values. -/
  | list {items : List Value} (h : ∀ item ∈ items, FloatFree item) : FloatFree (list items)
  /-- A dict of such values. -/
  | dict {entries : List (Key × Value)} (hnodup : (Bindings.keys entries).Nodup)
    (h : ∀ entry ∈ entries, FloatFree entry.2) : FloatFree (dict entries)

theorem FloatFree.of_mem_items {items : List Value} (h : FloatFree (.list items)) :
    ∀ item ∈ items, FloatFree item := by
  cases h with
  | atom h => cases h
  | list h => exact h

section Entries

variable {entries : List (Key × Value)}

theorem FloatFree.nodup_keys (h : FloatFree (.dict entries)) : (Bindings.keys entries).Nodup := by
  cases h with
  | atom h => cases h
  | dict hnodup h => exact hnodup

theorem FloatFree.of_mem_entries (h : FloatFree (.dict entries)) :
    ∀ entry ∈ entries, FloatFree entry.2 := by
  cases h with
  | atom h => cases h
  | dict hnodup h => exact h

theorem FloatFree.of_find? (h : FloatFree (.dict entries)) {key : Key} {value : Value}
    (hfind : Bindings.find? key entries = some value) : FloatFree value :=
  h.of_mem_entries (key, value) (Bindings.mem_of_find? hfind)

theorem floatFree_insertPairs {pairs : List (Value × Value)} {made : List (Key × Value)}
    (hentries : FloatFree (dict entries)) (hpairs : ∀ pair ∈ pairs, FloatFree pair.2)
    (h : insertPairs entries pairs = .ok made) : FloatFree (dict made) := by
  induction pairs generalizing entries with
  | nil =>
    cases h
    exact hentries
  | cons pair pairs ih =>
    obtain ⟨k, v⟩ := pair
    obtain ⟨hvalue, hrest⟩ := List.forall_mem_cons.mp hpairs
    rw [insertPairs] at h
    split at h
    · rename_i key hkey
      refine ih ?_ hrest h
      refine .dict (Bindings.nodup_keys_insert hentries.nodup_keys key v) ?_
      rintro ⟨other, value⟩ hmem
      rcases Bindings.mem_insert hmem with ⟨rfl, rfl⟩ | hold
      · exact hvalue
      · exact hentries.of_mem_entries _ hold
    · cases h

/-- A dict that is made of values without floats has none. -/
theorem floatFree_ofPairs {pairs : List (Value × Value)} {value : Value}
    (hpairs : ∀ pair ∈ pairs, FloatFree pair.2) (h : ofPairs pairs = .ok value) :
    FloatFree value := by
  have hempty : FloatFree (dict []) := .dict List.nodup_nil nofun
  unfold ofPairs at h
  cases hmade : insertPairs [] pairs with
  | error fault =>
    rw [hmade] at h
    cases h
  | ok made =>
    rw [hmade] at h
    cases h
    exact floatFree_insertPairs hempty hpairs hmade

end Entries

/-! ### When values are equal -/

theorem equal_iff_identity {a b : Value} (ha : a.identity?.isSome = true) (hb : FloatFree b) :
    a.equal b = true ↔ a.identity? = b.identity? := by
  cases hb with
  | atom hb => cases a <;> cases b <;> simp_all [identity?, key?, equal]
  | list hb => cases a <;> simp_all [identity?, key?, equal]
  | dict hnodup hb => cases a <;> simp_all [identity?, key?, equal]

theorem equalItems_iff {as bs : List Value} :
    equalItems as bs = true ↔ List.Forall₂ (fun a b => a.equal b = true) as bs := by
  induction as generalizing bs with
  | nil => cases bs <;> simp [equalItems]
  | cons a as ih => cases bs <;> simp [equalItems, ih]

theorem list_equal_iff {items : List Value} {other : Value} :
    (list items).equal other = true ↔ ∃ others, other = list others ∧
      items.length = others.length ∧
      ∀ (i : Nat) (h : i < items.length) (h' : i < others.length),
        items[i].equal others[i] = true := by
  cases other <;> simp [equal, equalItems_iff, List.forall₂_iff_get]

theorem equalEntries_iff {as bs : List (Key × Value)} :
    equalEntries as bs = true ↔ ∀ entry ∈ as, ∃ other,
      Bindings.find? entry.1 bs = some other ∧ entry.2.equal other = true := by
  induction as with
  | nil => simp [equalEntries]
  | cons entry as ih =>
    obtain ⟨key, value⟩ := entry
    rw [equalEntries, Bool.and_eq_true, ih, List.forall_mem_cons]
    cases Bindings.find? key bs <;> simp

/-- **Dicts are equal if they have equal values under each key.** -/
theorem dict_equal_dict_iff {as bs : List (Key × Value)} (ha : (Bindings.keys as).Nodup)
    (hb : (Bindings.keys bs).Nodup) :
    (dict as).equal (dict bs) = true ↔ ∀ key,
      Option.Rel (fun a b => a.equal b = true) (Bindings.find? key as) (Bindings.find? key bs) := by
  rw [equal, Bool.and_eq_true, beq_iff_eq, equalEntries_iff]
  constructor
  · rintro ⟨hlength, hentries⟩ key
    cases hfind : Bindings.find? key as with
    | some value =>
      obtain ⟨other, hother, hequal⟩ := hentries _ (Bindings.mem_of_find? hfind)
      rw [hother]
      exact .some hequal
    | none =>
      have hsubset : Bindings.keys as ⊆ Bindings.keys bs := by
        intro key hkey
        obtain ⟨value, hvalue⟩ := Bindings.mem_keys_iff.mp hkey
        obtain ⟨other, hother, -⟩ := hentries _ (Bindings.mem_of_find? hvalue)
        exact Bindings.mem_keys_iff.mpr ⟨other, hother⟩
      have hback := Bindings.keys_subset_of_length_le ha hsubset (Nat.le_of_eq hlength.symm)
      cases hfind' : Bindings.find? key bs with
      | none => exact .none
      | some other =>
        -- the other dict would have one key more
        obtain ⟨value, hvalue⟩ :=
          Bindings.mem_keys_iff.mp (hback (Bindings.mem_keys_iff.mpr ⟨other, hfind'⟩))
        rw [hfind] at hvalue
        cases hvalue
  · intro h
    have hkeys (key : Key) : key ∈ Bindings.keys as ↔ key ∈ Bindings.keys bs := by
      have hrel := h key
      rw [Bindings.mem_keys_iff, Bindings.mem_keys_iff]
      generalize Bindings.find? key as = first, Bindings.find? key bs = second at hrel ⊢
      cases hrel <;> simp
    have hperm := (List.perm_ext_iff_of_nodup ha hb).mpr hkeys
    refine ⟨by simpa [Bindings.keys] using hperm.length_eq, ?_⟩
    rintro ⟨key, value⟩ hmem
    have hrel := h key
    rw [Bindings.find?_of_mem ha hmem] at hrel
    generalize hfind : Bindings.find? key bs = found at hrel
    cases hrel with
    | @some _ other hequal => exact ⟨other, rfl, hequal⟩

/-- A dict is equal to nothing but dicts. -/
theorem dict_equal_iff {entries : List (Key × Value)} {other : Value}
    (h : FloatFree (dict entries)) (hother : FloatFree other) :
    (dict entries).equal other = true ↔ ∃ others, other = dict others ∧ ∀ key,
      Option.Rel (fun a b => a.equal b = true) (Bindings.find? key entries)
        (Bindings.find? key others) := by
  constructor
  · intro hequal
    cases other with
    | dict others =>
      exact ⟨others, rfl, (dict_equal_dict_iff h.nodup_keys hother.nodup_keys).mp hequal⟩
    | _ => cases hequal
  · rintro ⟨others, rfl, hrel⟩
    exact (dict_equal_dict_iff h.nodup_keys hother.nodup_keys).mpr hrel

/-! ### An equivalence -/

namespace FloatFree

variable {a b c : Value}

theorem equal_self (h : FloatFree a) : a.equal a = true := by
  induction h with
  | atom h => exact (equal_iff_identity h (.atom h)).mpr rfl
  | list h ih =>
    exact list_equal_iff.mpr ⟨_, rfl, rfl, fun i hi _ => ih _ (List.getElem_mem hi)⟩
  | @dict entries hnodup h ih =>
    refine (dict_equal_dict_iff hnodup hnodup).mpr fun key => ?_
    cases hfind : Bindings.find? key entries with
    | none => exact .none
    | some value => exact .some (ih (key, value) (Bindings.mem_of_find? hfind))

theorem symm (ha : FloatFree a) (hb : FloatFree b) (h : a.equal b = true) : b.equal a = true := by
  induction ha generalizing b with
  | atom ha =>
    have hsame := (equal_iff_identity ha hb).mp h
    exact (equal_iff_identity (hsame ▸ ha) (.atom ha)).mpr hsame.symm
  | @list items hitems ih =>
    obtain ⟨others, rfl, hlength, hequal⟩ := list_equal_iff.mp h
    refine list_equal_iff.mpr ⟨items, rfl, hlength.symm, fun i hi hi' => ?_⟩
    exact ih _ (List.getElem_mem hi') (hb.of_mem_items _ (List.getElem_mem hi)) (hequal i hi' hi)
  | @dict entries hnodup hentries ih =>
    have ha : FloatFree (.dict entries) := .dict hnodup hentries
    obtain ⟨others, rfl, hequal⟩ := (dict_equal_iff ha hb).mp h
    refine (dict_equal_iff hb ha).mpr ⟨entries, rfl, fun key => ?_⟩
    have hrel := hequal key
    generalize hfind : Bindings.find? key entries = first,
      hfind' : Bindings.find? key others = second at hrel ⊢
    cases hrel with
    | none => exact .none
    | some hvalue =>
      exact .some (ih _ (Bindings.mem_of_find? hfind) (hb.of_find? hfind') hvalue)

theorem trans (ha : FloatFree a) (hb : FloatFree b) (hc : FloatFree c) (h : a.equal b = true)
    (h' : b.equal c = true) : a.equal c = true := by
  induction ha generalizing b c with
  | atom ha =>
    have hsame := (equal_iff_identity ha hb).mp h
    have hsame' := (equal_iff_identity (hsame ▸ ha) hc).mp h'
    exact (equal_iff_identity ha hc).mpr (hsame.trans hsame')
  | @list items hitems ih =>
    obtain ⟨others, rfl, hlength, hequal⟩ := list_equal_iff.mp h
    obtain ⟨further, rfl, hlength', hequal'⟩ := list_equal_iff.mp h'
    refine list_equal_iff.mpr ⟨further, rfl, hlength.trans hlength', fun i hi hi' => ?_⟩
    have hother : i < others.length := hlength ▸ hi
    exact ih _ (List.getElem_mem hi) (hb.of_mem_items _ (List.getElem_mem hother))
      (hc.of_mem_items _ (List.getElem_mem hi')) (hequal i hi hother) (hequal' i hother hi')
  | @dict entries hnodup hentries ih =>
    have ha : FloatFree (.dict entries) := .dict hnodup hentries
    obtain ⟨others, rfl, hequal⟩ := (dict_equal_iff ha hb).mp h
    obtain ⟨further, rfl, hequal'⟩ := (dict_equal_iff hb hc).mp h'
    refine (dict_equal_iff ha hc).mpr ⟨further, rfl, fun key => ?_⟩
    have hrel := hequal key
    have hrel' := hequal' key
    generalize hfind : Bindings.find? key entries = first,
      hfind' : Bindings.find? key others = second,
      hfind'' : Bindings.find? key further = third at hrel hrel' ⊢
    cases hrel with
    | none =>
      cases hrel'
      exact .none
    | some hvalue =>
      cases hrel' with
      | some hvalue' =>
        exact .some (ih _ (Bindings.mem_of_find? hfind) (hb.of_find? hfind') (hc.of_find? hfind'')
          hvalue hvalue')

/-- Equal values are equal to the same values. -/
theorem equal_congr {d : Value} (ha : FloatFree a) (hb : FloatFree b) (hc : FloatFree c)
    (hd : FloatFree d) (h : a.equal b = true) (h' : c.equal d = true) :
    a.equal c = b.equal d := by
  rw [Bool.eq_iff_iff]
  constructor
  · intro hequal
    exact hb.trans hc hd (hb.trans ha hc (ha.symm hb h) hequal) h'
  · intro hequal
    exact ha.trans hd hc (ha.trans hb hd h hequal) (hc.symm hd h')

end FloatFree

/-! ### The order of dicts -/

/-- Somewhere in a value, the entries of a dict stand in another order. -/
inductive Reordered : Value → Value → Prop
  /-- A dict itself. -/
  | entries {as bs : List (Key × Value)} (h : as.Perm bs) : Reordered (dict as) (dict bs)
  /-- In an item of a list. -/
  | item {before after : List Value} {a b : Value} (h : Reordered a b) :
    Reordered (list (before ++ a :: after)) (list (before ++ b :: after))
  /-- In a value of a dict. -/
  | value {before after : List (Key × Value)} {key : Key} {a b : Value} (h : Reordered a b) :
    Reordered (dict (before ++ (key, a) :: after)) (dict (before ++ (key, b) :: after))

section Change

variable {a b : Value}

theorem FloatFree.equal_item {before after : List Value}
    (h : FloatFree (.list (before ++ a :: after))) (hequal : a.equal b = true) :
    (Value.list (before ++ a :: after)).equal (.list (before ++ b :: after)) = true := by
  obtain ⟨hbefore, hrest⟩ := List.forall_mem_append.mp h.of_mem_items
  obtain ⟨-, hafter⟩ := List.forall_mem_cons.mp hrest
  have hself {items : List Value} (h : ∀ item ∈ items, FloatFree item) :
      List.Forall₂ (fun a b => a.equal b = true) items items :=
    List.forall₂_same.mpr fun item hitem => (h item hitem).equal_self
  rw [equal, equalItems_iff]
  exact List.rel_append (hself hbefore) (.cons hequal (hself hafter))

theorem FloatFree.equal_value {before after : List (Key × Value)} {key : Key}
    (h : FloatFree (.dict (before ++ (key, a) :: after)))
    (h' : FloatFree (.dict (before ++ (key, b) :: after))) (hequal : a.equal b = true) :
    (Value.dict (before ++ (key, a) :: after)).equal (.dict (before ++ (key, b) :: after)) =
      true := by
  have hself := (dict_equal_dict_iff h.nodup_keys h.nodup_keys).mp h.equal_self
  refine (dict_equal_dict_iff h.nodup_keys h'.nodup_keys).mpr fun other => ?_
  have hsame := hself other
  simp only [Bindings.find?_append, Bindings.find?] at hsame ⊢
  cases hbefore : Bindings.find? other before with
  | some value =>
    rw [hbefore] at hsame
    exact hsame
  | none =>
    simp only [hbefore, Option.none_or] at hsame ⊢
    split
    · exact .some hequal
    · rename_i hne
      rw [if_neg hne] at hsame
      exact hsame

theorem Reordered.step (h : Reordered a b) (ha : FloatFree a) :
    FloatFree b ∧ a.equal b = true := by
  induction h with
  | @entries as bs hperm =>
    have hnodup := ha.nodup_keys
    have hnodup' : (Bindings.keys bs).Nodup := (hperm.map Prod.fst).nodup_iff.mp hnodup
    refine ⟨.dict hnodup' fun entry hmem => ha.of_mem_entries entry (hperm.mem_iff.mpr hmem), ?_⟩
    refine (dict_equal_dict_iff hnodup hnodup').mpr fun key => ?_
    rw [Bindings.find?_perm hnodup hperm]
    exact (dict_equal_dict_iff hnodup hnodup).mp ha.equal_self key
  | @item before after a b h ih =>
    obtain ⟨hbefore, hrest⟩ := List.forall_mem_append.mp ha.of_mem_items
    obtain ⟨hitem, hafter⟩ := List.forall_mem_cons.mp hrest
    obtain ⟨hother, hequal⟩ := ih hitem
    refine ⟨.list ?_, ha.equal_item hequal⟩
    exact List.forall_mem_append.mpr ⟨hbefore, List.forall_mem_cons.mpr ⟨hother, hafter⟩⟩
  | @value before after key a b h ih =>
    obtain ⟨hbefore, hrest⟩ := List.forall_mem_append.mp ha.of_mem_entries
    obtain ⟨hvalue, hafter⟩ := List.forall_mem_cons.mp hrest
    obtain ⟨hother, hequal⟩ := ih hvalue
    have hnodup := ha.nodup_keys
    have hb : FloatFree (dict (before ++ (key, b) :: after)) := by
      refine .dict (by simpa [Bindings.keys] using hnodup) ?_
      exact List.forall_mem_append.mpr ⟨hbefore, List.forall_mem_cons.mpr ⟨hother, hafter⟩⟩
    exact ⟨hb, ha.equal_value hb hequal⟩

/-- **The order of dicts does not matter**, at any level. -/
theorem FloatFree.equal_of_reordered (ha : FloatFree a)
    (h : Relation.ReflTransGen Reordered a b) : FloatFree b ∧ a.equal b = true := by
  induction h with
  | refl => exact ⟨ha, ha.equal_self⟩
  | @tail b c h hstep ih =>
    obtain ⟨hb, hequal⟩ := ih
    obtain ⟨hc, hequal'⟩ := hstep.step hb
    exact ⟨hc, ha.trans hb hc hequal hequal'⟩

end Change

/-! ### What cannot tell equal values apart -/

/-- Two values can stand for each other as keys, and are as much and of the same type. -/
structure Interchangeable (a b : Value) : Prop where
  /-- Their hashes see the same. -/
  hash : a.hashParts = b.hashParts
  /-- As keys of pairs they make the same dict, or none for the same reason. -/
  made : ∀ before after value, Operation.dict.run (inTurn (before ++ (a, value) :: after)) =
    Operation.dict.run (inTurn (before ++ (b, value) :: after))
  /-- They find the same by the method of a dict. -/
  found : ∀ entries defaults, defaults.length ≤ 1 →
    (dict entries).invoke? "get" (a :: defaults) = (dict entries).invoke? "get" (b :: defaults)
  /-- They find the same by the function of the prelude. -/
  got : ∀ entries defaults, defaults.length ≤ 1 →
    Operation.get.run (dict entries :: a :: defaults) =
      Operation.get.run (dict entries :: b :: defaults)
  /-- Both count as true or both as false. -/
  truthy : a.isTruthy = b.isTruthy
  /-- They hold as much, or both have no count. -/
  count : Operation.count.run [a] = Operation.count.run [b]
  /-- They are of the same type. -/
  type : Operation.type.run [a] = Operation.type.run [b]

section Keys

variable {a b : Value}

theorem insertPairs_congr (hkey : a.key? = b.key?) (htype : a.typeName = b.typeName)
    (entries : List (Key × Value)) (before after : List (Value × Value)) (value : Value) :
    insertPairs entries (before ++ (a, value) :: after) =
      insertPairs entries (before ++ (b, value) :: after) := by
  induction before generalizing entries with
  | nil =>
    rw [List.nil_append, List.nil_append, insertPairs, insertPairs, hkey, htype]
  | cons pair before ih =>
    rw [List.cons_append, List.cons_append, insertPairs, insertPairs]
    split
    · exact ih _
    · rfl

theorem entry?_congr (hkey : a.key? = b.key?) (entries : List (Key × Value)) :
    Operation.entry? entries a = Operation.entry? entries b := by
  rw [Operation.entry?, Operation.entry?, hkey]

theorem interchangeable_of_key? (hkey : a.key? = b.key?) (hhash : a.hashParts = b.hashParts)
    (htype : a.typeName = b.typeName) (htruthy : a.isTruthy = b.isTruthy)
    (hcount : Operation.countOf a = Operation.countOf b) : Interchangeable a b where
  hash := hhash
  made before after value := by
    show Operation.makeDict _ = Operation.makeDict _
    rw [Operation.makeDict_inTurn, Operation.makeDict_inTurn, ofPairs, ofPairs,
      insertPairs_congr hkey htype]
  found entries defaults h := by
    show some (DictMethod.get.run _ _) = some (DictMethod.get.run _ _)
    rw [DictMethod.run_get h, DictMethod.run_get h, entry?_congr hkey]
  got entries defaults h := by
    rw [Operation.run_get h, Operation.run_get h, entry?_congr hkey]
  truthy := htruthy
  count := by
    show Stop.lift _ = Stop.lift _
    rw [hcount]
  type := by
    show Except.ok (Value.str _) = Except.ok (.str _)
    rw [htype]

theorem isEmpty_eq_of_length_eq {α : Type} {as bs : List α} (h : as.length = bs.length) :
    as.isEmpty = bs.isEmpty := by
  rw [Bool.eq_iff_iff, List.isEmpty_iff_length_eq_zero, List.isEmpty_iff_length_eq_zero, h]

theorem interchangeable_of_identity (ha : a.identity?.isSome = true)
    (h : a.identity? = b.identity?) : Interchangeable a b := by
  cases a <;> cases b <;> cases h <;>
    first
    | exact interchangeable_of_key? rfl rfl rfl rfl rfl
    | cases ha

/-- **Equal values are interchangeable.** -/
theorem FloatFree.interchangeable (ha : FloatFree a) (hb : FloatFree b) (h : a.equal b = true) :
    Interchangeable a b := by
  cases ha with
  | atom ha => exact interchangeable_of_identity ha ((equal_iff_identity ha hb).mp h)
  | @list items hitems =>
    obtain ⟨others, rfl, hlength, -⟩ := list_equal_iff.mp h
    refine interchangeable_of_key? rfl rfl rfl ?_ ?_
    · rw [isTruthy, isTruthy, isEmpty_eq_of_length_eq hlength]
    · rw [Operation.countOf, Operation.countOf, hlength]
  | @dict entries hnodup hentries =>
    obtain ⟨others, rfl, -⟩ := (dict_equal_iff (.dict hnodup hentries) hb).mp h
    rw [equal, Bool.and_eq_true, beq_iff_eq] at h
    obtain ⟨hlength, -⟩ := h
    refine interchangeable_of_key? rfl rfl rfl ?_ ?_
    · rw [isTruthy, isTruthy, isEmpty_eq_of_length_eq hlength]
    · rw [Operation.countOf, Operation.countOf, hlength]

end Keys

/-! ### Comparing neighbours, looking for items -/

theorem allEqual_iff {args : List Value} (h : ∀ arg ∈ args, FloatFree arg) :
    Operation.allEqual args = true ↔ ∀ a ∈ args, ∀ b ∈ args, a.equal b = true := by
  induction args with
  | nil => simp [Operation.allEqual]
  | cons a rest ih =>
    obtain ⟨ha, hrest⟩ := List.forall_mem_cons.mp h
    cases rest with
    | nil => simp [Operation.allEqual, ha.equal_self]
    | cons b rest =>
      have hb := hrest b List.mem_cons_self
      rw [Operation.allEqual, Bool.and_eq_true, ih hrest]
      constructor
      · rintro ⟨hfirst, hall⟩
        -- what equals the second value equals the first
        have hequal : ∀ c ∈ b :: rest, a.equal c = true := fun c hc =>
          ha.trans hb (hrest c hc) hfirst (hall b List.mem_cons_self c hc)
        intro c hc d hd
        rcases List.mem_cons.mp hc with rfl | hc'
        · rcases List.mem_cons.mp hd with rfl | hd'
          · exact ha.equal_self
          · exact hequal d hd'
        · rcases List.mem_cons.mp hd with rfl | hd'
          · exact ha.symm (hrest c hc') (hequal c hc')
          · exact hall c hc' d hd'
      · intro hall
        refine ⟨hall a List.mem_cons_self b (List.mem_cons_of_mem _ List.mem_cons_self), ?_⟩
        exact fun c hc d hd => hall c (List.mem_cons_of_mem _ hc) d (List.mem_cons_of_mem _ hd)

section Search

variable {items others : List Value} {a b : Value}

/-- Items of equal lists are equal to equal values at the same places. -/
theorem map_equal_congr (hitems : FloatFree (list items)) (hothers : FloatFree (list others))
    (ha : FloatFree a) (hb : FloatFree b) (h : (list items).equal (list others) = true)
    (h' : a.equal b = true) :
    items.map (fun item => item.equal a) = others.map fun item => item.equal b := by
  obtain ⟨_, heq, hlength, hequal⟩ := list_equal_iff.mp h
  cases heq
  refine List.ext_getElem (by simpa using hlength) fun i hi hi' => ?_
  rw [List.length_map] at hi hi'
  rw [List.getElem_map, List.getElem_map]
  exact FloatFree.equal_congr (hitems.of_mem_items _ (List.getElem_mem hi))
    (hothers.of_mem_items _ (List.getElem_mem hi')) ha hb (hequal i hi hi') h'

theorem occurrences_congr
    (h : items.map (fun item => item.equal a) = others.map fun item => item.equal b) :
    ListMethod.occurrences items a = ListMethod.occurrences others b := by
  have hcount (items : List Value) (a : Value) :
      ListMethod.occurrences items a = (items.map fun item => item.equal a).countP id := by
    rw [List.countP_map]
    rfl
  rw [hcount, hcount, h]

/-- Two calls give the same position, or both fail with a value error. -/
inductive SameIndex : Option (Except Stop Value) → Option (Except Stop Value) → Prop
  /-- The position of an item. -/
  | found (i : Nat) : SameIndex (some (.ok (.ofNat i))) (some (.ok (.ofNat i)))
  /-- No item is equal to the value that is looked for. -/
  | missing {fault fault' : Fault} (h : fault.kind = .badValue) (h' : fault'.kind = .badValue) :
    SameIndex (some (.error (.fault fault))) (some (.error (.fault fault')))

theorem sameIndex_congr
    (h : items.map (fun item => item.equal a) = others.map fun item => item.equal b) :
    SameIndex ((list items).invoke? "index" [a]) ((list others).invoke? "index" [b]) := by
  have hfind (items : List Value) (a : Value) :
      (items.findIdx? fun item => item.equal a) =
        (items.map fun item => item.equal a).findIdx? id := by
    rw [List.findIdx?_map]
    rfl
  show SameIndex (some (Stop.lift (ListMethod.indexOf items a)))
    (some (Stop.lift (ListMethod.indexOf others b)))
  rw [ListMethod.indexOf, ListMethod.indexOf, hfind, hfind, h]
  cases (others.map fun item => item.equal b).findIdx? id with
  | some i => exact .found i
  | none => exact .missing rfl rfl

end Search

/-- **Equality is an equivalence on values without floats, and what relies on it cannot tell equal
values apart.**  It ignores the order of dicts at every level.  Equal values are interchangeable as
keys, and in their truth, count and type.  All values are equal if neighbours are.  The methods of
equal lists find and count equal values alike. -/
theorem equality_coherent :
    (Equivalence fun a b : {value : Value // FloatFree value} => a.1.equal b.1 = true) ∧
    (∀ a b, FloatFree a → Relation.ReflTransGen Reordered a b →
      FloatFree b ∧ a.equal b = true) ∧
    (∀ a b, FloatFree a → FloatFree b → a.equal b = true → Interchangeable a b) ∧
    (∀ args, (∀ arg ∈ args, FloatFree arg) →
      ∃ holds, Operation.equal.run args = .ok (.bool holds) ∧
        (holds = true ↔ ∀ a ∈ args, ∀ b ∈ args, a.equal b = true)) ∧
    ∀ items others a b, FloatFree (list items) → FloatFree (list others) → FloatFree a →
      FloatFree b → (list items).equal (list others) = true → a.equal b = true →
      (∃ n, (list items).invoke? "count" [a] = some (.ok (.ofNat n)) ∧
        (list others).invoke? "count" [b] = some (.ok (.ofNat n))) ∧
      SameIndex ((list items).invoke? "index" [a]) ((list others).invoke? "index" [b]) := by
  refine ⟨⟨fun a => a.2.equal_self, fun {a b} h => a.2.symm b.2 h,
    fun {a b c} h h' => a.2.trans b.2 c.2 h h'⟩, fun a b ha h => ha.equal_of_reordered h,
    fun a b ha hb h => ha.interchangeable hb h, fun args h => ⟨_, rfl, allEqual_iff h⟩,
    fun items others a b hitems hothers ha hb h h' => ?_⟩
  have hsame := map_equal_congr hitems hothers ha hb h h'
  refine ⟨⟨ListMethod.occurrences items a, rfl, ?_⟩, sameIndex_congr hsame⟩
  rw [occurrences_congr hsame]
  rfl

/-- Two lists of a dict whose entries stand in two orders. -/
theorem equality_coherent_reversed :
    let entries : List (Key × Value) :=
      [(.keyword "x", .nil), (.str "x", .builtin 0 (.operation .get))]
    let items := [int 1, dict entries]
    let others := [int 1, dict entries.reverse]
    (list items).equal (list others) = true ∧ Interchangeable (list items) (list others) ∧
      Operation.equal.run [list items, list others, list items] = .ok (.bool true) ∧
      SameIndex ((list items).invoke? "index" [dict entries])
        ((list others).invoke? "index" [dict entries.reverse]) := by
  intro entries items others
  obtain ⟨-, horder, hinterchangeable, hneighbours, hsearch⟩ := equality_coherent
  have hdict : FloatFree (dict entries) := by
    refine .dict (by decide) fun entry hentry => ?_
    rcases List.mem_pair.mp hentry with rfl | rfl
    · exact .atom rfl
    · exact .atom rfl
  have hitems : FloatFree (list items) := by
    refine .list fun item hitem => ?_
    rcases List.mem_pair.mp hitem with rfl | rfl
    · exact .atom rfl
    · exact hdict
  have hreverse : Reordered (dict entries) (dict entries.reverse) :=
    .entries (List.reverse_perm entries).symm
  obtain ⟨hdict', hequal⟩ := horder _ _ hdict (.single hreverse)
  obtain ⟨hothers, hequal'⟩ : FloatFree (list others) ∧ (list items).equal (list others) = true :=
    horder _ _ hitems (.single (@Reordered.item [int 1] [] _ _ hreverse))
  refine ⟨hequal', hinterchangeable _ _ hitems hothers hequal', ?_, ?_⟩
  · have hargs : ∀ arg ∈ [list items, list others, list items], FloatFree arg := by
      simp [hitems, hothers]
    obtain ⟨holds, hrun, hiff⟩ := hneighbours _ hargs
    have hpairs : ∀ a ∈ [list items, list others, list items],
        ∀ b ∈ [list items, list others, list items], a.equal b = true := by
      simp [hequal', hitems.equal_self, hothers.equal_self, hitems.symm hothers hequal']
    rw [hrun, hiff.mpr hpairs]
  · exact (hsearch items others _ _ hitems hothers hdict hdict' hequal' hequal).2

end FrameLisp.Value
