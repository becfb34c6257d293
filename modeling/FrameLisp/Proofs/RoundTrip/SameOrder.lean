import FrameLisp.Proofs.Equality
import FrameLisp.Proofs.RoundTrip.Data

/-!
# Dicts in the same order

Dicts are equal in whatever order their entries stand.  `Value.sameOrder` tells whether their keys
stand in the same order, at every level.  Data has no parts that are equal without being the same,
so data that is equal and in the same order is the same (`Value.Data.equal_and_sameOrder_iff`).
-/

namespace FrameLisp

namespace Value

mutual

/-- Whether dicts at the same position in two values have the same keys in the same order. -/
def sameOrder : Value → Value → Bool
  | list as, list bs => sameOrderItems as bs
  | dict as, dict bs => sameOrderEntries as bs
  | _, _ => true

/-- Whether that is so for all items of two lists. -/
def sameOrderItems : List Value → List Value → Bool
  | [], [] => true
  | a :: as, b :: bs => sameOrder a b && sameOrderItems as bs
  | _, _ => false

/-- Whether two dicts have the same keys in the same order, and so have all dicts in them. -/
def sameOrderEntries : List (Key × Value) → List (Key × Value) → Bool
  | [], [] => true
  | (key, a) :: as, (other, b) :: bs => key = other && sameOrder a b && sameOrderEntries as bs
  | _, _ => false

end

section Items

variable {as bs : List Value}

theorem sameOrderItems_self (h : ∀ item ∈ as, item.sameOrder item = true) :
    sameOrderItems as as = true := by
  induction as with
  | nil => rfl
  | cons item items ih =>
    obtain ⟨hitem, hitems⟩ := List.forall_mem_cons.mp h
    rw [sameOrderItems, hitem, ih hitems]
    rfl

theorem eq_of_equalItems
    (h : ∀ a ∈ as, ∀ b ∈ bs, a.equal b = true → a.sameOrder b = true → a = b)
    (hequal : equalItems as bs = true) (horder : sameOrderItems as bs = true) : as = bs := by
  induction as generalizing bs with
  | nil =>
    cases bs with
    | nil => rfl
    | cons b bs => cases hequal
  | cons a as ih =>
    cases bs with
    | nil => cases hequal
    | cons b bs =>
      rw [equalItems, Bool.and_eq_true] at hequal
      rw [sameOrderItems, Bool.and_eq_true] at horder
      have hfirst : a = b :=
        h a List.mem_cons_self b List.mem_cons_self hequal.1 horder.1
      have hrest : as = bs := ih
        (fun a ha b hb => h a (List.mem_cons_of_mem _ ha) b (List.mem_cons_of_mem _ hb)) hequal.2
        horder.2
      rw [hfirst, hrest]

end Items

section Entries

variable {as bs all : List (Key × Value)}

theorem sameOrderEntries_self (h : ∀ entry ∈ as, entry.2.sameOrder entry.2 = true) :
    sameOrderEntries as as = true := by
  induction as with
  | nil => rfl
  | cons entry entries ih =>
    obtain ⟨hentry, hentries⟩ := List.forall_mem_cons.mp h
    rw [sameOrderEntries, hentry, ih hentries, decide_eq_true rfl]
    rfl

theorem eq_of_equalEntries (hnodup : (Bindings.keys all).Nodup) (hall : ∀ entry ∈ bs, entry ∈ all)
    (h : ∀ a ∈ as, ∀ b ∈ bs, a.2.equal b.2 = true → a.2.sameOrder b.2 = true → a.2 = b.2)
    (hequal : equalEntries as all = true) (horder : sameOrderEntries as bs = true) : as = bs := by
  induction as generalizing bs with
  | nil =>
    cases bs with
    | nil => rfl
    | cons b bs => cases horder
  | cons a as ih =>
    cases bs with
    | nil => cases horder
    | cons b bs =>
      obtain ⟨key, a⟩ := a
      obtain ⟨other, b⟩ := b
      rw [sameOrderEntries, Bool.and_eq_true, Bool.and_eq_true, decide_eq_true_eq] at horder
      obtain ⟨⟨rfl, hvalue⟩, hentries⟩ := horder
      obtain ⟨hmem, hrest⟩ := List.forall_mem_cons.mp hall
      -- the value under the key is the one that stands in its place
      rw [equalEntries, Bindings.find?_of_mem hnodup hmem, Bool.and_eq_true] at hequal
      have hfirst : a = b := h _ List.mem_cons_self _ List.mem_cons_self hequal.1 hvalue
      have hothers : as = bs := ih hrest
        (fun a ha b hb => h a (List.mem_cons_of_mem _ ha) b (List.mem_cons_of_mem _ hb)) hequal.2
        hentries
      rw [hfirst, hothers]

end Entries

theorem Data.floatFree {n : Nat} {value : Value} (h : value.Data n) : FloatFree value := by
  induction h with
  | @atom n key h => exact .atom (by cases key <;> rfl)
  | list h ih => exact .list ih
  | dict hkeys hnodup h ih => exact .dict hnodup ih

theorem Data.sameOrder_self {n : Nat} {value : Value} (h : value.Data n) :
    value.sameOrder value = true := by
  induction h with
  | @atom n key h => cases key <;> rfl
  | list h ih => exact sameOrderItems_self ih
  | dict hkeys hnodup h ih => exact sameOrderEntries_self ih

/-- Data that is equal and has the same order is the same. -/
theorem Data.eq_of_equal {m n : Nat} {value other : Value} (h : value.Data m) (h' : other.Data n)
    (hequal : value.equal other = true) (horder : value.sameOrder other = true) :
    value = other := by
  induction h generalizing n other with
  | @atom m key h =>
    cases h' with
    | @atom n key' h' =>
      cases key <;> cases key' <;> simp_all [Key.toValue, equal]
    | list h' => cases key <;> cases hequal
    | dict hkeys hnodup h' => cases key <;> cases hequal
  | @list m items h ih =>
    cases h' with
    | @atom n key h' => cases key <;> cases hequal
    | list h' =>
      rw [eq_of_equalItems (fun a ha b hb => ih a ha (h' b hb)) hequal horder]
    | dict hkeys hnodup h' => cases hequal
  | @dict m entries hkeys hnodup h ih =>
    cases h' with
    | @atom n key h' => cases key <;> cases hequal
    | list h' => cases hequal
    | dict hkeys' hnodup' h' =>
      rw [equal, Bool.and_eq_true] at hequal
      rw [eq_of_equalEntries hnodup' (fun _ hentry => hentry)
        (fun a ha b hb => ih a ha (h' b hb)) hequal.2 horder]

theorem Data.equal_and_sameOrder_iff {m n : Nat} {value other : Value} (h : value.Data m)
    (h' : other.Data n) :
    value.equal other = true ∧ value.sameOrder other = true ↔ value = other := by
  constructor
  · exact fun hboth => h.eq_of_equal h' hboth.1 hboth.2
  · rintro rfl
    exact ⟨h.floatFree.equal_self, h.sameOrder_self⟩

end Value

end FrameLisp
