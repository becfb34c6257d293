import FrameLisp.Proofs.Likeness

/-!
# Operations and methods on values that are alike

An operation sees of its arguments only what values that are alike have in common.  So given
arguments that are alike it fails in the same words, or gives values that are alike
(`Operation.run_alike`), and so does a method (`Method.Alike.run`).

`Matches E R x y` says that the computations `x` and `y` either both fail, with errors related by
`E`, or both give values, which are related by `R`.  It is closed under the ways in which operations
are put together.
-/

namespace FrameLisp

/-! ### Computations side by side -/

/-- What is at a position of lists that are related item by item. -/
theorem rel_getElem? {α β : Type} {R : α → β → Prop} {items : List α} {items' : List β}
    (h : List.Forall₂ R items items') (i : Nat) : Option.Rel R items[i]? items'[i]? := by
  induction h generalizing i with
  | nil => exact .none
  | cons hitem hitems ih =>
    cases i with
    | zero => exact .some hitem
    | succ i => exact ih i

/-- Computations that both fail, with errors that are related, or both give related values. -/
inductive Matches {ε ε' α β : Type} (E : ε → ε' → Prop) (R : α → β → Prop) :
    Except ε α → Except ε' β → Prop
  /-- Both give values. -/
  | ok {a : α} {b : β} (h : R a b) : Matches E R (.ok a) (.ok b)
  /-- Both fail. -/
  | error {e : ε} {e' : ε'} (h : E e e') : Matches E R (.error e) (.error e')

namespace Matches

variable {ε ε' α β γ δ : Type} {E : ε → ε' → Prop} {R : α → β → Prop} {S : γ → δ → Prop}

theorem bind {x : Except ε α} {y : Except ε' β} {f : α → Except ε γ} {g : β → Except ε' δ}
    (hx : Matches E R x y) (hf : ∀ a b, R a b → Matches E S (f a) (g b)) :
    Matches E S (x >>= f) (y >>= g) := by
  cases hx with
  | ok h => exact hf _ _ h
  | error h => exact .error h

theorem map {x : Except ε α} {y : Except ε' β} {f : α → γ} {g : β → δ} (hx : Matches E R x y)
    (hf : ∀ a b, R a b → S (f a) (g b)) : Matches E S (x.map f) (y.map g) := by
  cases hx with
  | ok h => exact .ok (hf _ _ h)
  | error h => exact .error h

/-- What is related is also related in weaker ways. -/
theorem mono {E' : ε → ε' → Prop} {R' : α → β → Prop} {x : Except ε α} {y : Except ε' β}
    (hx : Matches E R x y) (hE : ∀ e e', E e e' → E' e e') (hR : ∀ a b, R a b → R' a b) :
    Matches E' R' x y := by
  cases hx with
  | ok h => exact .ok (hR _ _ h)
  | error h => exact .error (hE _ _ h)

theorem foldlM {f : γ → α → Except ε γ} {g : δ → β → Except ε' δ}
    (hf : ∀ c d a b, S c d → R a b → Matches E S (f c a) (g d b)) {items : List α}
    {items' : List β} (h : List.Forall₂ R items items') {c : γ} {d : δ} (hc : S c d) :
    Matches E S (items.foldlM f c) (items'.foldlM g d) := by
  induction h generalizing c d with
  | nil => exact .ok hc
  | cons hitem hitems ih =>
    rw [List.foldlM_cons, List.foldlM_cons]
    exact bind (hf _ _ _ _ hc hitem) fun _ _ h => ih h

theorem mapM {f : α → Except ε γ} {g : β → Except ε' δ}
    (hf : ∀ a b, R a b → Matches E S (f a) (g b)) {items : List α} {items' : List β}
    (h : List.Forall₂ R items items') :
    Matches E (List.Forall₂ S) (items.mapM f) (items'.mapM g) := by
  induction h with
  | nil => exact .ok .nil
  | cons hitem hitems ih =>
    rw [List.mapM_cons, List.mapM_cons]
    refine bind (hf _ _ hitem) fun _ _ hfirst => bind ih fun _ _ hrest => ?_
    exact .ok (.cons hfirst hrest)

/-- Faults as ways to stop. -/
theorem lift {E : Fault → Fault → Prop} {E' : Stop → Stop → Prop} {x : Except Fault α}
    {y : Except Fault β} (hx : Matches E R x y)
    (hfault : ∀ fault fault', E fault fault' → E' (.fault fault) (.fault fault')) :
    Matches E' R (Stop.lift x) (Stop.lift y) := by
  cases hx with
  | ok h => exact .ok h
  | error h => exact .error (hfault _ _ h)

end Matches

variable {L : Likeness}

/-- Computations that fail with the same error or give values that are alike. -/
abbrev GiveAlike {ε : Type} (L : Likeness) : Except ε Value → Except ε Value → Prop :=
  Matches Eq (Value.Alike L)

theorem GiveAlike.lift {x y : Except Fault Value} (h : GiveAlike L x y) :
    GiveAlike L (Stop.lift x) (Stop.lift y) :=
  Matches.lift h fun _ _ => congrArg Stop.fault

/-- Whoever takes the same number of arguments refuses the same numbers of them. -/
theorem Arity.check_alike (arity : Arity) (callee : String) {args args' : List Value}
    (h : Value.AllAlike L args args') : arity.check callee args' = arity.check callee args := by
  unfold Arity.check
  rw [h.length_eq]

/-- After a check of the number of arguments, both go on or both are refused. -/
theorem Arity.after_check_alike (arity : Arity) (callee : String) {args args' : List Value}
    (h : Value.AllAlike L args args') {x y : Except Stop Value} (hx : GiveAlike L x y) :
    GiveAlike L (arity.check callee args >>= fun _ => x)
      (arity.check callee args' >>= fun _ => y) := by
  rw [Arity.check_alike arity callee h]
  cases arity.check callee args with
  | ok u => exact hx
  | error stop => exact .error rfl

/-! ### Numbers -/

namespace Operation

variable {a a' b b' : Value}

theorem combine_alike (operator : String) {op : Value → Value → Except Fault Value}
    (hop : ∀ {a a' b b' : Value}, a.Alike L a' → b.Alike L b' → GiveAlike L (op a b) (op a' b'))
    {args args' : List Value} (h : Value.AllAlike L args args') :
    GiveAlike L (combine operator op args) (combine operator op args') := by
  cases h with
  | nil => exact .error rfl
  | cons hfirst hrest =>
    exact Matches.foldlM (R := Value.Alike L) (fun _ _ _ _ hacc hitem => hop hacc hitem) hrest
      hfirst

/-- Two values under an operator, by the numbers that they are. -/
theorem numeric_eq (operator : String) (exact : Int → Int → Int)
    (rounded : Float → Float → Float) (a b : Value) :
    numeric operator exact rounded a b =
      match a.int?, b.int? with
      | some x, some y =>
        match fit64 (exact x.toInt y.toInt) with
        | some n => .ok (.int n)
        | none => .error (.integerOverflow operator)
      | _, _ =>
        match a.float?, b.float? with
        | some x, some y => .ok (.float (rounded x y))
        | _, _ => .error (.unsupportedOperands operator a.typeName b.typeName) := by
  cases a <;> cases b <;> rfl

theorem numeric_alike (operator : String) (exact : Int → Int → Int)
    (rounded : Float → Float → Float) (ha : a.Alike L a') (hb : b.Alike L b') :
    GiveAlike L (numeric operator exact rounded a b) (numeric operator exact rounded a' b') := by
  rw [numeric_eq, numeric_eq, ha.int?, hb.int?, ha.float?, hb.float?, ha.typeName, hb.typeName]
  split
  · split
    · exact .ok (.int _)
    · exact .error rfl
  · split
    · exact .ok (.float _)
    · exact .error rfl

/-- A sum, by what can be put together. -/
theorem sum_eq (a b : Value) :
    sum a b =
      match a.str?, b.str? with
      | some x, some y => .ok (.str (x ++ y))
      | _, _ =>
        match a.items?, b.items? with
        | some x, some y => .ok (.list (x ++ y))
        | _, _ => numeric "+" (· + ·) (· + ·) a b := by
  cases a <;> cases b <;> rfl

theorem sum_alike (ha : a.Alike L a') (hb : b.Alike L b') : GiveAlike L (sum a b) (sum a' b') := by
  rw [sum_eq, sum_eq, ha.str?, hb.str?]
  split
  · exact .ok (.str _)
  · match a.items?, a'.items?, ha.items?, b.items?, b'.items?, hb.items? with
    | _, _, .some hx, _, _, .some hy => exact .ok (.list (List.rel_append hx hy))
    | _, _, .none, _, _, _ => exact numeric_alike "+" _ _ ha hb
    | _, _, .some hx, _, _, .none => exact numeric_alike "+" _ _ ha hb

theorem quotient_alike (ha : a.Alike L a') (hb : b.Alike L b') :
    GiveAlike L (quotient a b) (quotient a' b') := by
  unfold quotient
  rw [ha.float?, hb.float?, ha.typeName, hb.typeName]
  split
  · split
    · exact .error rfl
    · exact .ok (.float _)
  · exact .error rfl

/-- A modulus, by the numbers that its operands are. -/
theorem modulus_eq (a b : Value) :
    modulus a b =
      match a.int?, b.int? with
      | some x, some y => wholeModulus x y
      | _, _ =>
        match a.float?, b.float? with
        | some x, some y =>
          if y == 0.0 then .error (.zeroDivision "float modulo")
          else .ok (.float (floatModulus x y))
        | _, _ => .error (.unsupportedOperands "mod" a.typeName b.typeName) := by
  cases a <;> cases b <;> rfl

theorem wholeModulus_alike (x y : Int64) : GiveAlike L (wholeModulus x y) (wholeModulus x y) := by
  unfold wholeModulus
  split
  · exact .error rfl
  · split
    · exact .error rfl
    · dsimp only
      split
      · exact .ok (.int _)
      · exact .error rfl

theorem modulus_alike (ha : a.Alike L a') (hb : b.Alike L b') :
    GiveAlike L (modulus a b) (modulus a' b') := by
  rw [modulus_eq, modulus_eq, ha.int?, hb.int?, ha.float?, hb.float?, ha.typeName, hb.typeName]
  split
  · exact wholeModulus_alike _ _
  · split
    · split
      · exact .error rfl
      · exact .ok (.float _)
    · exact .error rfl

/-! ### Comparisons -/

theorem allEqual_alike {args args' : List Value} (h : Value.AllAlike L args args') :
    allEqual args' = allEqual args := by
  induction h with
  | nil => rfl
  | cons hfirst hrest ih =>
    cases hrest with
    | nil => rfl
    | cons hsecond hrest => rw [allEqual, allEqual, hfirst.equal hsecond, ih]

/-- An order, by the texts and numbers that the values are. -/
theorem order?_eq (operator : String) (a b : Value) :
    order? operator a b =
      match a.str?, b.str? with
      | some x, some y => .ok (some (textOrder x y))
      | _, _ =>
        match a.float?, b.float? with
        | some x, some y => .ok (floatOrder? x y)
        | _, _ => .error (.unordered operator a.typeName b.typeName) := by
  cases a <;> cases b <;> rfl

theorem order?_alike (operator : String) (ha : a.Alike L a') (hb : b.Alike L b') :
    order? operator a' b' = order? operator a b := by
  rw [order?_eq, order?_eq, ha.str?, hb.str?, ha.float?, hb.float?, ha.typeName, hb.typeName]

theorem allOrdered_alike (operator : String) (holds : Ordering → Bool) {args args' : List Value}
    (h : Value.AllAlike L args args') :
    allOrdered operator holds args' = allOrdered operator holds args := by
  induction h with
  | nil => rfl
  | cons hfirst hrest ih =>
    cases hrest with
    | nil => rfl
    | cons hsecond hrest =>
      rw [allOrdered, allOrdered, order?_alike operator hfirst hsecond, ih]

theorem comparison_alike (operator : String) (holds : Ordering → Bool) {args args' : List Value}
    (h : Value.AllAlike L args args') :
    GiveAlike L (comparison operator holds args) (comparison operator holds args') := by
  unfold comparison
  rw [allOrdered_alike operator holds h]
  cases h with
  | nil => exact .error rfl
  | cons hfirst hrest =>
    cases allOrdered operator holds _ with
    | ok b => exact .ok (.bool b)
    | error fault => exact .error rfl

/-! ### Collections -/

theorem countOf_alike {value value' : Value} (h : value.Alike L value') :
    GiveAlike L (countOf value) (countOf value') := by
  cases h with
  | nil => exact .ok (.int _)
  | str text => exact .ok (.int _)
  | list h =>
    dsimp only [countOf]
    rw [h.length_eq]
    exact .ok (.int _)
  | @dict entries entries' hkeys h =>
    have hlength : entries'.length = entries.length := by
      simpa [Bindings.keys] using congrArg List.length hkeys
    dsimp only [countOf]
    rw [hlength]
    exact .ok (.int _)
  | _ => exact .error rfl

/-- A key and a value of each run. -/
abbrev PairAlike (L : Likeness) (pair pair' : Value × Value) : Prop :=
  pair.1.Alike L pair'.1 ∧ pair.2.Alike L pair'.2

theorem pairUp_alike {args args' : List Value} (h : Value.AllAlike L args args') :
    Matches Eq (List.Forall₂ (PairAlike L)) (pairUp args) (pairUp args') := by
  match args, args', h with
  | [], [], .nil => exact .ok .nil
  | [_], [_], .cons _ .nil => exact .error rfl
  | _ :: _ :: rest, _ :: _ :: rest', .cons hkey (.cons hvalue hrest) =>
    refine Matches.bind (pairUp_alike hrest) fun pairs pairs' hpairs => ?_
    exact .ok (.cons ⟨hkey, hvalue⟩ hpairs)

theorem insertPairs_alike {entries entries' : List (Key × Value)}
    (hentries : Bindings.Alike L entries entries') {pairs pairs' : List (Value × Value)}
    (h : List.Forall₂ (PairAlike L) pairs pairs') :
    Matches Eq (Bindings.Alike L) (Value.insertPairs entries pairs)
      (Value.insertPairs entries' pairs') := by
  induction h generalizing entries entries' with
  | nil => exact .ok hentries
  | @cons pair pair' pairs pairs' hpair hpairs ih =>
    obtain ⟨k, v⟩ := pair
    obtain ⟨k', v'⟩ := pair'
    obtain ⟨hkey, hvalue⟩ : k.Alike L k' ∧ v.Alike L v' := hpair
    unfold Value.insertPairs
    rw [hkey.key?, hkey.typeName]
    split
    · exact ih (hentries.insert _ hvalue)
    · exact .error rfl

theorem makeDict_alike {args args' : List Value} (h : Value.AllAlike L args args') :
    GiveAlike L (makeDict args) (makeDict args') := by
  unfold makeDict
  rw [h.length_eq]
  split
  · exact .error rfl
  · refine Matches.bind (pairUp_alike h) fun pairs pairs' hpairs => GiveAlike.lift ?_
    exact Matches.map (insertPairs_alike .nil hpairs) fun _ _ => Value.Alike.ofEntries

theorem entry?_alike {entries entries' : List (Key × Value)} {key key' : Value}
    (h : Bindings.Alike L entries entries') (hkey : key.Alike L key') :
    Option.Rel (Value.Alike L) (Operation.entry? entries key)
      (Operation.entry? entries' key') := by
  unfold entry?
  rw [hkey.key?]
  cases key.key? with
  | none => exact .none
  | some found => exact h.find? found

theorem item?_alike {collection collection' key key' : Value}
    (h : collection.Alike L collection') (hkey : key.Alike L key') :
    Option.Rel (Value.Alike L) (item? collection key) (item? collection' key') := by
  have hposition : position? key' = position? key := by
    unfold position?
    rw [hkey.int?]
  cases h with
  | list h =>
    unfold item?
    rw [hposition]
    cases position? key with
    | none => exact .none
    | some i => exact rel_getElem? h i
  | str text =>
    unfold item?
    rw [hposition]
    cases position? key with
    | none => exact .none
    | some i =>
      dsimp only [Option.bind_some]
      cases text.toList[i]? with
      | none => exact .none
      | some c => exact .some (.str _)
  | dict hkeys h => exact entry?_alike (Bindings.Alike.iff_keys_values.mpr ⟨hkeys, h⟩) hkey
  | _ => exact .none

end Operation

/-- What is found, or else a default. -/
theorem Value.Alike.getD {found found' : Option Value} (h : Option.Rel (Value.Alike L) found found')
    {default default' : Value} (hdefault : default.Alike L default') :
    (found.getD default).Alike L (found'.getD default') := by
  cases h with
  | none => exact hdefault
  | some h => exact h

namespace Operation

theorem runGet_alike {args args' : List Value} (h : Value.AllAlike L args args') :
    GiveAlike L (runGet args) (runGet args') := by
  refine Arity.after_check_alike (.between 2 3) "get" h ?_
  match args, args', h with
  | [], [], .nil => exact .error rfl
  | [_], [_], .cons _ .nil => exact .error rfl
  | [_, _], [_, _], .cons hcollection (.cons hkey .nil) =>
    exact .ok (.getD (item?_alike hcollection hkey) .nil)
  | [_, _, _], [_, _, _], .cons hcollection (.cons hkey (.cons hdefault .nil)) =>
    exact .ok (.getD (item?_alike hcollection hkey) hdefault)
  | _ :: _ :: _ :: _ :: _, _ :: _ :: _ :: _ :: _, .cons _ (.cons _ (.cons _ (.cons _ _))) =>
    exact .error rfl

theorem thrown_alike {thrownClass thrownClass' message message' : Value}
    (hclass : thrownClass.Alike L thrownClass') (hmessage : message.Alike L message') :
    thrown thrownClass' message' = thrown thrownClass message := by
  cases hclass with
  | errorClass h => simp only [thrown, hmessage.plain]
  | _ => rfl

/-- **Operations go alike on arguments that are alike.** -/
theorem run_alike (op : Operation) {args args' : List Value} (h : Value.AllAlike L args args') :
    GiveAlike L (op.run args) (op.run args') := by
  cases op with
  | add => exact .lift (combine_alike "+" sum_alike h)
  | subtract => exact .lift (combine_alike "-" (numeric_alike "-" _ _) h)
  | multiply => exact .lift (combine_alike "*" (numeric_alike "*" _ _) h)
  | divide => exact .lift (combine_alike "/" quotient_alike h)
  | modulo => exact .lift (combine_alike "mod" modulus_alike h)
  | equal =>
    dsimp only [run]
    rw [allEqual_alike h]
    exact .ok (.bool _)
  | less => exact .lift (comparison_alike "<" _ h)
  | greater => exact .lift (comparison_alike ">" _ h)
  | atMost => exact .lift (comparison_alike "<=" _ h)
  | atLeast => exact .lift (comparison_alike ">=" _ h)
  | list => exact .ok (.list h)
  | dict => exact makeDict_alike h
  | get => exact runGet_alike h
  | str =>
    dsimp only [run]
    rw [Value.Alike.joined "" h]
    exact .ok (.str _)
  -- the operations with a fixed number of arguments
  | not =>
    match args, args', h with
    | [], [], .nil => exact .error rfl
    | [_], [_], .cons hvalue .nil =>
      dsimp only [run]
      rw [hvalue.isTruthy]
      exact .ok (.bool _)
    | _ :: _ :: _, _ :: _ :: _, .cons _ (.cons _ _) => exact .error rfl
  | count =>
    match args, args', h with
    | [], [], .nil => exact .error rfl
    | [_], [_], .cons hvalue .nil => exact .lift (countOf_alike hvalue)
    | _ :: _ :: _, _ :: _ :: _, .cons _ (.cons _ _) => exact .error rfl
  | type =>
    match args, args', h with
    | [], [], .nil => exact .error rfl
    | [_], [_], .cons hvalue .nil =>
      dsimp only [run]
      rw [hvalue.typeName]
      exact .ok (.str _)
    | _ :: _ :: _, _ :: _ :: _, .cons _ (.cons _ _) => exact .error rfl
  | throw =>
    match args, args', h with
    | [], [], .nil => exact .error rfl
    | [_], [_], .cons _ .nil => exact .error rfl
    | [_, _], [_, _], .cons hclass (.cons hmessage .nil) =>
      dsimp only [run]
      rw [thrown_alike hclass hmessage]
      exact .error rfl
    | _ :: _ :: _ :: _, _ :: _ :: _ :: _, .cons _ (.cons _ (.cons _ _)) => exact .error rfl

end Operation

/-! ### Methods -/

/-- Texts are alike to themselves. -/
theorem Value.Alike.texts (texts : List String) :
    (Value.list (texts.map .str)).Alike L (.list (texts.map .str)) := by
  refine .list ?_
  rw [List.forall₂_map_left_iff, List.forall₂_map_right_iff, List.forall₂_same]
  intro text _
  exact .str text

namespace TextMethod

theorem textArgument_alike (method : String) {value value' : Value} (h : value.Alike L value') :
    textArgument method value' = textArgument method value := by
  cases h <;> rfl

theorem pieces_alike (text : String) {separator separator' : Value}
    (h : separator.Alike L separator') :
    GiveAlike L (pieces text separator) (pieces text separator') := by
  unfold pieces
  rw [textArgument_alike "split" h]
  cases textArgument "split" separator with
  | error fault => exact .error rfl
  | ok mark =>
    dsimp only [bind, Except.bind]
    split
    · exact .error rfl
    · exact .ok (.texts _)

theorem joinAll_alike (between : String) {value value' : Value} (h : value.Alike L value') :
    GiveAlike L (joinAll between value) (joinAll between value') := by
  cases h with
  | @list items items' h =>
    have htexts : items'.mapM (textArgument "join") = items.mapM (textArgument "join") := by
      induction h with
      | nil => rfl
      | cons hitem hitems ih =>
        rw [List.mapM_cons, List.mapM_cons, textArgument_alike "join" hitem, ih]
    dsimp only [joinAll]
    rw [htexts]
    cases items.mapM (textArgument "join") with
    | error fault => exact .error rfl
    | ok texts => exact .ok (.str _)
  | _ => exact .error rfl

theorem replaceAll_alike (text : String) {old old' new new' : Value} (hold : old.Alike L old')
    (hnew : new.Alike L new') :
    GiveAlike L (replaceAll text old new) (replaceAll text old' new') := by
  unfold replaceAll
  rw [textArgument_alike "replace" hold, textArgument_alike "replace" hnew]
  cases textArgument "replace" old with
  | error fault => exact .error rfl
  | ok old =>
    cases textArgument "replace" new with
    | error fault => exact .error rfl
    | ok new => exact .ok (.str _)

theorem run_alike (method : TextMethod) (text : String) {args args' : List Value}
    (h : Value.AllAlike L args args') :
    GiveAlike L (method.run text args) (method.run text args') := by
  refine Arity.after_check_alike method.arity method.name h ?_
  cases method with
  | upper => exact .ok (.str _)
  | lower => exact .ok (.str _)
  | strip => exact .ok (.str _)
  | split =>
    match args, args', h with
    | [], [], .nil => exact .ok (.texts _)
    | [_], [_], .cons hseparator .nil => exact .lift (pieces_alike text hseparator)
    | _ :: _ :: _, _ :: _ :: _, .cons _ (.cons _ _) => exact .error rfl
  | startsWith =>
    match args, args', h with
    | [], [], .nil => exact .error rfl
    | [start], [_], .cons hstart .nil =>
      dsimp only
      rw [textArgument_alike "startswith" hstart]
      cases textArgument "startswith" start with
      | error fault => exact .error rfl
      | ok start => exact .ok (.bool _)
    | _ :: _ :: _, _ :: _ :: _, .cons _ (.cons _ _) => exact .error rfl
  | endsWith =>
    match args, args', h with
    | [], [], .nil => exact .error rfl
    | [finish], [_], .cons hfinish .nil =>
      dsimp only
      rw [textArgument_alike "endswith" hfinish]
      cases textArgument "endswith" finish with
      | error fault => exact .error rfl
      | ok finish => exact .ok (.bool _)
    | _ :: _ :: _, _ :: _ :: _, .cons _ (.cons _ _) => exact .error rfl
  | join =>
    match args, args', h with
    | [], [], .nil => exact .error rfl
    | [_], [_], .cons hitems .nil => exact .lift (joinAll_alike text hitems)
    | _ :: _ :: _, _ :: _ :: _, .cons _ (.cons _ _) => exact .error rfl
  | replace =>
    match args, args', h with
    | [], [], .nil => exact .error rfl
    | [_], [_], .cons _ .nil => exact .error rfl
    | [_, _], [_, _], .cons hold (.cons hnew .nil) =>
      exact .lift (replaceAll_alike text hold hnew)
    | _ :: _ :: _ :: _, _ :: _ :: _ :: _, .cons _ (.cons _ (.cons _ _)) => exact .error rfl

end TextMethod

namespace ListMethod

theorem indexOf_alike {items items' : List Value} (hitems : Value.AllAlike L items items')
    {value value' : Value} (h : value.Alike L value') :
    GiveAlike L (indexOf items value) (indexOf items' value') := by
  have hindex : (items'.findIdx? fun item => item.equal value') =
      items.findIdx? fun item => item.equal value := by
    induction hitems with
    | nil => rfl
    | cons hitem hitems ih => rw [List.findIdx?_cons, List.findIdx?_cons, hitem.equal h, ih]
  unfold indexOf
  rw [hindex, h.shown]
  split
  · exact .ok (.int _)
  · exact .error rfl

theorem occurrences_alike {items items' : List Value} (hitems : Value.AllAlike L items items')
    {value value' : Value} (h : value.Alike L value') :
    occurrences items' value' = occurrences items value := by
  unfold occurrences
  induction hitems with
  | nil => rfl
  | cons hitem hitems ih => rw [List.countP_cons, List.countP_cons, hitem.equal h, ih]

theorem run_alike (method : ListMethod) {items items' args args' : List Value}
    (hitems : Value.AllAlike L items items') (h : Value.AllAlike L args args') :
    GiveAlike L (method.run items args) (method.run items' args') := by
  refine Arity.after_check_alike method.arity method.name h ?_
  cases method with
  | index =>
    match args, args', h with
    | [], [], .nil => exact .error rfl
    | [_], [_], .cons hvalue .nil => exact .lift (indexOf_alike hitems hvalue)
    | _ :: _ :: _, _ :: _ :: _, .cons _ (.cons _ _) => exact .error rfl
  | count =>
    match args, args', h with
    | [], [], .nil => exact .error rfl
    | [_], [_], .cons hvalue .nil =>
      dsimp only
      rw [occurrences_alike hitems hvalue]
      exact .ok (.int _)
    | _ :: _ :: _, _ :: _ :: _, .cons _ (.cons _ _) => exact .error rfl
  | copy => exact .ok (.list hitems)

end ListMethod

namespace DictMethod

theorem run_alike (method : DictMethod) {entries entries' : List (Key × Value)}
    (hentries : Bindings.Alike L entries entries') {args args' : List Value}
    (h : Value.AllAlike L args args') :
    GiveAlike L (method.run entries args) (method.run entries' args') := by
  refine Arity.after_check_alike method.arity method.name h ?_
  obtain ⟨hkeys, hvalues⟩ := Bindings.Alike.iff_keys_values.mp hentries
  cases method with
  | get =>
    match args, args', h with
    | [], [], .nil => exact .error rfl
    | [_], [_], .cons hkey .nil => exact .ok (.getD (Operation.entry?_alike hentries hkey) .nil)
    | [_, _], [_, _], .cons hkey (.cons hdefault .nil) =>
      exact .ok (.getD (Operation.entry?_alike hentries hkey) hdefault)
    | _ :: _ :: _ :: _, _ :: _ :: _ :: _, .cons _ (.cons _ (.cons _ _)) => exact .error rfl
  | keys =>
    refine .ok (.list ?_)
    rw [List.forall₂_map_left_iff, List.forall₂_map_right_iff]
    refine hentries.imp fun entry entry' hentry => ?_
    rw [hentry.1]
    exact .ofKey entry.1
  | values => exact .ok (.list hvalues)
  | items =>
    refine .ok (.list ?_)
    rw [List.forall₂_map_left_iff, List.forall₂_map_right_iff]
    refine hentries.imp fun entry entry' hentry => ?_
    rw [hentry.1]
    exact .list (.cons (.ofKey entry.1) (.cons hentry.2 .nil))
  | copy => exact .ok (.dict hkeys hvalues)

end DictMethod

theorem ExceptionMethod.run_alike (method : ExceptionMethod) {fault fault' : Fault}
    (hfault : L.held fault fault') {args args' : List Value} (h : Value.AllAlike L args args') :
    GiveAlike L (method.run fault args) (method.run fault' args') := by
  refine Arity.after_check_alike (.exactly 0) method.name h ?_
  cases method with
  | kind =>
    dsimp only
    rw [L.held_kind hfault]
    exact .ok (.errorClass (L.held_errorClass hfault))
  | message =>
    dsimp only
    rw [L.held_message hfault]
    exact .ok (.str _)

/-- One method of receivers that are alike. -/
inductive Method.Alike (L : Likeness) : Method → Method → Prop
  /-- A method of a text. -/
  | text (method : TextMethod) (text : String) : Alike L (.text method text) (.text method text)
  /-- A method of lists. -/
  | list (method : ListMethod) {items items' : List Value} (h : Value.AllAlike L items items') :
    Alike L (.list method items) (.list method items')
  /-- A method of dicts. -/
  | dict (method : DictMethod) {entries entries' : List (Key × Value)}
    (h : Bindings.Alike L entries entries') : Alike L (.dict method entries) (.dict method entries')
  /-- A method of exceptions. -/
  | exception (method : ExceptionMethod) {fault fault' : Fault} (h : L.held fault fault') :
    Alike L (.exception method fault) (.exception method fault')

/-- **Methods of receivers that are alike go alike.** -/
theorem Method.Alike.run {method method' : Method} (h : method.Alike L method')
    {args args' : List Value} (hargs : Value.AllAlike L args args') :
    GiveAlike L (method.run args) (method'.run args') := by
  cases h with
  | text method text => exact method.run_alike text hargs
  | list method h => exact method.run_alike h hargs
  | dict method h => exact method.run_alike h hargs
  | exception method h => exact method.run_alike h hargs

theorem Value.Alike.method? {value value' : Value} (h : value.Alike L value') (name : String) :
    Option.Rel (Method.Alike L) (value.method? name) (value'.method? name) := by
  cases h with
  | str text =>
    unfold Value.method?
    cases TextMethod.find? name with
    | none => exact .none
    | some method => exact .some (.text method text)
  | list h =>
    unfold Value.method?
    cases ListMethod.find? name with
    | none => exact .none
    | some method => exact .some (.list method h)
  | dict hkeys h =>
    unfold Value.method?
    cases DictMethod.find? name with
    | none => exact .none
    | some method =>
      exact .some (.dict method (Bindings.Alike.iff_keys_values.mpr ⟨hkeys, h⟩))
  | exception href h =>
    unfold Value.method?
    cases ExceptionMethod.find? name with
    | none => exact .none
    | some method => exact .some (.exception method h)
  | _ => exact .none

end FrameLisp
