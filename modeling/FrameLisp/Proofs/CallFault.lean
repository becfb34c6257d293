import FrameLisp.Call

/-!
# The faults of called functions

An operation or a method fails in two ways only: it was given a wrong number of arguments, or it
raises an error of its own.  Both are faults without a location (`Fault.isCalled`), and neither is
an interrupt.  In particular no operation reads past the end of its arguments once their number has
been checked (`Operation.run_stopsAsCalled`), and no method ever does (`Method.run_stopsAsCalled`),
because it checks the number itself.

`FailsWith p x` says that `x` fails, if at all, with an error that satisfies `p`.  It is closed
under the ways in which the operations are put together, so each of them is settled branch by
branch.
-/

namespace FrameLisp

/-! ### Kinds of faults -/

/-- Whether a fault is one that a called function raises before the call has supplied a location. -/
def Fault.isCalled : Fault → Bool
  | .arity _ _ none => true
  | .raised _ _ none => true
  | _ => false

/-- Whether a fault is neither an overflow nor an interrupt.  Those two come from entering a node
alone. -/
def Fault.isPlain : Fault → Bool
  | .overflow .. => false
  | .interrupted => false
  | _ => true

theorem Fault.isPlain_of_isCalled {fault : Fault} (h : fault.isCalled = true) :
    fault.isPlain = true := by
  cases fault <;> simp_all [isCalled, isPlain]

/-- Whether a computation stopped with a fault of a called function. -/
def Stop.isCalled : Stop → Bool
  | .fault f => f.isCalled
  | _ => false

/-- Whether a computation stopped with a fault that is neither an overflow nor an interrupt. -/
def Stop.isPlain : Stop → Bool
  | .fault f => f.isPlain
  | _ => false

theorem Stop.isPlain_of_isCalled {stop : Stop} (h : stop.isCalled = true) :
    stop.isPlain = true := by
  cases stop with
  | fault f => exact Fault.isPlain_of_isCalled h
  | outOfBounds => cases h
  | outOfLevels => cases h

/-! ### Computations that may fail -/

/-- The computation fails, if at all, with an error that satisfies `p`. -/
def FailsWith {ε α : Type} (p : ε → Prop) (x : Except ε α) : Prop :=
  ∀ e, x = .error e → p e

namespace FailsWith

variable {ε α β : Type} {p : ε → Prop}

theorem mono {q : ε → Prop} {x : Except ε α} (hx : FailsWith p x) (h : ∀ e, p e → q e) :
    FailsWith q x :=
  fun e he => h e (hx e he)

theorem ok (a : α) : FailsWith p (.ok a : Except ε α) := by
  intro e he
  cases he

theorem error {e : ε} (h : p e) : FailsWith p (.error e : Except ε α) := by
  intro e' he
  cases he
  exact h

theorem bind {x : Except ε α} {f : α → Except ε β} (hx : FailsWith p x)
    (hf : ∀ a, FailsWith p (f a)) : FailsWith p (x >>= f) := by
  intro e he
  cases hr : x with
  | error e' =>
    rw [hr] at he
    cases he
    exact hx e hr
  | ok a =>
    rw [hr] at he
    exact hf a e he

theorem map {x : Except ε α} {f : α → β} (hx : FailsWith p x) : FailsWith p (x.map f) := by
  intro e he
  cases hr : x with
  | error e' =>
    rw [hr] at he
    cases he
    exact hx e hr
  | ok a =>
    rw [hr] at he
    cases he

theorem foldlM {f : β → α → Except ε β} (hf : ∀ b a, FailsWith p (f b a)) (items : List α) (b : β) :
    FailsWith p (items.foldlM f b) := by
  induction items generalizing b with
  | nil => exact ok b
  | cons item items ih =>
    rw [List.foldlM_cons]
    exact bind (hf b item) fun b' => ih b'

theorem mapM {f : α → Except ε β} (hf : ∀ a, FailsWith p (f a)) (items : List α) :
    FailsWith p (items.mapM f) := by
  induction items with
  | nil => exact ok []
  | cons item items ih =>
    rw [List.mapM_cons]
    refine bind (hf item) fun b => bind ih fun bs => ?_
    exact ok (b :: bs)

/-- Faults as ways to stop. -/
theorem lift {p : Stop → Prop} {x : Except Fault α}
    (hx : FailsWith (fun fault => p (.fault fault)) x) :
    FailsWith p (Stop.lift x) := by
  cases x with
  | ok a => exact ok a
  | error fault => exact error (hx fault rfl)

end FailsWith

/-- The computation fails, if at all, with a fault of a called function. -/
abbrev FailsAsCalled {α : Type} (x : Except Fault α) : Prop :=
  FailsWith (fun fault => fault.isCalled = true) x

/-- The computation stops, if at all, with a fault of a called function. -/
abbrev StopsAsCalled {α : Type} (x : Except Stop α) : Prop :=
  FailsWith (fun stop => stop.isCalled = true) x

/-- The computation fails, if at all, with a fault that is neither an overflow nor an interrupt. -/
abbrev FailsPlainly {α : Type} (x : Except Fault α) : Prop :=
  FailsWith (fun fault => fault.isPlain = true) x

/-- The computation stops, if at all, with a fault that is neither an overflow nor an interrupt. -/
abbrev StopsPlainly {α : Type} (x : Except Stop α) : Prop :=
  FailsWith (fun stop => stop.isPlain = true) x

/-! ### Numbers of arguments -/

theorem Arity.check_stopsAsCalled (arity : Arity) (callee : String) (args : List Value) :
    StopsAsCalled (arity.check callee args) := by
  unfold Arity.check
  split
  · exact .error rfl
  · exact .ok ()

/-- Arguments that pass a check have a number that fits. -/
theorem Arity.allows_of_check {arity : Arity} {callee : String} {args : List Value}
    (h : arity.check callee args = .ok ()) : arity.allows args.length = true := by
  unfold Arity.check at h
  split at h
  · cases h
  · rename_i hnone
    exact Arity.complaint?_eq_none_iff.mp hnone

/-- After a check, only argument lists of a number that fits matter. -/
theorem Arity.stopsAsCalled_after_check {α : Type} (arity : Arity) (callee : String)
    (args : List Value) {x : Except Stop α}
    (hx : arity.allows args.length = true → StopsAsCalled x) :
    StopsAsCalled (arity.check callee args >>= fun _ => x) := by
  cases hc : arity.check callee args with
  | ok u => exact hx (Arity.allows_of_check hc)
  | error stop => exact .error (Arity.check_stopsAsCalled arity callee args stop hc)

/-- Whether a number of arguments fits a builtin. -/
def Builtin.Admits (b : Builtin) (count : Nat) : Prop :=
  b.arity < 0 ∨ count = b.arity.toNat

theorem Builtin.checkArity_stopsAsCalled (b : Builtin) (args : List Value) :
    StopsAsCalled (b.checkArity args) := by
  unfold checkArity
  split
  · exact .ok ()
  · exact Arity.check_stopsAsCalled _ b.name args

theorem Builtin.admits_of_checkArity {b : Builtin} {args : List Value}
    (h : b.checkArity args = .ok ()) : b.Admits args.length := by
  unfold checkArity at h
  split at h
  · exact .inl (by assumption)
  · have hallows := Arity.allows_of_check h
    exact .inr (of_decide_eq_true hallows)

/-- The arguments of a function are bound without reaching past them, since a function takes at
least as many as it has names for. -/
theorem Signature.bind_of_allows {signature : Signature} {args : List Value}
    (h : signature.arity.allows args.length = true) : ∃ bound, signature.bind args = .ok bound := by
  cases signature with
  | inline => exact ⟨_, rfl⟩
  | named positional rest =>
    have hcount : positional.length ≤ args.length := by
      cases rest with
      | none =>
        have hexact : args.length = positional.length := of_decide_eq_true h
        omega
      | some name => exact of_decide_eq_true h
    rw [bind, if_neg (Nat.not_lt.mpr hcount)]
    exact ⟨_, rfl⟩

/-- A call binds the arguments, or is refused because of their number. -/
theorem Closure.bindings_stopsPlainly (closure : Closure) (args : List Value)
    (kwargs : List (String × Value)) : StopsPlainly (closure.bindings args kwargs) := by
  unfold bindings
  split
  · exact .error rfl
  · rename_i hfits
    obtain ⟨bound, hbound⟩ := Signature.bind_of_allows (Arity.complaint?_eq_none_iff.mp hfits)
    rw [hbound]
    exact .ok _

/-! ### Operations -/

namespace Operation

theorem combine_failsAsCalled (operator : String) {op : Value → Value → Except Fault Value}
    (hop : ∀ a b, FailsAsCalled (op a b)) (args : List Value) :
    FailsAsCalled (combine operator op args) := by
  cases args with
  | nil => exact .error rfl
  | cons first rest => exact .foldlM hop rest first

theorem numeric_failsAsCalled (operator : String) (exact : Int → Int → Int)
    (rounded : Float → Float → Float) (a b : Value) :
    FailsAsCalled (numeric operator exact rounded a b) := by
  unfold numeric
  split
  · split
    · exact .ok _
    · exact .error rfl
  · split
    · exact .ok _
    · exact .error rfl

theorem sum_failsAsCalled (a b : Value) : FailsAsCalled (sum a b) := by
  unfold sum
  split
  · exact .ok _
  · exact .ok _
  · exact numeric_failsAsCalled _ _ _ a b

theorem quotient_failsAsCalled (a b : Value) : FailsAsCalled (quotient a b) := by
  unfold quotient
  split
  · split
    · exact .error rfl
    · exact .ok _
  · exact .error rfl

theorem wholeModulus_failsAsCalled (x y : Int64) : FailsAsCalled (wholeModulus x y) := by
  unfold wholeModulus
  split
  · exact .error rfl
  · split
    · exact .error rfl
    · dsimp only
      split
      · exact .ok _
      · exact .error rfl

theorem modulus_failsAsCalled (a b : Value) : FailsAsCalled (modulus a b) := by
  unfold modulus
  split
  · exact wholeModulus_failsAsCalled _ _
  · split
    · split
      · exact .error rfl
      · exact .ok _
    · exact .error rfl

theorem order?_failsAsCalled (operator : String) (a b : Value) :
    FailsAsCalled (order? operator a b) := by
  unfold order?
  split
  · exact .ok _
  · split
    · exact .ok _
    · exact .error rfl

theorem allOrdered_failsAsCalled (operator : String) (holds : Ordering → Bool)
    (args : List Value) : FailsAsCalled (allOrdered operator holds args) := by
  fun_induction allOrdered operator holds args with
  | case1 a b rest ih =>
    refine .bind (order?_failsAsCalled operator a b) fun order => ?_
    split
    · exact ih
    · exact .ok false
  | case2 args hshort => exact .ok true

theorem comparison_failsAsCalled (operator : String) (holds : Ordering → Bool)
    (args : List Value) : FailsAsCalled (comparison operator holds args) := by
  unfold comparison
  split
  · exact .error rfl
  · exact .map (allOrdered_failsAsCalled operator holds args)

theorem countOf_failsAsCalled (value : Value) : FailsAsCalled (countOf value) := by
  unfold countOf
  split
  · exact .ok _
  · exact .ok _
  · exact .ok _
  · exact .ok _
  · exact .error rfl

theorem insertPairs_failsAsCalled (entries : List (Key × Value)) (pairs : List (Value × Value)) :
    FailsAsCalled (Value.insertPairs entries pairs) := by
  induction pairs generalizing entries with
  | nil => exact .ok entries
  | cons pair pairs ih =>
    obtain ⟨k, v⟩ := pair
    unfold Value.insertPairs
    split
    · exact ih _
    · exact .error rfl

/-- An even number of values pairs up. -/
theorem pairUp_of_even {args : List Value} (h : args.length % 2 = 0) :
    ∃ pairs, pairUp args = .ok pairs := by
  fun_induction pairUp args with
  | case1 => exact ⟨[], rfl⟩
  | case2 _ => simp at h
  | case3 k v rest ih =>
    have hrest : rest.length % 2 = 0 := by
      simp only [List.length_cons] at h
      omega
    obtain ⟨pairs, hpairs⟩ := ih hrest
    exact ⟨(k, v) :: pairs, by rw [hpairs]; rfl⟩

theorem makeDict_stopsAsCalled (args : List Value) : StopsAsCalled (makeDict args) := by
  unfold makeDict
  split
  · exact .error rfl
  · rename_i heven
    obtain ⟨pairs, hpairs⟩ := pairUp_of_even (Decidable.not_not.mp heven)
    rw [hpairs]
    exact .lift (.map (insertPairs_failsAsCalled [] pairs))

theorem runGet_stopsAsCalled (args : List Value) : StopsAsCalled (runGet args) := by
  refine Arity.stopsAsCalled_after_check (.between 2 3) "get" args fun hcount => ?_
  split
  · exact .ok _
  · exact .ok _
  · rename_i htwo hthree
    match args, hcount with
    | [a, b], _ => exact absurd rfl (htwo a b)
    | [a, b, c], _ => exact absurd rfl (hthree a b c)

theorem thrown_isCalled (thrownClass message : Value) :
    (thrown thrownClass message).isCalled = true := by
  unfold thrown
  split
  · split
    · rfl
    · rfl
  · rfl

/-- **Operations fail as called functions do.**  Given a number of arguments that fits, an operation
gives a value, or a fault without a location that is not an interrupt. -/
theorem run_stopsAsCalled (op : Operation) (args : List Value)
    (h : (Builtin.operation op).Admits args.length) : StopsAsCalled (op.run args) := by
  cases op with
  | add => exact .lift (combine_failsAsCalled "+" sum_failsAsCalled args)
  | subtract =>
    exact .lift (combine_failsAsCalled "-" (fun a b => numeric_failsAsCalled _ _ _ a b) args)
  | multiply =>
    exact .lift (combine_failsAsCalled "*" (fun a b => numeric_failsAsCalled _ _ _ a b) args)
  | divide => exact .lift (combine_failsAsCalled "/" quotient_failsAsCalled args)
  | modulo => exact .lift (combine_failsAsCalled "mod" modulus_failsAsCalled args)
  | equal => exact .ok _
  | less => exact .lift (comparison_failsAsCalled "<" _ args)
  | greater => exact .lift (comparison_failsAsCalled ">" _ args)
  | atMost => exact .lift (comparison_failsAsCalled "<=" _ args)
  | atLeast => exact .lift (comparison_failsAsCalled ">=" _ args)
  | list => exact .ok _
  | dict => exact makeDict_stopsAsCalled args
  | get => exact runGet_stopsAsCalled args
  | str => exact .ok _
  -- the operations with a fixed number of arguments, which the match takes apart
  | not =>
    obtain ⟨value, rfl⟩ := List.length_eq_one_iff.mp (h.resolve_left (by decide))
    exact .ok _
  | count =>
    obtain ⟨value, rfl⟩ := List.length_eq_one_iff.mp (h.resolve_left (by decide))
    exact .lift (countOf_failsAsCalled value)
  | type =>
    obtain ⟨value, rfl⟩ := List.length_eq_one_iff.mp (h.resolve_left (by decide))
    exact .ok _
  | throw =>
    have hcount : args.length = 2 := h.resolve_left (by decide)
    match args, hcount with
    | [thrownClass, message], _ => exact .error (thrown_isCalled thrownClass message)

end Operation

/-! ### Methods -/

theorem TextMethod.textArgument_failsAsCalled (method : String) (value : Value) :
    FailsAsCalled (textArgument method value) := by
  unfold textArgument
  split
  · exact .ok _
  · exact .error rfl

theorem TextMethod.pieces_failsAsCalled (text : String) (separator : Value) :
    FailsAsCalled (pieces text separator) := by
  refine .bind (textArgument_failsAsCalled "split" separator) fun mark => ?_
  split
  · exact .error rfl
  · exact .ok _

theorem TextMethod.joinAll_failsAsCalled (between : String) (value : Value) :
    FailsAsCalled (joinAll between value) := by
  unfold joinAll
  split
  · refine .bind (.mapM (textArgument_failsAsCalled "join") _) fun texts => ?_
    exact .ok _
  · exact .error rfl

theorem TextMethod.replaceAll_failsAsCalled (text : String) (old new : Value) :
    FailsAsCalled (replaceAll text old new) := by
  refine .bind (textArgument_failsAsCalled "replace" old) fun old => ?_
  refine .bind (textArgument_failsAsCalled "replace" new) fun new => ?_
  exact .ok _

theorem TextMethod.run_stopsAsCalled (method : TextMethod) (text : String) (args : List Value) :
    StopsAsCalled (method.run text args) := by
  refine Arity.stopsAsCalled_after_check method.arity method.name args fun hcount => ?_
  cases method with
  | upper => exact .ok _
  | lower => exact .ok _
  | strip => exact .ok _
  | split =>
    match args, hcount with
    | [], _ => exact .ok _
    | [separator], _ => exact .lift (pieces_failsAsCalled text separator)
  | startsWith =>
    match args, hcount with
    | [start], _ =>
      exact .bind (.lift (textArgument_failsAsCalled "startswith" start)) fun _ => .ok _
  | endsWith =>
    match args, hcount with
    | [finish], _ =>
      exact .bind (.lift (textArgument_failsAsCalled "endswith" finish)) fun _ => .ok _
  | join =>
    match args, hcount with
    | [items], _ => exact .lift (joinAll_failsAsCalled text items)
  | replace =>
    match args, hcount with
    | [old, new], _ => exact .lift (replaceAll_failsAsCalled text old new)

theorem ListMethod.run_stopsAsCalled (method : ListMethod) (items args : List Value) :
    StopsAsCalled (method.run items args) := by
  refine Arity.stopsAsCalled_after_check method.arity method.name args fun hcount => ?_
  cases method with
  | index =>
    match args, hcount with
    | [value], _ =>
      refine .lift ?_
      unfold indexOf
      split
      · exact .ok _
      · exact .error rfl
  | count =>
    match args, hcount with
    | [value], _ => exact .ok _
  | copy => exact .ok _

theorem DictMethod.run_stopsAsCalled (method : DictMethod) (entries : List (Key × Value))
    (args : List Value) : StopsAsCalled (method.run entries args) := by
  refine Arity.stopsAsCalled_after_check method.arity method.name args fun hcount => ?_
  cases method with
  | get =>
    match args, hcount with
    | [key], _ => exact .ok _
    | [key, default], _ => exact .ok _
  | keys => exact .ok _
  | values => exact .ok _
  | items => exact .ok _
  | copy => exact .ok _

theorem ExceptionMethod.run_stopsAsCalled (method : ExceptionMethod) (fault : Fault)
    (args : List Value) : StopsAsCalled (method.run fault args) := by
  refine Arity.stopsAsCalled_after_check (.exactly 0) method.name args fun _ => ?_
  cases method with
  | kind => exact .ok _
  | message => exact .ok _

/-- **Methods fail as called functions do.**  A method checks the number of its arguments itself, so
it takes any list of them. -/
theorem Method.run_stopsAsCalled (method : Method) (args : List Value) :
    StopsAsCalled (method.run args) := by
  cases method with
  | text method receiver => exact method.run_stopsAsCalled receiver args
  | list method receiver => exact method.run_stopsAsCalled receiver args
  | dict method receiver => exact method.run_stopsAsCalled receiver args
  | exception method receiver => exact method.run_stopsAsCalled receiver args

end FrameLisp
