import FrameLisp.Proofs.CallSite
import FrameLisp.Proofs.Dict
import FrameLisp.Proofs.FrameIsolation

/-!
# What parameters stand for

A list of parameters makes a function if and only if it declares a signature
(`Signature.ofForm_eq_ok_iff`): all of its items are names, and `&` is not among them or stands
right before the last one and nowhere else.

A call with a number of arguments that the signature does not take is refused before anything is
evaluated.  Any other call evaluates the body in a frame of its own, and `Signature.Resolves` says
what each name stands for there: the dict of keyword arguments, the list of collected arguments, the
argument of the last parameter with that name, or what it stands for by then in the frame that the
function was made in.  The frame of the call is made by binding names one after the other, so what
is bound last is found first (`Signature.Resolves.find?_eq`), and it stays as it is while the body
is evaluated, since nothing below the top level writes a frame that is there already.
-/

namespace FrameLisp

/-! ### Signatures that names declare -/

namespace Signature

variable {form : String} {location : Option Location} {names : List String}
  {signature : Signature}

/-- The signature that names declare. -/
inductive Declares : List String → Signature → Prop
  /-- All names are parameters. -/
  | all {names : List String} (h : collector ∉ names) : Declares names (.named names none)
  /-- The last name collects what is left over, and the collector stands before it. -/
  | collecting {positional : List String} {rest : String} (h : collector ∉ positional)
    (hrest : rest ≠ collector) :
    Declares (positional ++ [collector, rest]) (.named positional (some rest))

/-- How a number of arguments fits a signature. -/
def Takes : Signature → Nat → Prop
  | named positional none, count => count = positional.length
  | named positional (some _), count => positional.length ≤ count
  | inline, _ => True

theorem Takes.length_le {positional : List String} {rest : Option String} {count : Nat}
    (h : (named positional rest).Takes count) : positional.length ≤ count := by
  cases rest with
  | none => exact Nat.le_of_eq h.symm
  | some rest => exact h

theorem complaint?_eq_none_iff_takes (signature : Signature) (count : Nat) :
    signature.arity.complaint? count = none ↔ signature.Takes count := by
  rw [Arity.complaint?_eq_none_iff]
  cases signature with
  | named positional rest =>
    cases rest with
    | none => simp [arity, Arity.allows, Takes]
    | some rest => simp [arity, Arity.allows, Takes]
  | inline => simp [arity, Arity.allows, Takes]

theorem findIdx?_collector_eq_none (h : collector ∉ names) :
    names.findIdx? (· = collector) = none := by
  rw [List.findIdx?_eq_none_iff]
  intro name hname
  have hne : name ≠ collector := fun heq => h (heq ▸ hname)
  simpa using hne

/-- What is read where the first collector stands is told by the names after it. -/
theorem ofNames_append {before : List String} (h : collector ∉ before) (after : List String) :
    ofNames form location (before ++ collector :: after) =
      if after.contains collector then .error (.fault (.repeatedCollector form location))
      else match after with
        | [] => .error (.fault (.collectorWithoutName form location))
        | [rest] => .ok (.named before (some rest))
        | _ => .error (.fault (.namesAfterCollector form location)) := by
  have hfirst : (before ++ collector :: after).findIdx? (· = collector) = some before.length := by
    rw [List.findIdx?_append, findIdx?_collector_eq_none h, List.findIdx?_cons]
    simp
  have hdrop : (before ++ collector :: after).drop (before.length + 1) = after := by
    simp [List.drop_append]
  have hlength : (before ++ collector :: after).length = before.length + 1 + after.length := by
    simp only [List.length_append, List.length_cons]
    omega
  unfold ofNames
  rw [hfirst]
  dsimp only
  rw [hdrop, hlength]
  by_cases hrepeated : after.contains collector = true
  · rw [if_pos hrepeated, if_pos hrepeated]
  · rw [if_neg hrepeated, if_neg hrepeated]
    match after with
    | [] => simp
    | [rest] => simp [around]
    | rest :: more :: others =>
      have hmore : before.length + 2 ≠ before.length + 1 + (rest :: more :: others).length := by
        simp only [List.length_cons]
        omega
      rw [if_neg (by simp), if_pos hmore]

/-- **What names are read as is what they declare.** -/
theorem ofNames_eq_ok_iff :
    ofNames form location names = .ok signature ↔ Declares names signature := by
  constructor
  · intro h
    by_cases hmem : collector ∈ names
    · obtain ⟨before, after, rfl, hbefore⟩ := List.eq_append_cons_of_mem hmem
      rw [ofNames_append hbefore] at h
      split at h
      · cases h
      · rename_i hrepeated
        match after, h with
        | [rest], h =>
          obtain rfl : Signature.named before (some rest) = signature := Except.ok.inj h
          have hrest : rest ≠ collector := by
            rintro rfl
            exact hrepeated (by simp)
          exact .collecting hbefore hrest
    · unfold ofNames at h
      rw [findIdx?_collector_eq_none hmem] at h
      obtain rfl : Signature.named names none = signature := Except.ok.inj h
      exact .all hmem
  · intro h
    cases h with
    | all hall =>
      unfold ofNames
      rw [findIdx?_collector_eq_none hall]
    | @collecting positional rest hpositional hrest =>
      have hone : ¬ [rest].contains collector = true := by simpa using hrest.symm
      rw [ofNames_append hpositional, if_neg hone]

theorem map_some_injective : Function.Injective (List.map (some : String → Option String)) :=
  List.map_injective_iff.mpr fun _ _ => Option.some.inj

/-- Names can be read of nodes if all of them are identifiers. -/
theorem mapM_identifierFor_eq_ok_iff {nodes : List Node} :
    nodes.mapM (Node.identifierFor form) = .ok names ↔
      nodes.map Node.identifier? = names.map some := by
  induction nodes generalizing names with
  | nil =>
    show Except.ok [] = .ok names ↔ _
    rw [Except.ok.injEq, List.map_nil, eq_comm, eq_comm (a := []), List.map_eq_nil_iff]
  | cons node nodes ih =>
    rw [List.mapM_cons, List.map_cons, Node.identifierFor]
    cases node.identifier? with
    | none =>
      constructor
      · intro h
        cases h
      · intro h
        cases names <;> cases h
    | some name =>
      show (nodes.mapM (Node.identifierFor form) >>= fun more => .ok (name :: more)) = .ok names ↔ _
      cases hmore : nodes.mapM (Node.identifierFor form) with
      | error fault =>
        constructor
        · intro h
          cases h
        · intro h
          obtain ⟨first, rest, -, -, hrest⟩ := List.map_eq_cons_iff.mp h.symm
          rw [ih.mpr hrest.symm] at hmore
          cases hmore
      | ok more =>
        show Except.ok (name :: more) = .ok names ↔ _
        rw [ih.mp hmore, ← List.map_cons, Except.ok.injEq, map_some_injective.eq_iff]

/-- **A list of parameters makes a signature if and only if its names declare it.** -/
theorem ofForm_eq_ok_iff {parameters : Form} :
    ofForm form location parameters = .ok signature ↔
      ∃ names : List String, parameters.items.map Node.identifier? = names.map some ∧
        Declares names signature := by
  unfold ofForm
  cases hnames : parameters.items.mapM (Node.identifierFor form) with
  | error fault =>
    constructor
    · intro h
      cases h
    · rintro ⟨names, hmap, -⟩
      rw [mapM_identifierFor_eq_ok_iff.mpr hmap] at hnames
      cases hnames
  | ok found =>
    have hfound := mapM_identifierFor_eq_ok_iff.mp hnames
    show ofNames form location found = .ok signature ↔ _
    rw [ofNames_eq_ok_iff]
    constructor
    · intro h
      exact ⟨found, hfound, h⟩
    · rintro ⟨names, hmap, h⟩
      have hsame : found.map some = names.map some := hfound.symm.trans hmap
      rwa [map_some_injective hsame]

/-! ### What names stand for in a call -/

/-- The name of an argument of an inline function. -/
def numberName (n : Nat) : String := "%" ++ Decimal.ofNat n

/-- What a name stands for in the body of a function with the signature, if it is called with
arguments and keyword arguments and made in a frame. -/
inductive Resolves (args : List Value) (kwargs : List (String × Value)) (captured : Frame) :
    Signature → String → Option Value → Prop
  /-- The dict of the keyword arguments. -/
  | keywords {signature : Signature} {dict : Value}
    (h : Value.ofPairs (kwargs.map fun pair => (.ofKeyword pair.1, pair.2)) = .ok dict) :
    Resolves args kwargs captured signature keywordArguments (some dict)
  /-- The arguments that are left over. -/
  | collected {positional : List String} {rest : String} (hrest : rest ≠ keywordArguments) :
    Resolves args kwargs captured (.named positional (some rest)) rest
      (some (.list (args.drop positional.length)))
  /-- The argument of the last parameter with the name. -/
  | positional {before after : List String} {rest : Option String} {name : String} {arg : Value}
    (hname : name ≠ keywordArguments) (hrest : rest ≠ some name) (hlast : name ∉ after)
    (harg : args[before.length]? = some arg) :
    Resolves args kwargs captured (.named (before ++ name :: after) rest) name (some arg)
  /-- The first argument of an inline function, if there is one. -/
  | first {arg : Value} (harg : args.head? = some arg) :
    Resolves args kwargs captured .inline "%" (some arg)
  /-- An argument of an inline function by its number, counted from one. -/
  | numbered {i : Nat} {arg : Value} (harg : args[i]? = some arg) :
    Resolves args kwargs captured .inline (numberName (i + 1)) (some arg)
  /-- Every other name has the value that it has in the frame. -/
  | captured {positional : List String} {rest : Option String} {name : String}
    (hname : name ≠ keywordArguments) (hrest : rest ≠ some name) (hpositional : name ∉ positional) :
    Resolves args kwargs captured (.named positional rest) name (captured.find? name)
  /-- So does every other name in an inline function. -/
  | free {name : String} (hname : name ≠ keywordArguments) (hfirst : name = "%" → args = [])
    (hnumbered : ∀ i < args.length, name ≠ numberName (i + 1)) :
    Resolves args kwargs captured .inline name (captured.find? name)

variable {args : List Value} {kwargs : List (String × Value)} {captured : Frame} {name : String}
  {value : Option Value}

/-- A dict is made of the keyword arguments. -/
theorem ofPairs_kwargs (kwargs : List (String × Value)) :
    Value.ofPairs (kwargs.map fun pair => (.ofKeyword pair.1, pair.2)) =
      .ok (Closure.keywordDict kwargs) := by
  have hentries := Value.ofPairs_entries
    (kwargs.map fun pair => (Key.keyword (Value.keywordName pair.1), pair.2))
  rw [List.map_map] at hentries
  exact hentries

/-! #### Arguments by number -/

theorem toList_numberName (n : Nat) : (numberName n).toList = '%' :: Nat.toDigits 10 n := by
  unfold numberName Decimal.ofNat
  rw [String.toList_append]
  exact congrArg ('%' :: ·) String.toList_ofList

theorem numberName_injective : Function.Injective numberName := by
  intro m n h
  have hchars := congrArg String.toList h
  rw [toList_numberName, toList_numberName, List.cons.injEq] at hchars
  have hsame := Decimal.natOf?_toDigits m
  rw [hchars.2, Decimal.natOf?_toDigits] at hsame
  exact (Option.some.inj hsame).symm

/-- The first argument has a name of its own, without a number. -/
theorem numberName_ne (n : Nat) : numberName n ≠ "%" := by
  intro h
  have hchars := congrArg String.toList h
  rw [toList_numberName] at hchars
  have hnone : Nat.toDigits 10 n = [] := (List.cons.inj hchars).2
  have hsome := Decimal.natOf?_toDigits n
  rw [hnone] at hsome
  cases hsome

/-- An argument's number is not the name of the keyword arguments. -/
theorem numberName_ne_keywordArguments (n : Nat) : numberName n ≠ keywordArguments := by
  intro h
  have hchars := congrArg String.toList h
  rw [toList_numberName] at hchars
  cases hchars

theorem getElem?_numbered (n : Nat) (args : List Value) (i : Nat) :
    (numbered n args)[i]? = args[i]?.map fun arg => (numberName (n + i), arg) := by
  induction args generalizing n i with
  | nil => rfl
  | cons arg args ih =>
    cases i with
    | zero => rfl
    | succ i =>
      have hrest := ih (n + 1) i
      rw [Nat.add_right_comm, Nat.add_assoc] at hrest
      exact hrest

theorem mem_numbered {pair : String × Value} {n : Nat} :
    pair ∈ numbered n args ↔ ∃ i, args[i]? = some pair.2 ∧ pair.1 = numberName (n + i) := by
  obtain ⟨key, value⟩ := pair
  rw [List.mem_iff_getElem?]
  simp only [getElem?_numbered, Option.map_eq_some_iff, Prod.mk.injEq]
  constructor
  · rintro ⟨i, arg, harg, rfl, rfl⟩
    exact ⟨i, harg, rfl⟩
  · rintro ⟨i, harg, hkey⟩
    exact ⟨i, value, harg, hkey.symm, rfl⟩

/-- No two arguments have one number. -/
theorem nodup_keys_numbered (n : Nat) (args : List Value) :
    (Bindings.keys (numbered n args)).Nodup := by
  have hkeys : Bindings.keys (numbered n args) = (List.range' n args.length).map numberName := by
    induction args generalizing n with
    | nil => rfl
    | cons arg args ih =>
      have hrest := ih (n + 1)
      exact congrArg (numberName n :: ·) hrest
  rw [hkeys]
  exact (List.nodup_range').map numberName_injective

/-- An argument is found by its number, whichever is bound first. -/
theorem find?_numbered {i : Nat} {arg : Value} (h : args[i]? = some arg) :
    Bindings.find? (numberName (i + 1)) (numbered 1 args).reverse = some arg := by
  have hmem : (numberName (i + 1), arg) ∈ numbered 1 args :=
    mem_numbered.mpr ⟨i, h, by rw [Nat.add_comm]⟩
  have hnodup := nodup_keys_numbered 1 args
  rw [Bindings.find?_perm hnodup (List.reverse_perm _).symm]
  exact Bindings.find?_of_mem hnodup hmem

/-! #### Arguments by position -/

/-- The last parameter with a name has the argument at its position. -/
theorem find?_zip_reverse {before after : List String} {arg : Value} (hlast : name ∉ after)
    (harg : args[before.length]? = some arg) :
    Bindings.find? name ((before ++ name :: after).zip args).reverse = some arg := by
  obtain ⟨hlt, hget⟩ := List.getElem?_eq_some_iff.mp harg
  have hsplit : args = args.take before.length ++ arg :: args.drop (before.length + 1) := by
    rw [← hget, ← List.drop_eq_getElem_cons hlt, List.take_append_drop]
  have hlength : before.length = (args.take before.length).length := by
    rw [List.length_take]
    omega
  rw [Bindings.find?_reverse_eq_some_iff]
  refine ⟨before.zip (args.take before.length), after.zip (args.drop (before.length + 1)), ?_, ?_⟩
  · conv_lhs => rw [hsplit]
    rw [List.zip_append hlength]
    rfl
  · intro pair hpair heq
    exact hlast (heq ▸ (List.of_mem_zip hpair).1)

/-- Only parameters are bound to arguments by position. -/
theorem find?_zip_eq_none {positional : List String} (h : name ∉ positional) :
    Bindings.find? name (positional.zip args).reverse = none := by
  rw [Bindings.find?_eq_none_iff]
  intro pair hpair heq
  exact h (heq ▸ (List.of_mem_zip (List.mem_reverse.mp hpair)).1)

/-! #### What is bound -/

/-- What is left over is bound after all else. -/
theorem find?_named {positional : List String} {rest : Option String}
    {bound : List (String × Value)} (h : (named positional rest).bind args = .ok bound) :
    Bindings.find? name bound.reverse =
      if rest = some name then some (.list (args.drop positional.length))
      else Bindings.find? name (positional.zip args).reverse := by
  unfold bind at h
  dsimp only at h
  by_cases hshort : args.length < positional.length
  · rw [if_pos hshort] at h
    cases h
  · rw [if_neg hshort] at h
    obtain rfl := Except.ok.inj h
    cases rest with
    | none => simp
    | some rest => simp [Bindings.find?]

/-- Arguments have their numbers, and the first has a name beside. -/
theorem find?_inline {bound : List (String × Value)} (h : inline.bind args = .ok bound) :
    Bindings.find? name bound.reverse =
      (Bindings.find? name (numbered 1 args).reverse).or
        (if name = "%" then args.head? else none) := by
  obtain rfl := Except.ok.inj h
  rw [List.reverse_append, Bindings.find?_append]
  cases args with
  | nil => simp [Bindings.find?]
  | cons arg args => simp [Bindings.find?, eq_comm]

/-- Nothing else is a number. -/
theorem find?_numbered_eq_none (h : ∀ i < args.length, name ≠ numberName (i + 1)) :
    Bindings.find? name (numbered 1 args).reverse = none := by
  rw [Bindings.find?_eq_none_iff]
  intro pair hpair heq
  obtain ⟨i, harg, hkey⟩ := mem_numbered.mp (List.mem_reverse.mp hpair)
  have hlt : i < args.length := (List.getElem?_eq_some_iff.mp harg).1
  rw [Nat.add_comm] at hkey
  exact h i hlt (heq.symm.trans hkey)

/-- Arguments of a number that is taken can be bound. -/
theorem exists_bind {signature : Signature} (h : signature.Takes args.length) :
    ∃ bound, signature.bind args = .ok bound := by
  cases signature with
  | named positional rest => exact ⟨_, if_neg (Nat.not_lt.mpr h.length_le)⟩
  | inline => exact ⟨_, rfl⟩

/-- **A call binds what names are to stand for.** -/
theorem Resolves.find?_eq {signature : Signature}
    (h : Resolves args kwargs captured signature name value) {bound : List (String × Value)}
    (hbound : signature.bind args = .ok bound) :
    Bindings.find? name (Bindings.insertAll captured
      (bound ++ [(keywordArguments, Closure.keywordDict kwargs)])) = value := by
  -- the dict of keyword arguments is bound last, so it is found first
  have hfind : Bindings.find? name (Bindings.insertAll captured
      (bound ++ [(keywordArguments, Closure.keywordDict kwargs)])) =
        if keywordArguments = name then some (Closure.keywordDict kwargs)
        else (Bindings.find? name bound.reverse).or (captured.find? name) := by
    rw [Bindings.find?_insertAll, List.reverse_append, List.reverse_singleton,
      List.singleton_append, Bindings.find?]
    split
    · rfl
    · rfl
  rw [hfind]
  cases h with
  | keywords hdict =>
    rw [ofPairs_kwargs, Except.ok.injEq] at hdict
    rw [if_pos rfl, hdict]
  | collected hrest =>
    rw [if_neg hrest.symm, find?_named hbound, if_pos rfl, Option.some_or]
  | positional hname hrest hlast harg =>
    rw [if_neg hname.symm, find?_named hbound, if_neg hrest, find?_zip_reverse hlast harg,
      Option.some_or]
  | @first arg harg =>
    have hnone : ∀ i < args.length, "%" ≠ numberName (i + 1) :=
      fun i _ => (numberName_ne (i + 1)).symm
    rw [if_neg (by decide), find?_inline hbound, find?_numbered_eq_none hnone, if_pos rfl, harg]
    rfl
  | @numbered i arg harg =>
    rw [if_neg (numberName_ne_keywordArguments (i + 1)).symm, find?_inline hbound,
      find?_numbered harg]
    rfl
  | captured hname hrest hpositional =>
    rw [if_neg hname.symm, find?_named hbound, if_neg hrest, find?_zip_eq_none hpositional,
      Option.none_or]
  | free hname hfirst hnumbered =>
    have hnone : (if name = "%" then args.head? else none) = none := by
      by_cases hpercent : name = "%"
      · rw [if_pos hpercent, hfirst hpercent, List.head?_nil]
      · rw [if_neg hpercent]
    rw [if_neg hname.symm, find?_inline hbound, find?_numbered_eq_none hnumbered, hnone,
      Option.none_or, Option.none_or]

/-- Every name stands for something, or for nothing if the frame has nothing for it. -/
theorem exists_resolves {signature : Signature} (h : signature.Takes args.length) (name : String) :
    ∃ value, Resolves args kwargs captured signature name value := by
  by_cases hname : name = keywordArguments
  · subst hname
    exact ⟨_, .keywords (ofPairs_kwargs kwargs)⟩
  cases signature with
  | named positional rest =>
    by_cases hrest : rest = some name
    · subst hrest
      exact ⟨_, .collected hname⟩
    by_cases hmem : name ∈ positional
    · obtain ⟨after, before, hreverse, hlast⟩ :=
        List.eq_append_cons_of_mem (List.mem_reverse.mpr hmem)
      obtain rfl : positional = before.reverse ++ name :: after.reverse := by
        rw [← List.reverse_reverse positional, hreverse]
        simp
      have hlength : before.reverse.length < args.length := by
        have hle := h.length_le
        rw [List.length_append, List.length_cons] at hle
        omega
      exact ⟨_, .positional hname hrest (by simpa using hlast) (List.getElem?_eq_getElem hlength)⟩
    · exact ⟨_, .captured hname hrest hmem⟩
  | inline =>
    by_cases hnumber : ∃ i < args.length, name = numberName (i + 1)
    · obtain ⟨i, hi, rfl⟩ := hnumber
      exact ⟨_, .numbered (List.getElem?_eq_getElem hi)⟩
    have hnumbered : ∀ i < args.length, name ≠ numberName (i + 1) :=
      fun i hi heq => hnumber ⟨i, hi, heq⟩
    by_cases hfirst : name = "%" ∧ args ≠ []
    · obtain ⟨rfl, hne⟩ := hfirst
      exact ⟨_, .first (List.head?_eq_some_head hne)⟩
    · refine ⟨_, .free hname (fun hpercent => ?_) hnumbered⟩
      exact Decidable.not_not.mp fun hne => hfirst ⟨hpercent, hne⟩

/-- **In the frame of a call, names stand for what they are to stand for**, and for nothing else. -/
theorem find?_eq_iff_resolves {signature : Signature} (h : signature.Takes args.length)
    {bound : List (String × Value)} (hbound : signature.bind args = .ok bound) :
    Bindings.find? name (Bindings.insertAll captured
        (bound ++ [(keywordArguments, Closure.keywordDict kwargs)])) = value ↔
      Resolves args kwargs captured signature name value := by
  constructor
  · rintro rfl
    obtain ⟨found, hfound⟩ : ∃ found, Resolves args kwargs captured signature name found :=
      exists_resolves h name
    rwa [hfound.find?_eq hbound]
  · intro hresolves
    exact hresolves.find?_eq hbound

end Signature

/-! ### Calls -/

/-- A call with a number of arguments that is taken evaluates the body in a frame of its own. -/
theorem Closure.exists_call_eq_body {closure : Closure} {args : List Value}
    (h : closure.signature.Takes args.length)
    (kwargs : List (String × Value)) :
    ∃ bound, closure.signature.bind args = .ok bound ∧
      ∀ (evaluate : Context → Evaluator) (machine : Machine),
        closure.call evaluate args kwargs machine =
          Eval.body (evaluate closure.context) machine.frames.size .nil closure.body
            (machine.addFrame ((machine.frame closure.frame).insertAll
              (bound ++ [(Signature.keywordArguments, Closure.keywordDict kwargs)]))) := by
  have hcount := (Signature.complaint?_eq_none_iff_takes _ _).mpr h
  obtain ⟨bound, hbound⟩ := Signature.exists_bind h
  refine ⟨bound, hbound, fun evaluate machine => ?_⟩
  have hbindings : closure.bindings args kwargs =
      .ok (bound ++ [(Signature.keywordArguments, keywordDict kwargs)]) := by
    unfold Closure.bindings
    rw [hcount, hbound]
    rfl
  unfold Closure.call
  rw [hbindings]
  rfl

theorem Machine.frame_addFrame (machine : Machine) (frame : Frame) :
    (machine.addFrame frame).frame machine.frames.size = frame := by
  simp [addFrame, Machine.frame]

/-- How a call of a function goes. -/
structure Closure.CallGoes (config : Config) (closure : Closure) (args : List Value)
    (kwargs : List (String × Value)) (machine : Machine)
    (outcome : EStateM.Result Stop Machine Value) : Prop where
  /-- A wrong number of arguments is refused, and nothing has happened. -/
  refused (h : ¬ closure.signature.Takes args.length) :
    ∃ reason, outcome =
      .error (.fault (.arity closure.name reason closure.location)) machine
  /-- Or else the body is evaluated in a new frame, under the context of the function.  At its start
  all names stand there for what they are to stand for, and if the host binds no variables, so they
  do before each of its nodes. -/
  entered (h : closure.signature.Takes args.length) :
    ∃ inner : Frame,
      let frame := machine.frames.size
      let evaluate := config.evaluators closure.context
      outcome = Eval.body evaluate frame .nil closure.body (machine.addFrame inner) ∧
        ∀ before after last machine', closure.body = before ++ after →
          before = [] ∨ config.hosts.WriteNothing →
          Eval.body evaluate frame .nil before (machine.addFrame inner) = .ok last machine' →
          ∀ name value, machine'.lookup? frame name = value ↔
            closure.signature.Resolves args kwargs (machine.frame closure.frame) name value

theorem Closure.callGoes (config : Config) (ref : Nat) (closure : Closure) (args : List Value)
    (kwargs : List (String × Value)) (machine : Machine) :
    closure.CallGoes config args kwargs machine
      ((Value.function ref closure).callWith config.hosts config.evaluators args kwargs
        machine) := by
  have hcall : (Value.function ref closure).callWith config.hosts config.evaluators args kwargs =
      closure.call config.evaluators args kwargs := by
    unfold Value.callWith
    cases kwargs with
    | nil => exact Value.call_function ..
    | cons pair kwargs => rfl
  rw [hcall]
  constructor
  · intro h
    have hcomplaint : closure.signature.arity.complaint? args.length ≠ none :=
      fun hnone => h ((Signature.complaint?_eq_none_iff_takes _ _).mp hnone)
    obtain ⟨reason, hreason⟩ := Option.ne_none_iff_exists'.mp hcomplaint
    exact ⟨reason, Closure.call_eq_arity hreason config.evaluators kwargs machine⟩
  · intro h
    obtain ⟨bound, hbound, hbody⟩ := Closure.exists_call_eq_body h kwargs
    let inner := (machine.frame closure.frame).insertAll
      (bound ++ [(Signature.keywordArguments, Closure.keywordDict kwargs)])
    refine ⟨inner, hbody config.evaluators machine, ?_⟩
    intro before after last machine' _ hwrites hbefore name value
    have hisolated : (machine.addFrame inner).Isolated machine' := by
      rcases hwrites with rfl | hwrites
      · cases hbefore
        exact .of_frames_eq rfl
      · exact .of_body hwrites hbefore
    have hstays : machine'.frame machine.frames.size = inner := by
      have hexists : machine.frames.size < (machine.addFrame inner).frames.size := by
        rw [machine.size_addFrame]
        exact Nat.lt_succ_self _
      rw [hisolated.frame_eq hexists, Machine.frame_addFrame]
    unfold Machine.lookup?
    rw [hstays]
    exact Signature.find?_eq_iff_resolves h hbound

/-- A function is made of the parameters that declare its signature, and of no others. -/
theorem Evaluation.makeFunction_eq_ok_iff {context : Context} {form name : String}
    {parameters : Form} {body : List Node} {frame : FrameId} {location : Option Location}
    {machine machine' : Machine} {value : Value} :
    makeFunction context form name parameters.toNode body frame location machine =
        .ok value machine' ↔
      ∃ names signature, parameters.items.map Node.identifier? = names.map some ∧
        Signature.Declares names signature ∧
        value = .function machine.nextRef { name, signature, body, frame, context, location } ∧
        machine' = { machine with nextRef := machine.nextRef + 1 } := by
  have hmake : makeFunction context form name parameters.toNode body frame location =
      Eval.ofExcept (Signature.ofForm form location parameters) >>= fun signature =>
        Eval.freshRef >>= fun ref =>
          pure (.function ref { name, signature, body, frame, context, location }) := rfl
  constructor
  · intro h
    rw [hmake] at h
    obtain ⟨signature, between, hsignature, hrest⟩ := Eval.of_bind_ok h
    obtain ⟨hform, rfl⟩ := Eval.of_ofExcept_ok hsignature
    obtain ⟨names, hnames, hdeclares⟩ := Signature.ofForm_eq_ok_iff.mp hform
    cases hrest
    exact ⟨names, signature, hnames, hdeclares, rfl, rfl⟩
  · rintro ⟨names, signature, hnames, hdeclares, rfl, rfl⟩
    have hform : Signature.ofForm form location parameters = .ok signature :=
      Signature.ofForm_eq_ok_iff.mpr ⟨names, hnames, hdeclares⟩
    rw [hmake, hform]
    rfl

/-- **Parameters are bound exactly.**  A list of parameters makes a function if and only if its
names declare a signature, and an inline form always makes one.  Whatever has been defined since, a
call of a function is refused before anything is evaluated if the number of arguments does not fit
its signature.  Or else its body is evaluated in a frame of its own, in which all names stand for
what they are to stand for. -/
theorem parameters_bind_exactly (config : Config) :
    (∀ (context : Context) (form name : String) (parameters : Form) (body : List Node)
      (frame : FrameId) (location : Option Location) (machine machine' : Machine) (value : Value),
      Evaluation.makeFunction context form name parameters.toNode body frame location machine =
          .ok value machine' ↔
        ∃ names signature, parameters.items.map Node.identifier? = names.map some ∧
          Signature.Declares names signature ∧
          value = .function machine.nextRef { name, signature, body, frame, context, location } ∧
          machine' = { machine with nextRef := machine.nextRef + 1 }) ∧
    (∀ (context : Context) (form : Form) (frame : FrameId) (machine : Machine),
      ∃ closure : Closure, closure.signature = .inline ∧ closure.frame = frame ∧
        closure.context = context ∧
        Evaluation.inlineFunction context form frame machine =
          .ok (.function machine.nextRef closure)
            { machine with nextRef := machine.nextRef + 1 }) ∧
    ∀ (ref : Nat) (closure : Closure) (args : List Value) (kwargs : List (String × Value))
      (machine : Machine),
      closure.CallGoes config args kwargs machine
        ((Value.function ref closure).callWith config.hosts config.evaluators args kwargs
          machine) := by
  refine ⟨?_, ?_, ?_⟩
  · intro context form name parameters body frame location machine machine' value
    exact Evaluation.makeFunction_eq_ok_iff
  · intro context form frame machine
    exact ⟨_, rfl, rfl, rfl, rfl⟩
  · intro ref closure args kwargs machine
    exact closure.callGoes config ref args kwargs machine

/-- A name that comes twice stands for the last of its arguments, and what is captured is found as
it is when the function is called. -/
theorem parameters_bind_exactly_repeated :
    let word (text : String) : Node := .literal ⟨.identifier, text, default⟩ []
    let parameters : Form := { children := ["listy", "a", "b", "a", "&", "rest"].map word }
    let args : List Value := [.int 1, .int 2, .int 3, .int 4, .int 5]
    let config : Config := {}
    let machine : Machine := { frames := #[[("c", .int 6)]] }
    ∃ value machine',
      Evaluation.makeFunction config.toContext "fn" "f" parameters.toNode [word "c"] 0 none
          machine = .ok value machine' ∧
      let later := machine'.define 0 "c" (.int 7)
      ∃ inner : Frame,
        value.callWith config.hosts config.evaluators args [] later =
          Eval.body (config.evaluators config.toContext) later.frames.size .nil [word "c"]
            (later.addFrame inner) ∧
        ["a", "b", "rest", "c", "d"].map (inner.find? ·) =
          [some (.int 3), some (.int 2), some (.list [.int 4, .int 5]), some (.int 7), none] := by
  intro word parameters args config machine
  obtain ⟨hmakes, -, hcalls⟩ := parameters_bind_exactly config
  have hnames : parameters.items.map Node.identifier? =
      ["a", "b", "a", "&", "rest"].map some := by decide +kernel
  have hdeclares : Signature.Declares ["a", "b", "a", "&", "rest"]
      (.named ["a", "b", "a"] (some "rest")) :=
    .collecting (show Signature.collector ∉ ["a", "b", "a"] by decide)
      (show "rest" ≠ Signature.collector by decide)
  have hmade := (hmakes config.toContext "fn" "f" parameters [word "c"] 0 none machine _ _).mpr
    ⟨_, _, hnames, hdeclares, rfl, rfl⟩
  refine ⟨_, _, hmade, ?_⟩
  intro later
  have hgoes := hcalls machine.nextRef
    { name := "f", signature := .named ["a", "b", "a"] (some "rest"), body := [word "c"],
      frame := 0, context := config.toContext, location := none } args [] later
  have htakes : (Signature.named ["a", "b", "a"] (some "rest")).Takes args.length :=
    show 3 ≤ 5 by decide
  obtain ⟨inner, hbody, hbound⟩ := hgoes.entered htakes
  refine ⟨inner, hbody, ?_⟩
  have hfind (name : String) (value : Option Value)
      (h : Signature.Resolves args [] (later.frame 0) (.named ["a", "b", "a"] (some "rest")) name
        value) : inner.find? name = value := by
    have hlookup :=
      (hbound [] [word "c"] .nil (later.addFrame inner) rfl (.inl rfl) rfl name value).mpr h
    unfold Machine.lookup? at hlookup
    rwa [Machine.frame_addFrame] at hlookup
  have ha := hfind "a" (some (.int 3)) <|
    .positional (show "a" ≠ Signature.keywordArguments by decide) (by decide)
      (show "a" ∉ [] by decide) (show args[["a", "b"].length]? = some (.int 3) from rfl)
  have hb := hfind "b" (some (.int 2)) <|
    .positional (show "b" ≠ Signature.keywordArguments by decide) (by decide)
      (show "b" ∉ ["a"] by decide) (show args[["a"].length]? = some (.int 2) from rfl)
  have hrest := hfind "rest" (some (.list [.int 4, .int 5])) (.collected (by decide))
  have hc := hfind "c" (some (.int 7)) (.captured (by decide) (by decide) (by decide))
  have hd := hfind "d" none (.captured (by decide) (by decide) (by decide))
  simp only [List.map_cons, List.map_nil, ha, hb, hrest, hc, hd]

end FrameLisp
