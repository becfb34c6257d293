import FrameLisp.Proofs.Bindings
import FrameLisp.Proofs.RoundTrip
import FrameLisp.Value.Equality
import FrameLisp.Value.Text

/-!
# Data that is shown and read again

Data is what can be written down in a program: nil, truth values, numbers, texts and keywords, and
lists and dicts of these.

A value is shown as it would be written in a program, so its text can be read: a bracket stands for
the call that makes a list or a dict, and the comma between two entries is passed over.
`Value.written` is the tree that is read (`Value.Data.parse_shown`), and `Value.reread` the value
that this tree stands for.  The texts in it may differ from those that were shown (`Text.reread`);
if two keys of a dict become the same on the way, the later value counts.  So a value comes back if
and only if all texts in it do (`Value.Data.reread_eq_iff`).
-/

namespace FrameLisp

/-! ### Data -/

/-- A key that can be written down: no quoted name, and no keyword but one that is a word. -/
inductive Key.IsData : Key → Prop
  /-- The value of nothing. -/
  | nil : IsData .nil
  /-- A truth value. -/
  | bool (b : Bool) : IsData (.bool b)
  /-- A whole number. -/
  | int (n : Int64) : IsData (.int n)
  /-- A text. -/
  | str (text : String) : IsData (.str text)
  /-- A keyword whose name consists of characters of names. -/
  | keyword {name : String} (h : ∀ c ∈ name.toList, Lexeme.inName c = true) :
    IsData (.keyword name)

namespace Value

/-- A value that can be written down, with lists and dicts in each other at most as deep as
given. -/
inductive Data : Nat → Value → Prop
  /-- What can be a key. -/
  | atom {n : Nat} {key : Key} (h : key.IsData) : Data n key.toValue
  /-- A list. -/
  | list {n : Nat} {items : List Value} (h : ∀ item ∈ items, Data n item) :
    Data (n + 1) (.list items)
  /-- A dict, in which no key comes twice. -/
  | dict {n : Nat} {entries : List (Key × Value)} (hkeys : ∀ entry ∈ entries, entry.1.IsData)
    (hnodup : (Bindings.keys entries).Nodup) (h : ∀ entry ∈ entries, Data n entry.2) :
    Data (n + 1) (.dict entries)

end Value

/-- The texts in a key. -/
def Key.texts : Key → List String
  | str text => [text]
  | _ => []

/-- A key as it is when its text is read. -/
def Key.reread : Key → Key
  | str text => str (Text.reread text)
  | key => key

/-- What is read of the text of a key. -/
def Key.mark : Key → Mark
  | nil => (.nil, "nil")
  | bool b => (.boolean, boolText b)
  | int n => (.number, Decimal.ofInt n.toInt)
  | str text => (.string, Text.reread text)
  | keyword name => (.keyword, ":" ++ name)
  | symbol name => (.identifier, name)

/-- The literal with a mark. -/
def Mark.toNode (mark : Mark) : Node := .literal ⟨mark.1, mark.2, default⟩ []

/-- The form with a name as its head. -/
def Node.headed (name : String) (nodes : List Node) : Node :=
  .form (Mark.toNode (.identifier, name) :: nodes) [] false none

namespace Value

theorem sizeOf_item_lt {items : List Value} {item : Value} (h : item ∈ items) :
    sizeOf item < sizeOf (list items) := by
  have hitem := List.sizeOf_lt_of_mem h
  rw [list.sizeOf_spec]
  omega

theorem sizeOf_entry_lt {entries : List (Key × Value)} {entry : Key × Value}
    (h : entry ∈ entries) : sizeOf entry.2 < sizeOf (dict entries) := by
  obtain ⟨key, value⟩ := entry
  have hentry := List.sizeOf_lt_of_mem h
  rw [Prod.mk.sizeOf_spec] at hentry
  rw [dict.sizeOf_spec]
  show sizeOf value < _
  omega

/-- The texts in a value, those in keys included. -/
def texts : Value → List String
  | str text => [text]
  | list items => items.flatMap texts
  | dict entries => entries.flatMap fun entry => entry.1.texts ++ entry.2.texts
  | _ => []
termination_by value => sizeOf value
decreasing_by
  · exact sizeOf_item_lt ‹_›
  · exact sizeOf_entry_lt ‹_›

/-- A value as it is when its text is read. -/
def reread : Value → Value
  | str text => str (Text.reread text)
  | list items => list (items.map reread)
  | dict entries =>
    dict (Bindings.insertAll [] (entries.map fun entry => (entry.1.reread, entry.2.reread)))
  | value => value
termination_by value => sizeOf value
decreasing_by
  · exact sizeOf_item_lt ‹_›
  · exact sizeOf_entry_lt ‹_›

/-- The tree that is read of the text of a value. -/
def written : Value → Node
  | list items => .headed listConstructor (items.map written)
  | dict entries =>
    .headed dictConstructor (entries.flatMap fun entry => [entry.1.mark.toNode, entry.2.written])
  | value => (value.key?.getD .nil).mark.toNode
termination_by value => sizeOf value
decreasing_by
  · exact sizeOf_item_lt ‹_›
  · exact sizeOf_entry_lt ‹_›

theorem texts_toValue (key : Key) : key.toValue.texts = key.texts := by
  cases key <;> simp only [Key.toValue, texts, Key.texts]

theorem reread_toValue (key : Key) : key.toValue.reread = key.reread.toValue := by
  cases key <;> simp only [Key.toValue, reread, Key.reread]

theorem written_toValue (key : Key) : key.toValue.written = key.mark.toNode := by
  cases key <;> simp only [Key.toValue, written, key?, Option.getD_some]

end Value

/-! ### Numbers -/

namespace Decimal

theorem toDigits_eq_cons (n : Nat) :
    ∃ d ds, Nat.toDigits 10 n = d :: ds ∧ ∀ c ∈ d :: ds, c.isDigit = true := by
  obtain ⟨d, ds, hdigits⟩ := List.exists_cons_of_ne_nil (@Nat.toDigits_ne_nil n 10)
  refine ⟨d, ds, hdigits, ?_⟩
  rw [← hdigits]
  exact fun c hc => Nat.isDigit_of_mem_toDigits (by decide) (by decide) hc

theorem toList_ofInt_ofNat (k : Nat) : (ofInt (.ofNat k)).toList = Nat.toDigits 10 k :=
  String.toList_ofList

theorem toList_ofInt_negSucc (k : Nat) :
    (ofInt (.negSucc k)).toList = '-' :: Nat.toDigits 10 (k + 1) := by
  rw [ofInt, String.toList_append, ofNat, @String.toList_ofList (Nat.toDigits 10 (k + 1))]
  rfl

/-- **A number is read as it was written.** -/
theorem read64?_ofInt (n : Int64) : read64? (ofInt n.toInt) = some n := by
  have hfit : fit64 n.toInt = some n := fit64_eq_some_iff.mpr rfl
  unfold read64?
  cases hn : n.toInt with
  | ofNat k =>
    obtain ⟨d, ds, hdigits, hall⟩ := toDigits_eq_cons k
    have hd := hall d List.mem_cons_self
    rw [toList_ofInt_ofNat]
    split
    · -- a sign is no digit
      rename_i htext
      cases htext.symm.trans hdigits
      cases hd
    · rename_i htext
      cases htext.symm.trans hdigits
      cases hd
    · rw [natOf?_toDigits, ← hfit, hn]
      rfl
  | negSucc k =>
    rw [toList_ofInt_negSucc]
    show (natOf? (Nat.toDigits 10 (k + 1))).bind (fun digits => fit64 (-digits)) = some n
    have hneg : -((k + 1 : Nat) : Int) = n.toInt := hn.symm
    rw [natOf?_toDigits, Option.bind_some, hneg, hfit]

theorem lexical_ofInt (n : Int) : Mark.Lexical (.number, ofInt n) := by
  rw [← @String.ofList_toList (ofInt n)]
  cases n with
  | ofNat k =>
    obtain ⟨d, ds, hdigits, hall⟩ := toDigits_eq_cons k
    obtain ⟨hd, hds⟩ := List.forall_mem_cons.mp hall
    rw [toList_ofInt_ofNat, hdigits]
    exact .number ⟨.inl hd, hds⟩
  | negSucc k =>
    obtain ⟨d, ds, hdigits, hall⟩ := toDigits_eq_cons (k + 1)
    rw [toList_ofInt_negSucc, hdigits]
    exact .number ⟨.inr ⟨.inr rfl, nofun⟩, hall⟩

end Decimal

/-! ### Reading what is shown -/

namespace Key

variable {key : Key}

theorem IsData.lexical (h : key.IsData) : key.mark.Lexical := by
  cases h with
  | nil =>
    have hname : Mark.IsName 'n' ['i', 'l'] :=
      ⟨by decide, List.all_eq_true.mp (by decide), by decide⟩
    exact .name hname
  | bool b =>
    have htrue : Mark.IsName 't' ['r', 'u', 'e'] :=
      ⟨by decide, List.all_eq_true.mp (by decide), by decide⟩
    have hfalse : Mark.IsName 'f' ['a', 'l', 's', 'e'] :=
      ⟨by decide, List.all_eq_true.mp (by decide), by decide⟩
    cases b with
    | true => exact .name htrue
    | false => exact .name hfalse
  | int n => exact Decimal.lexical_ofInt n.toInt
  | str text =>
    have hnone : '\\' ∉ (Text.reread text).toList :=
      fun hmem => (Text.readsBack_of_mem_reread text _ hmem).ne_backslash rfl
    have hlexical := Mark.Lexical.string hnone
    rw [String.ofList_toList] at hlexical
    exact hlexical
  | @keyword name h =>
    have hname : Mark.IsName ':' name.toList := ⟨by decide, h, by simp⟩
    have hword : String.ofList (':' :: name.toList) = ":" ++ name := by
      rw [← String.toList_inj, String.toList_ofList, String.toList_append]
      rfl
    have hkind : Lexeme.nameKind (':' :: name.toList) = .keyword := by
      unfold Lexeme.nameKind
      rw [if_neg (by simp), if_neg (by simp), List.head?_cons, if_pos rfl]
    have hlexical := Mark.Lexical.name hname
    rw [hword, hkind] at hlexical
    exact hlexical

theorem IsData.readsAs (h : key.IsData) : Mark.ReadsAs key.shown [key.mark] := by
  intro rest hrest
  have hword := h.lexical
  cases h with
  | str text => exact Mark.ofChars_quoted text rest
  | nil => exact hword.ofChars_append nofun hrest
  | bool b => exact hword.ofChars_append nofun hrest
  | int n => exact hword.ofChars_append nofun hrest
  | keyword h => exact hword.ofChars_append nofun hrest

end Key

namespace Mark

theorem separates_comma : Separates ", " := by
  refine fun rest => ⟨?_, ?_⟩
  · rintro c ⟨⟩
    rfl
  · -- the comma starts no token
    exact (ofChars_cons rfl).trans (ofChars_blank rest)

theorem ReadsAs.append_blank {a b : String} {marks marks' : List Mark} (ha : ReadsAs a marks)
    (hb : ReadsAs b marks') : ReadsAs (a ++ " " ++ b) (marks ++ marks') := by
  intro rest hrest
  rw [String.toList_append, String.toList_append, List.append_assoc, List.append_assoc,
    ha _ (delimits_blank _), ofChars_blank, hb rest hrest, List.append_assoc]

theorem marks_toNode (mark : Mark) : mark.toNode.marks = [mark] := by
  rw [toNode, Node.marks]
  rfl

theorem marks_headed (name : String) (nodes : List Node) :
    (Node.headed name nodes).marks =
      (.opening, "(") :: (.identifier, name) ::
        (nodes.flatMap Node.marks ++ [(.closing, ")")]) := by
  rw [Node.headed, Node.marks, List.flatMap_cons, marks_toNode]
  rfl

/-- Brackets that stand for a form with a name as its head. -/
theorem ReadsAs.headed {opening closing inside name : String} {nodes : List Node}
    (hopening : ∀ rest, ofChars (opening.toList ++ rest) =
      (.opening, "(") :: (.identifier, name) :: ofChars rest)
    (hdelimits : ∀ rest, Delimits (closing.toList ++ rest))
    (hclosing : ∀ rest, ofChars (closing.toList ++ rest) = (.closing, ")") :: ofChars rest)
    (hinside : ReadsAs inside (nodes.flatMap Node.marks)) :
    ReadsAs (opening ++ inside ++ closing) (Node.headed name nodes).marks := by
  intro rest _
  rw [String.toList_append, String.toList_append, List.append_assoc, List.append_assoc, hopening,
    hinside _ (hdelimits rest), hclosing, marks_headed]
  simp only [List.append_assoc, List.cons_append, List.nil_append]

end Mark

namespace Value

theorem shownItems_eq_map (items : List Value) : shownItems items = items.map shown := by
  induction items with
  | nil => rfl
  | cons item items ih => rw [shownItems, ih, List.map_cons]

theorem shownEntries_eq_map (entries : List (Key × Value)) :
    shownEntries entries = entries.map fun entry => entry.1.shown ++ " " ++ entry.2.shown := by
  induction entries with
  | nil => rfl
  | cons entry entries ih => rw [shownEntries, ih, List.map_cons]

/-- **The text of data is read as the tree that it is written as.** -/
theorem Data.readsAs {n : Nat} {value : Value} (h : value.Data n) :
    Mark.ReadsAs value.shown value.written.marks := by
  induction h with
  | @atom n key h =>
    rw [shown_toValue, written_toValue, Mark.marks_toNode]
    exact h.readsAs
  | @list n items h ih =>
    -- an item is followed by a blank or by the closing bracket
    have hinside := Mark.readsAs_intercalate Mark.separates_blank ih
    rw [shown, shownItems_eq_map, written]
    rw [← List.flatMap_map] at hinside
    exact .headed (fun rest => Mark.ofChars_cons rfl) (fun rest c hc => by cases hc; rfl)
      (fun rest => Mark.ofChars_cons rfl) hinside
  | @dict n entries hkeys hnodup h ih =>
    have hentries : ∀ entry ∈ entries, Mark.ReadsAs (entry.1.shown ++ " " ++ entry.2.shown)
        ([entry.1.mark] ++ entry.2.written.marks) :=
      fun entry hentry => (hkeys entry hentry).readsAs.append_blank (ih entry hentry)
    have hinside := Mark.readsAs_intercalate Mark.separates_comma hentries
    rw [shown, shownEntries_eq_map, written]
    refine .headed (fun rest => Mark.ofChars_cons rfl) (fun rest c hc => by cases hc; rfl)
      (fun rest => Mark.ofChars_cons rfl) ?_
    rw [List.flatMap_assoc]
    simpa only [List.flatMap_cons, List.flatMap_nil, List.append_nil, Mark.marks_toNode]
      using hinside

end Value

theorem Mark.readable_toNode {mark : Mark} (h : mark.Lexical) (hkind : mark.1 ≠ .identifier)
    {limit height : Nat} : Node.Readable limit height mark.toNode := by
  refine .literal h ?_ nofun
  unfold Token.property?
  split
  · contradiction
  · rfl

theorem Node.readable_headed {name : String} (hname : Mark.Lexical (.identifier, name))
    (hproperty : name.toList.head? ≠ some '^') {limit height : Nat} {nodes : List Node}
    (hroom : height < limit) (h : ∀ node ∈ nodes, Readable limit (height + 1) node) :
    Readable limit height (headed name nodes) := by
  refine .form hroom (List.forall_mem_cons.mpr ⟨.literal hname ?_ nofun, h⟩) nofun
  unfold Token.property?
  split
  · rename_i htext
    have hhead : name.toList = '^' :: _ := htext
    rw [hhead] at hproperty
    exact absurd rfl hproperty
  · rfl

theorem Key.IsData.readable {key : Key} (h : key.IsData) {limit height : Nat} :
    Node.Readable limit height key.mark.toNode := by
  refine Mark.readable_toNode h.lexical ?_
  cases h <;> exact nofun

namespace Value

/-- The tree of data can be read if there is room for its brackets. -/
theorem Data.readable {n : Nat} {value : Value} (h : value.Data n) {limit height : Nat}
    (hroom : height + n ≤ limit) : Node.Readable limit height value.written := by
  induction h generalizing height with
  | @atom n key h =>
    rw [written_toValue]
    exact h.readable
  | @list n items h ih =>
    rw [written]
    refine Node.readable_headed Lexeme.lexical_constructors.2 (by decide) (by omega) ?_
    rw [List.forall_mem_map]
    exact fun item hitem => ih item hitem (by omega)
  | @dict n entries hkeys hnodup h ih =>
    rw [written]
    refine Node.readable_headed Lexeme.lexical_constructors.1 (by decide) (by omega) ?_
    rw [List.forall_mem_flatMap]
    intro entry hentry
    rw [List.forall_mem_cons, List.forall_mem_singleton]
    exact ⟨(hkeys entry hentry).readable, ih entry hentry (by omega)⟩

/-- **The text of data can be read**, and is one tree. -/
theorem Data.parse_shown {n : Nat} {value : Value} (h : value.Data n)
    (hroom : n ≤ Node.defaultNesting) (file : String) :
    ∃ tree : Node, Node.parse value.shown file = .ok [tree] ∧
      tree.unplaced = value.written.unplaced := by
  have hmarks : (Token.lex value.shown file).map Token.mark =
      [value.written].flatMap Node.marks := by
    have hall := h.readsAs [] nofun
    rw [Token.map_mark_lex, List.flatMap_singleton, ← List.append_nil value.shown.toList, hall,
      Mark.ofChars, List.append_nil]
  have hreadable : Node.Readable Node.defaultNesting 0 value.written := h.readable (by omega)
  obtain ⟨built, hbuilt, hbuild⟩ :=
    Node.build_of_marks (List.forall_mem_singleton.mpr hreadable) hmarks
  obtain ⟨tree, rfl, htree⟩ := List.map_eq_singleton_iff.mp hbuilt
  exact ⟨tree, hbuild, htree⟩

end Value

/-! ### What comes back -/

namespace Key

variable {key : Key}

theorem IsData.reread (h : key.IsData) : key.reread.IsData := by
  cases h with
  | str text => exact .str _
  | nil => exact .nil
  | bool b => exact .bool b
  | int n => exact .int n
  | keyword h => exact .keyword h

theorem readsBack_of_mem_texts_reread (key : Key) :
    ∀ text ∈ key.reread.texts, ∀ c ∈ text.toList, Text.ReadsBack c := by
  cases key with
  | str text =>
    show ∀ other ∈ [Text.reread text], _
    rw [List.forall_mem_singleton]
    exact Text.readsBack_of_mem_reread text
  | _ => exact nofun

theorem reread_eq (h : ∀ text ∈ key.texts, ∀ c ∈ text.toList, Text.ReadsBack c) :
    key.reread = key := by
  cases key with
  | str text =>
    have htext := h text (List.mem_singleton.mpr rfl)
    rw [reread, (Text.reread_eq_iff text).mpr htext]
  | _ => rfl

end Key

namespace Value

variable {n : Nat} {value : Value}

/-- An entry of a dict that was read was an entry before. -/
theorem exists_of_mem_reread {entries : List (Key × Value)} {entry : Key × Value}
    (h : entry ∈ Bindings.insertAll []
      (entries.map fun entry => (entry.1.reread, entry.2.reread))) :
    ∃ source ∈ entries, (source.1.reread, source.2.reread) = entry := by
  rcases Bindings.mem_insertAll h with hnil | hmem
  · cases hnil
  · exact List.mem_map.mp hmem

theorem Data.reread (h : value.Data n) : value.reread.Data n := by
  induction h with
  | @atom n key h =>
    rw [reread_toValue]
    exact .atom h.reread
  | @list n items h ih =>
    rw [Value.reread]
    refine .list ?_
    rw [List.forall_mem_map]
    exact ih
  | @dict n entries hkeys hnodup h ih =>
    rw [Value.reread]
    have hempty : (Bindings.keys ([] : List (Key × Value))).Nodup := List.nodup_nil
    refine .dict (fun entry hentry => ?_) (Bindings.nodup_keys_insertAll hempty _)
      fun entry hentry => ?_
    · obtain ⟨source, hsource, rfl⟩ := exists_of_mem_reread hentry
      exact (hkeys source hsource).reread
    · obtain ⟨source, hsource, rfl⟩ := exists_of_mem_reread hentry
      exact ih source hsource

/-- A text of a value that was read has nothing in it that would not come back. -/
theorem Data.readsBack_of_mem_texts_reread (h : value.Data n) :
    ∀ text ∈ value.reread.texts, ∀ c ∈ text.toList, Text.ReadsBack c := by
  induction h with
  | @atom n key h =>
    rw [reread_toValue, texts_toValue]
    exact key.readsBack_of_mem_texts_reread
  | @list n items h ih =>
    rw [Value.reread, texts, List.flatMap_map, List.forall_mem_flatMap]
    exact ih
  | @dict n entries hkeys hnodup h ih =>
    rw [Value.reread, texts, List.forall_mem_flatMap]
    intro entry hentry
    obtain ⟨source, hsource, rfl⟩ := exists_of_mem_reread hentry
    rw [List.forall_mem_append]
    exact ⟨source.1.readsBack_of_mem_texts_reread, ih source hsource⟩

theorem Data.reread_eq (h : value.Data n)
    (hback : ∀ text ∈ value.texts, ∀ c ∈ text.toList, Text.ReadsBack c) :
    value.reread = value := by
  induction h with
  | @atom n key h =>
    rw [texts_toValue] at hback
    rw [reread_toValue, Key.reread_eq hback]
  | @list n items h ih =>
    rw [texts, List.forall_mem_flatMap] at hback
    have hitems : items.map Value.reread = items.map id :=
      List.map_congr_left fun item hitem => ih item hitem (hback item hitem)
    rw [Value.reread, hitems, List.map_id]
  | @dict n entries hkeys hnodup h ih =>
    rw [texts, List.forall_mem_flatMap] at hback
    -- the keys stay as they are, so none comes twice and each keeps its place
    have hentries : entries.map (fun entry => (entry.1.reread, entry.2.reread)) =
        entries.map id := by
      refine List.map_congr_left fun entry hentry => ?_
      obtain ⟨hkey, hvalue⟩ := List.forall_mem_append.mp (hback entry hentry)
      exact Prod.ext (Key.reread_eq hkey) (ih entry hentry hvalue)
    have hall : Bindings.insertAll [] entries = [] ++ entries := Bindings.insertAll_of_nodup hnodup
    rw [Value.reread, hentries, List.map_id, hall, List.nil_append]

/-- **Data comes back if and only if its texts do.** -/
theorem Data.reread_eq_iff (h : value.Data n) :
    value.reread = value ↔ ∀ text ∈ value.texts, ∀ c ∈ text.toList, Text.ReadsBack c := by
  refine ⟨fun heq => ?_, h.reread_eq⟩
  rw [← heq]
  exact h.readsBack_of_mem_texts_reread

end Value

end FrameLisp
