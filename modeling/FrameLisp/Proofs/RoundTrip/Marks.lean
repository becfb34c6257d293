import FrameLisp.Node
import FrameLisp.Proofs.RoundTrip.Strings
import FrameLisp.Token.Lexer

/-!
# Tokens without their places

The kind and the text of a token are its `Mark`.  Which marks a text has does not depend on where it
starts, so they can be read off piece by piece: a word is followed by what follows it, as long as
that does not go on with the word.  In this way `Token.ofChars_renderToken` reads a token off its
written form and `Mark.ofChars_renderProperties` the properties of a node.

The words that a source has are not just any texts of their kinds.  `Mark.Lexical` says which texts
they are; these are the words that are read as one token when they are written out again.
-/

namespace FrameLisp

/-! ### Marks -/

/-- The kind and the text of a token. -/
abbrev Mark := Token.Kind × String

/-- The mark of a token. -/
def Token.mark (token : Token) : Mark := (token.kind, token.text)

theorem Token.mark_eq_iff {token : Token} {kind : Token.Kind} {text : String} :
    token.mark = (kind, text) ↔ token.kind = kind ∧ token.text = text := by
  unfold mark
  rw [Prod.mk.injEq]

/-- The marks of a lexeme. -/
def Lexeme.marks : Lexeme → List Mark
  | .token kind text => [(kind, text)]
  | .sugar constructor => [(.opening, "("), (.identifier, constructor)]
  | _ => []

/-- The marks of a text. -/
def Mark.ofChars : List Char → List Mark
  | [] => []
  | c :: rest =>
    (Lexeme.first c rest).1.marks ++ ofChars (rest.drop (Lexeme.first c rest).2)
termination_by text => text.length
decreasing_by
  rw [List.length_drop, List.length_cons]
  omega

theorem Lexeme.map_mark_findings (location : Location) (lexeme : Lexeme) :
    ((lexeme.findings location).filterMap Finding.token?).map Token.mark = lexeme.marks := by
  cases lexeme <;> rfl

/-- The marks of a source do not depend on places. -/
theorem Token.map_mark_scan (file : String) (place : Place) (cs : List Char) :
    ((scan file place cs).filterMap Finding.token?).map mark = Mark.ofChars cs := by
  match cs with
  | [] => rw [scan, Mark.ofChars]; rfl
  | c :: rest =>
    rw [scan, Mark.ofChars, List.filterMap_append, List.map_append, Lexeme.map_mark_findings,
      map_mark_scan file _ (rest.drop (Lexeme.first c rest).2)]
termination_by cs.length
decreasing_by
  rw [List.length_drop, List.length_cons]
  omega

theorem Token.map_mark_lex (source file : String) :
    (lex source file).map mark = Mark.ofChars source.toList :=
  map_mark_scan file .start source.toList

/-! ### Words -/

/-- The text does not go on with a word that ends before it. -/
def Delimits (rest : List Char) : Prop :=
  ∀ c ∈ rest.head?, Lexeme.inName c = false

theorem delimits_blank (rest : List Char) : Delimits (" ".toList ++ rest) := by
  rintro c ⟨⟩
  rfl

theorem delimits_closing (rest : List Char) : Delimits (")".toList ++ rest) := by
  rintro c ⟨⟩
  rfl

/-- A number: digits, with an optional sign. -/
structure Mark.IsNumber (c : Char) (digits : List Char) : Prop where
  /-- It starts with a digit, or with a sign and a digit. -/
  start : c.isDigit = true ∨ (c = '+' ∨ c = '-') ∧ digits ≠ []
  /-- It goes on with digits. -/
  digits : ∀ d ∈ digits, d.isDigit = true

/-- A name. -/
structure Mark.IsName (c : Char) (cs : List Char) : Prop where
  /-- It starts like one. -/
  start : Lexeme.startsName c = true
  /-- It goes on like one. -/
  chars : ∀ d ∈ cs, Lexeme.inName d = true
  /-- It does not start like a number. -/
  notNumber : ¬ ((c = '+' ∨ c = '-') ∧ cs.head?.any Char.isDigit = true)

/-- The marks that literals have. -/
inductive Mark.Lexical : Mark → Prop
  /-- A number. -/
  | number {c : Char} {digits : List Char} (h : IsNumber c digits) :
    Lexical (.number, String.ofList (c :: digits))
  /-- A name, of whichever kind. -/
  | name {c : Char} {cs : List Char} (h : IsName c cs) :
    Lexical (Lexeme.nameKind (c :: cs), String.ofList (c :: cs))
  /-- A string, in which there is no backslash. -/
  | string {cs : List Char} (h : '\\' ∉ cs) : Lexical (.string, String.ofList cs)

namespace Lexeme

variable {c : Char} {cs rest : List Char}

theorem inName_of_isDigit (h : c.isDigit = true) : inName c = true := by
  unfold inName
  rw [h, Bool.or_true]

theorem inName_of_startsName (h : startsName c = true) : inName c = true := by
  unfold inName
  rw [h, Bool.true_or]

theorem inName_of_isNumber (h : Mark.IsNumber c cs) : inName c = true := by
  rcases h.start with hdigit | ⟨rfl | rfl, -⟩
  · exact inName_of_isDigit hdigit
  · decide
  · decide

/-- A word is read as far as it goes. -/
theorem takeWhile_append_of_delimits {part : Char → Bool}
    (hpart : ∀ c, part c = true → inName c = true) (hcs : ∀ c ∈ cs, part c = true)
    (hrest : Delimits rest) :
    (cs ++ rest).takeWhile part = cs := by
  have hnone : rest.takeWhile part = [] := by
    cases rest with
    | nil => rfl
    | cons d rest =>
      have hd : ¬ part d = true := by
        intro hd
        have hname := hrest d (by simp)
        rw [hpart d hd] at hname
        cases hname
      rw [List.takeWhile_cons_of_neg hd]
  rw [List.takeWhile_append_of_pos hcs, hnone, List.append_nil]

theorem run_append {kind : List Char → Token.Kind} {part : Char → Bool}
    (hpart : ∀ c, part c = true → inName c = true) (hcs : ∀ c ∈ cs, part c = true)
    (hrest : Delimits rest) (c : Char) :
    run kind part c (cs ++ rest) =
      (.token (kind (c :: cs)) (String.ofList (c :: cs)), cs.length) := by
  unfold run
  rw [takeWhile_append_of_delimits hpart hcs hrest]

/-- A name, a number and a sign do not start like a comment or an inline function. -/
theorem ne_of_inName (h : inName c = true) : c ≠ '#' ∧ c ≠ ';' := by
  constructor
  · rintro rfl
    exact absurd h (by decide)
  · rintro rfl
    exact absurd h (by decide)

theorem first_number (h : Mark.IsNumber c cs) (hrest : Delimits rest) :
    first c (cs ++ rest) = (.token .number (String.ofList (c :: cs)), cs.length) := by
  have hrun : run (fun _ => .number) Char.isDigit c (cs ++ rest) =
      (.token .number (String.ofList (c :: cs)), cs.length) :=
    run_append (fun _ => inName_of_isDigit) h.digits hrest c
  obtain ⟨hhash, hsemicolon⟩ := ne_of_inName (inName_of_isNumber h)
  unfold first
  rw [if_neg (fun h => hhash h.1), if_neg (fun h => h.elim hsemicolon hhash), hrun]
  by_cases hdigit : c.isDigit = true
  · rw [if_pos hdigit]
  · obtain ⟨hsign, hne⟩ := h.start.resolve_left hdigit
    have hnext : (cs ++ rest).head?.any Char.isDigit = true := by
      cases cs with
      | nil => exact absurd rfl hne
      | cons d ds => exact h.digits d List.mem_cons_self
    rw [if_neg hdigit, if_pos ⟨hsign, hnext⟩]

/-- A name does not start with a digit. -/
theorem not_isDigit_of_startsName (h : startsName c = true) : ¬ c.isDigit = true := by
  intro hdigit
  unfold startsName at h
  rw [Bool.or_eq_true] at h
  rcases h with halpha | hsymbol
  · have hletter : (decide (c.val ≥ 'A'.val ∧ c.val ≤ 'Z'.val) ||
        decide (c.val ≥ 'a'.val) && decide (c.val ≤ 'z'.val)) = true := halpha
    simp only [Char.isDigit, Bool.or_eq_true, Bool.and_eq_true, decide_eq_true_eq,
      UInt32.le_iff_toNat_le, ge_iff_le] at hletter hdigit
    have hA : 'A'.val.toNat = 65 := rfl
    have ha : 'a'.val.toNat = 97 := rfl
    have h9 : '9'.val.toNat = 57 := rfl
    omega
  · have hnone : symbols.all (fun d => !d.isDigit) = true := by decide
    have hc := List.all_eq_true.mp hnone c (List.contains_iff_mem.mp hsymbol)
    rw [hdigit] at hc
    cases hc

theorem first_name (h : Mark.IsName c cs) (hrest : Delimits rest) :
    first c (cs ++ rest) =
      (.token (nameKind (c :: cs)) (String.ofList (c :: cs)), cs.length) := by
  have hrun : run nameKind inName c (cs ++ rest) =
      (.token (nameKind (c :: cs)) (String.ofList (c :: cs)), cs.length) :=
    run_append (fun _ h => h) h.chars hrest c
  obtain ⟨hhash, hsemicolon⟩ := ne_of_inName (inName_of_startsName h.start)
  have hnumber : ¬ ((c = '+' ∨ c = '-') ∧ (cs ++ rest).head?.any Char.isDigit = true) := by
    rintro ⟨hsign, hnext⟩
    refine h.notNumber ⟨hsign, ?_⟩
    cases cs with
    | cons d ds => exact hnext
    | nil =>
      -- what follows the name is no part of one, so it is no digit
      cases rest with
      | nil => exact hnext
      | cons d rest =>
        have hname := hrest d (by simp)
        rw [inName_of_isDigit (by simpa using hnext)] at hname
        cases hname
  unfold first
  rw [if_neg (fun h => hhash h.1), if_neg (fun h => h.elim hsemicolon hhash),
    if_neg (not_isDigit_of_startsName h.start), if_neg hnumber, if_pos h.start, hrun]

/-- Names have kinds of their own. -/
theorem nameKind_ne (name : List Char) :
    nameKind name ≠ .string ∧ nameKind name ≠ .opening ∧ nameKind name ≠ .closing ∧
      nameKind name ≠ .quote := by
  unfold nameKind
  split
  · decide
  · split
    · decide
    · split
      · decide
      · decide

theorem first_quote (rest : List Char) :
    first '"' rest =
      match stringBody rest with
      | some (text, taken) => (.token .string (String.ofList text), taken)
      | none => (.unterminated, rest.length) :=
  rfl

theorem first_string {body : List Char} {taken : Nat} (h : stringBody rest = some (body, taken)) :
    first '"' rest = (.token .string (String.ofList body), taken) := by
  rw [first_quote, h]

theorem first_unterminated (h : stringBody rest = none) :
    first '"' rest = (.unterminated, rest.length) := by
  rw [first_quote, h]

end Lexeme

/-! ### Written forms -/

/-- A token as it is when its written form is read. -/
def Token.reread (token : Token) : Token :=
  if token.kind = .string then { token with text := Text.reread token.text } else token

/-- The mark of a property before a node. -/
def Mark.ofProperty (name : String) : Mark :=
  if name = quotedProperty then (.quote, "'") else (.identifier, "^" ++ name)

/-- A name that may stand after `^`. -/
structure IsProperty (name : String) : Prop where
  /-- There is a name. -/
  nonempty : name ≠ ""
  /-- It consists of characters of names. -/
  chars : ∀ c ∈ name.toList, Lexeme.inName c = true

theorem isProperty_quotedProperty : IsProperty quotedProperty :=
  ⟨by decide, List.all_eq_true.mp (by decide)⟩

namespace Mark

variable {rest : List Char}

theorem ofChars_cons {c : Char} {lexeme : Lexeme} {taken : Nat}
    (h : Lexeme.first c rest = (lexeme, taken)) :
    ofChars (c :: rest) = lexeme.marks ++ ofChars (rest.drop taken) := by
  rw [ofChars, h]

theorem ofChars_blank (rest : List Char) : ofChars (" ".toList ++ rest) = ofChars rest :=
  ofChars_cons rfl

theorem ofChars_quote (rest : List Char) :
    ofChars ("'".toList ++ rest) = (.quote, "'") :: ofChars rest :=
  ofChars_cons rfl

theorem ofChars_closing (rest : List Char) :
    ofChars (")".toList ++ rest) = (.closing, ")") :: ofChars rest :=
  ofChars_cons rfl

theorem ofChars_opening (inline : Bool) (rest : List Char) :
    ofChars ((if inline then "#(" else "(").toList ++ rest) =
      (.opening, if inline then "#(" else "(") :: ofChars rest := by
  cases inline with
  | false => exact ofChars_cons rfl
  | true => exact ofChars_cons rfl

/-- The text is read as the marks, if what follows does not go on with its last word. -/
def ReadsAs (text : String) (marks : List Mark) : Prop :=
  ∀ rest : List Char, Delimits rest → ofChars (text.toList ++ rest) = marks ++ ofChars rest

/-- The text may stand between words and is passed over. -/
def Separates (between : String) : Prop :=
  ∀ rest : List Char,
    Delimits (between.toList ++ rest) ∧ ofChars (between.toList ++ rest) = ofChars rest

theorem separates_blank : Separates " " :=
  fun rest => ⟨delimits_blank rest, ofChars_blank rest⟩

/-- Texts with a separator between them are read one after the other. -/
theorem readsAs_intercalate {α : Type} {between : String} (hbetween : Separates between)
    {text : α → String} {marks : α → List Mark} {items : List α}
    (h : ∀ item ∈ items, ReadsAs (text item) (marks item)) :
    ReadsAs (between.intercalate (items.map text)) (items.flatMap marks) := by
  intro rest hrest
  rw [String.toList_intercalate, List.map_map]
  induction items with
  | nil => rfl
  | cons item items ih =>
    obtain ⟨hitem, hitems⟩ := List.forall_mem_cons.mp h
    rw [List.flatMap_cons, List.append_assoc, ← ih hitems]
    cases items with
    | nil =>
      show ofChars ((text item).toList ++ [] ++ rest) = _
      rw [List.append_nil]
      exact hitem rest hrest
    | cons next items =>
      rw [List.map_cons, List.map_cons, List.intercalate_cons_cons, List.append_assoc,
        List.append_assoc, Function.comp_apply]
      obtain ⟨hdelimits, hskip⟩ := hbetween
        (between.toList.intercalate ((next :: items).map (String.toList ∘ text)) ++ rest)
      exact (hitem _ hdelimits).trans (congrArg _ hskip)

/-- A lexeme that is written as it is read takes what is written of it. -/
theorem ofChars_word {c : Char} {cs : List Char} {kind : Token.Kind}
    (h : Lexeme.first c (cs ++ rest) = (.token kind (String.ofList (c :: cs)), cs.length)) :
    ofChars ((String.ofList (c :: cs)).toList ++ rest) =
      (kind, String.ofList (c :: cs)) :: ofChars rest := by
  rw [String.toList_ofList, List.cons_append, ofChars_cons h, List.drop_left]
  rfl

theorem ofChars_quoted (text : String) (rest : List Char) :
    ofChars ((Text.quoted text).toList ++ rest) = (.string, Text.reread text) :: ofChars rest := by
  have hchars : (Text.quoted text).toList ++ rest =
      '"' :: (text.toList.flatMap (Text.escape '"') ++ '"' :: rest) := by
    unfold Text.quoted
    rw [String.toList_ofList, List.append_assoc]
    rfl
  rw [hchars, ofChars_cons (Lexeme.first_string (Lexeme.stringBody_quoted text.toList rest)),
    List.drop_length_add_append]
  rfl

theorem ofChars_property {name : String} (h : IsProperty name) (rest : List Char) :
    ofChars (("^" ++ name ++ " ").toList ++ rest) = (.identifier, "^" ++ name) :: ofChars rest := by
  have hname : IsName '^' name.toList := ⟨by decide, h.chars, by simp⟩
  have hword : String.ofList ('^' :: name.toList) = "^" ++ name := by
    rw [← String.toList_inj, String.toList_ofList, String.toList_append]
    rfl
  have hmarks := ofChars_word (Lexeme.first_name hname (delimits_blank rest))
  rw [hword, ofChars_blank] at hmarks
  rw [String.toList_append, List.append_assoc]
  exact hmarks

theorem ofChars_ofProperty {name : String} (h : IsProperty name) (rest : List Char) :
    ofChars ((if name = quotedProperty then "'" else "^" ++ name ++ " ").toList ++ rest) =
      ofProperty name :: ofChars rest := by
  unfold ofProperty
  by_cases hquoted : name = quotedProperty
  · rw [if_pos hquoted, if_pos hquoted]
    exact ofChars_quote rest
  · rw [if_neg hquoted, if_neg hquoted]
    exact ofChars_property h rest

/-- The properties of a node are read off its written form. -/
theorem ofChars_renderProperties {properties : List String}
    (h : ∀ name ∈ properties, IsProperty name) (rest : List Char) :
    ofChars ((Node.renderProperties properties).toList ++ rest) =
      properties.map ofProperty ++ ofChars rest := by
  unfold Node.renderProperties
  rw [String.toList_join]
  induction properties with
  | nil => rfl
  | cons name properties ih =>
    obtain ⟨hname, hrest⟩ := List.forall_mem_cons.mp h
    rw [List.map_cons, List.flatMap_cons, List.append_assoc, ofChars_ofProperty hname, ih hrest]
    rfl

/-- A word is neither a bracket nor a quote mark. -/
theorem Lexical.kind_ne {mark : Mark} (h : mark.Lexical) :
    mark.1 ≠ .opening ∧ mark.1 ≠ .closing ∧ mark.1 ≠ .quote := by
  cases h with
  | number => exact ⟨nofun, nofun, nofun⟩
  | name => exact (Lexeme.nameKind_ne _).2
  | string => exact ⟨nofun, nofun, nofun⟩

/-- A number and a name consist of characters of names. -/
theorem Lexical.chars {mark : Mark} (h : mark.Lexical) (hkind : mark.1 ≠ .string) :
    ∀ c ∈ mark.2.toList, Lexeme.inName c = true := by
  cases h with
  | number h =>
    rw [String.toList_ofList, List.forall_mem_cons]
    exact ⟨Lexeme.inName_of_isNumber h, fun d hd => Lexeme.inName_of_isDigit (h.digits d hd)⟩
  | name h =>
    rw [String.toList_ofList, List.forall_mem_cons]
    exact ⟨Lexeme.inName_of_startsName h.start, h.chars⟩
  | string => exact absurd rfl hkind

/-- A number and a name are read as they are. -/
theorem Lexical.ofChars_append {mark : Mark} (h : mark.Lexical) (hkind : mark.1 ≠ .string)
    (hrest : Delimits rest) : ofChars (mark.2.toList ++ rest) = mark :: ofChars rest := by
  cases h with
  | number h => exact ofChars_word (Lexeme.first_number h hrest)
  | name h => exact ofChars_word (Lexeme.first_name h hrest)
  | string => exact absurd rfl hkind

end Mark

/-- A string that is a word contains no backslash. -/
theorem Mark.Lexical.backslash_not_mem {mark : Mark} (h : mark.Lexical)
    (hkind : mark.1 = .string) : '\\' ∉ mark.2.toList := by
  cases h with
  | number => cases hkind
  | name => exact absurd hkind (Lexeme.nameKind_ne _).1
  | string h =>
    rw [String.toList_ofList]
    exact h

namespace Token

variable {token : Token}

/-- A word that is read again is a word. -/
theorem lexical_reread (h : token.mark.Lexical) : token.reread.mark.Lexical := by
  unfold reread
  split
  · rename_i hstring
    have hnone : '\\' ∉ token.text.toList.flatMap Text.rereadChar := by
      intro hmem
      obtain ⟨c, -, hread⟩ := List.mem_flatMap.mp hmem
      exact (Text.readsBack_of_mem_rereadChar c _ hread).ne_backslash rfl
    have hlexical := Mark.Lexical.string hnone
    rw [← hstring] at hlexical
    exact hlexical
  · exact h

/-- A word that is read again is a property only if it was one. -/
theorem property?_reread (token : Token) : token.reread.property? = token.property? := by
  unfold reread
  split
  · rename_i hstring
    unfold property?
    rw [hstring]
  · rfl

theorem mark_reread_eq_iff :
    token.reread.mark = token.mark ↔
      (token.kind = .string → Text.reread token.text = token.text) := by
  unfold reread
  split
  · rename_i hstring
    exact ⟨fun h _ => congrArg Prod.snd h, fun h => Prod.ext rfl (h hstring)⟩
  · rename_i hstring
    exact ⟨fun _ h => absurd h hstring, fun _ => rfl⟩

end Token

/-- A token is read off its written form. -/
theorem Token.ofChars_renderToken {token : Token} {rest : List Char} (h : token.mark.Lexical)
    (hrest : Delimits rest) :
    Mark.ofChars ((Node.renderToken token).toList ++ rest) =
      token.reread.mark :: Mark.ofChars rest := by
  unfold Node.renderToken reread
  by_cases hstring : token.kind = .string
  · rw [if_pos hstring, if_pos hstring, Mark.ofChars_quoted, ← hstring]
    rfl
  · rw [if_neg hstring, if_neg hstring]
    exact h.ofChars_append hstring hrest

/-! ### Words of a source -/

/-- The marks that a source has: brackets, quote marks and words. -/
def Mark.OfSource (mark : Mark) : Prop :=
  mark.1 = .opening ∨ mark.1 = .closing ∨ mark.1 = .quote ∨ mark.Lexical

namespace Lexeme

variable {c : Char} {rest : List Char}

theorem isNumber_takeWhile (h : c.isDigit = true ∨
    (c = '+' ∨ c = '-') ∧ rest.head?.any Char.isDigit = true) :
    Mark.IsNumber c (rest.takeWhile Char.isDigit) := by
  refine ⟨h.imp_right fun hsign => ⟨hsign.1, ?_⟩, ?_⟩
  · intro hnone
    cases rest with
    | nil => cases hsign.2
    | cons d rest =>
      have hdigit : d.isDigit = true := hsign.2
      rw [List.takeWhile_cons_of_pos hdigit] at hnone
      cases hnone
  · exact List.all_eq_true.mp List.all_takeWhile

theorem isName_takeWhile (hstart : startsName c = true)
    (hnumber : ¬ ((c = '+' ∨ c = '-') ∧ rest.head?.any Char.isDigit = true)) :
    Mark.IsName c (rest.takeWhile inName) := by
  refine ⟨hstart, List.all_eq_true.mp List.all_takeWhile, fun hsign => hnumber ⟨hsign.1, ?_⟩⟩
  have hdigit := hsign.2
  rw [List.head?_takeWhile, Option.any_filter, Option.any_eq_true] at hdigit
  obtain ⟨d, hhead, hboth⟩ := hdigit
  rw [Option.any_eq_true]
  exact ⟨d, hhead, ((Bool.and_eq_true _ _).mp hboth).2⟩

/-- The heads that brackets stand for are names. -/
theorem lexical_constructors :
    Mark.Lexical (.identifier, dictConstructor) ∧ Mark.Lexical (.identifier, listConstructor) := by
  have hdict : Mark.IsName 'd' ['i', 'c', 't', 'y'] :=
    ⟨by decide, List.all_eq_true.mp (by decide), by decide⟩
  have hlist : Mark.IsName 'l' ['i', 's', 't', 'y'] :=
    ⟨by decide, List.all_eq_true.mp (by decide), by decide⟩
  exact ⟨.name hdict, .name hlist⟩

/-- A lexeme of a text is a bracket, a quote mark or a word. -/
theorem ofSource_first (c : Char) (rest : List Char) :
    ∀ mark ∈ (first c rest).1.marks, mark.OfSource := by
  have hone {kind : Token.Kind} {text : String} (h : Mark.OfSource (kind, text)) :
      ∀ mark ∈ marks (.token kind text), mark.OfSource := List.forall_mem_singleton.mpr h
  have hsugar {constructor : String} (h : Mark.Lexical (.identifier, constructor)) :
      ∀ mark ∈ marks (.sugar constructor), mark.OfSource :=
    List.forall_mem_cons.mpr ⟨.inl rfl, List.forall_mem_singleton.mpr (.inr (.inr (.inr h)))⟩
  fun_cases first c rest with
  | case1 => exact hone (.inl rfl)
  | case2 => nofun
  | case3 _ _ hdigit => exact hone (.inr (.inr (.inr (.number (isNumber_takeWhile (.inl hdigit))))))
  | case4 _ _ _ hsign => exact hone (.inr (.inr (.inr (.number (isNumber_takeWhile (.inr hsign))))))
  | case5 _ _ _ hnumber hstart =>
    exact hone (.inr (.inr (.inr (.name (isName_takeWhile hstart hnumber)))))
  | case6 _ _ _ _ _ _ text taken hbody =>
    exact hone (.inr (.inr (.inr (.string (backslash_not_mem_stringBody hbody)))))
  | case7 => nofun
  | case8 => exact hone (.inr (.inr (.inl rfl)))
  | case9 => exact hone (.inl rfl)
  | case10 => exact hone (.inr (.inl rfl))
  | case11 => exact hsugar lexical_constructors.1
  | case12 => exact hsugar lexical_constructors.2
  | case13 => nofun
  | case14 => nofun

end Lexeme

theorem Mark.ofSource_of_mem_ofChars (cs : List Char) : ∀ mark ∈ ofChars cs, mark.OfSource := by
  fun_induction ofChars cs with
  | case1 => nofun
  | case2 c rest ih => exact List.forall_mem_append.mpr ⟨Lexeme.ofSource_first c rest, ih⟩

namespace Token

/-- The tokens of a source are brackets, quote marks and words. -/
theorem ofSource_of_mem_lex {source file : String} {token : Token}
    (h : token ∈ lex source file) : token.mark.OfSource := by
  have hmark : token.mark ∈ (lex source file).map mark := List.mem_map_of_mem h
  rw [map_mark_lex] at hmark
  exact Mark.ofSource_of_mem_ofChars source.toList token.mark hmark

theorem property?_eq_some_iff {token : Token} {name : String} :
    token.property? = some name ↔ token.mark = (.identifier, "^" ++ name) := by
  have hchars : ("^" ++ name).toList = '^' :: name.toList := String.toList_append
  constructor
  · intro h
    unfold property? at h
    split at h
    · rename_i rest hkind htext
      cases h
      refine Prod.ext hkind (String.toList_inj.mp ?_)
      rw [hchars, String.toList_ofList]
      exact htext
    · cases h
  · intro h
    obtain ⟨hkind, htext⟩ := mark_eq_iff.mp h
    unfold property?
    rw [hkind, htext, hchars]
    exact congrArg some String.ofList_toList

theorem property?_congr {token other : Token} (h : token.mark = other.mark) :
    token.property? = other.property? := by
  obtain ⟨hkind, htext⟩ := mark_eq_iff.mp h
  unfold property?
  rw [hkind, htext]

theorem opensInline_eq {token : Token} {inline : Bool}
    (h : token.mark = (.opening, if inline then "#(" else "(")) : token.opensInline = inline := by
  obtain ⟨hkind, htext⟩ := mark_eq_iff.mp h
  unfold opensInline
  rw [hkind, htext]
  cases inline <;> rfl

/-- A name that becomes a property may stand after `^`. -/
theorem isProperty_of_property? {token : Token} {name : String} (h : token.mark.OfSource)
    (hname : token.property? = some name) (hne : name ≠ "") : IsProperty name := by
  rw [property?_eq_some_iff] at hname
  rw [hname] at h
  have hlexical : Mark.Lexical (.identifier, "^" ++ name) := by
    rcases h with h | h | h | h
    · cases h
    · cases h
    · cases h
    · exact h
  refine ⟨hne, fun c hc => hlexical.chars nofun c ?_⟩
  rw [String.toList_append]
  exact List.mem_append_right _ hc

end Token

end FrameLisp
