import FrameLisp.Proofs.Likeness.Building
import FrameLisp.Proofs.Places

/-!
# Brackets that stand for calls

A square bracket stands for a call of the constructor of lists and a brace for a call of the
constructor of dicts.  `desugar` writes these calls out, and leaves alone what is in strings and in
comments.  It knows no lexemes: it goes through a text character by character and remembers only in
which of four modes it is.

The lexer finds the same in a text before and after, but for places (`Token.findings_desugar`).  The
two runs go in lockstep: where the lexer is at the start of a lexeme, `desugar` is in the code, and
it is in the code again where the lexeme ends (`Sugar.first_spell`).  A bracket alone is three
lexemes in the text that is written out, and two tokens in both.

Trees are built of tokens without regard to places (`Node.build_alike`), and run without regard to
them, so a program does the same whichever way it is written (`Session.evalSource_desugar`).
-/

namespace FrameLisp

/-! ### Writing brackets out -/

namespace Sugar

/-- Where in a text one is. -/
inductive Mode where
  /-- Outside of strings and comments. -/
  | code
  /-- In a comment. -/
  | comment
  /-- In a string. -/
  | string
  /-- In a string, right after a backslash. -/
  | escape
deriving DecidableEq

/-- Where one is after a character, given the character after it. -/
def Mode.after (c : Char) (next : Option Char) : Mode → Mode
  | code =>
    if c = '"' then string
    else if c = ';' ∨ c = '#' ∧ next ≠ some '(' then comment
    else code
  | comment => if c = '\n' then code else comment
  | string => if c = '"' then code else if c = '\\' then escape else string
  | escape => string

/-- What is written for a character of the code. -/
def expand (c : Char) : List Char :=
  if c = '[' then "(listy ".toList
  else if c = '{' then "(dicty ".toList
  else if c = ']' ∨ c = '}' then [')']
  else [c]

/-- What is written for a text that starts in a mode. -/
def spell (mode : Mode) : List Char → List Char
  | [] => []
  | c :: rest =>
    (if mode = .code then expand c else [c]) ++ spell (mode.after c rest.head?) rest

end Sugar

/-- The source with the calls written out that its brackets stand for. -/
def desugar (source : String) : String :=
  String.ofList (Sugar.spell .code source.toList)

namespace Sugar

variable {c : Char} {rest : List Char} {part : Char → Bool}

theorem expand_of_inName (h : Lexeme.inName c = true) : expand c = [c] := by
  have hne : ∀ d, Lexeme.inName d = false → c ≠ d := by
    rintro d hd rfl
    rw [h] at hd
    cases hd
  unfold expand
  rw [if_neg (hne '[' (by decide)), if_neg (hne '{' (by decide)),
    if_neg (fun h => h.elim (hne ']' (by decide)) (hne '}' (by decide)))]

/-- After most characters of the code one is in the code. -/
theorem spell_code (hquote : c ≠ '"') (hcomment : c ≠ ';')
    (hhash : c = '#' → rest.head? = some '(') :
    spell .code (c :: rest) = expand c ++ spell .code rest := by
  have hmode : Mode.code.after c rest.head? = .code := by
    unfold Mode.after
    rw [if_neg hquote, if_neg]
    rintro (hc | ⟨hc, hnext⟩)
    · exact hcomment hc
    · exact hnext (hhash hc)
  rw [spell, hmode, if_pos rfl]

/-- The characters of names are left alone. -/
theorem spell_code_of_inName (h : Lexeme.inName c = true) (rest : List Char) :
    spell .code (c :: rest) = c :: spell .code rest := by
  obtain ⟨hhash, hcomment⟩ := Lexeme.ne_of_inName h
  have hquote : c ≠ '"' := by
    rintro rfl
    exact absurd h (by decide)
  rw [spell_code hquote hcomment (fun hc => absurd hc hhash), expand_of_inName h]
  rfl

/-- What is written for a character that is in no name does not start like one. -/
theorem head?_expand (h : Lexeme.inName c = false) :
    ∀ d ∈ (expand c).head?, Lexeme.inName d = false := by
  intro d hd
  unfold expand at hd
  split at hd
  · cases hd
    decide
  · split at hd
    · cases hd
      decide
    · split at hd
      · cases hd
        decide
      · cases hd
        exact h

theorem expand_ne_nil (c : Char) : expand c ≠ [] := by
  unfold expand
  split
  · decide
  · split
    · decide
    · split
      · decide
      · exact List.cons_ne_nil c []

end Sugar

/-! ### Lexemes in lockstep -/

namespace Sugar

variable {c : Char} {rest : List Char} {part : Char → Bool}

/-- A text goes on with a word if it does so when it is written out. -/
theorem head?_any_spell (hpart : ∀ c, part c = true → Lexeme.inName c = true) (cs : List Char) :
    (spell .code cs).head?.any part = cs.head?.any part := by
  cases cs with
  | nil => rfl
  | cons c cs =>
    cases hname : Lexeme.inName c with
    | true =>
      rw [spell_code_of_inName hname]
      rfl
    | false =>
      have hother : ∀ d, Lexeme.inName d = false → part d = false := fun d hd =>
        Bool.eq_false_iff.mpr fun hd' => by
          rw [hpart d hd'] at hd
          cases hd
      rw [spell, if_pos rfl, List.head?_append_of_ne_nil _ (expand_ne_nil c)]
      have hhead : (expand c).head?.any part = false := by
        cases hd : (expand c).head? with
        | none => rfl
        | some d => exact hother d (head?_expand hname d hd)
      rw [hhead]
      exact (hother c hname).symm

/-- **A word goes as far as before**, and what follows it is written out by itself. -/
theorem takeWhile_spell (hpart : ∀ c, part c = true → Lexeme.inName c = true) (cs : List Char) :
    (spell .code cs).takeWhile part = cs.takeWhile part ∧
      (spell .code cs).drop (cs.takeWhile part).length =
        spell .code (cs.drop (cs.takeWhile part).length) := by
  induction cs with
  | nil => exact ⟨rfl, rfl⟩
  | cons c cs ih =>
    by_cases hc : part c = true
    · rw [spell_code_of_inName (hpart c hc), List.takeWhile_cons_of_pos hc,
        List.takeWhile_cons_of_pos hc]
      exact ⟨congrArg (c :: ·) ih.1, ih.2⟩
    · have hnone : (spell .code (c :: cs)).takeWhile part = [] := by
        have hhead := head?_any_spell hpart (c :: cs)
        cases hspell : spell .code (c :: cs) with
        | nil => rfl
        | cons d ds =>
          rw [hspell] at hhead
          exact List.takeWhile_cons_of_neg (fun hd => hc (hhead.symm.trans hd))
      rw [hnone, List.takeWhile_cons_of_neg hc]
      exact ⟨rfl, rfl⟩

theorem lineLength_cons {c : Char} (hc : c ≠ '\n') (cs : List Char) :
    Lexeme.lineLength (c :: cs) = Lexeme.lineLength cs + 1 := by
  unfold Lexeme.lineLength
  rw [List.takeWhile_cons_of_pos (by simpa using hc), List.length_cons, List.length_cons]
  omega

theorem lineLength_newline_cons (cs : List Char) : Lexeme.lineLength ('\n' :: cs) = 1 := by
  unfold Lexeme.lineLength
  rw [List.takeWhile_cons_of_neg (by decide), List.length_nil, List.length_cons]
  omega

theorem head?_spell_comment (cs : List Char) : (spell .comment cs).head? = cs.head? := by
  cases cs <;> rfl

/-- **A comment ends where it did.** -/
theorem lineLength_spell (cs : List Char) :
    Lexeme.lineLength (spell .comment cs) = Lexeme.lineLength cs ∧
      (spell .comment cs).drop (Lexeme.lineLength cs) =
        spell .code (cs.drop (Lexeme.lineLength cs)) := by
  induction cs with
  | nil => exact ⟨rfl, rfl⟩
  | cons c cs ih =>
    by_cases hc : c = '\n'
    · subst hc
      have hspell : spell .comment ('\n' :: cs) = '\n' :: spell .code cs := rfl
      rw [hspell, lineLength_newline_cons, lineLength_newline_cons]
      exact ⟨rfl, rfl⟩
    · have hspell : spell .comment (c :: cs) = c :: spell .comment cs := by
        rw [spell, Mode.after, if_neg hc]
        rfl
      rw [hspell, lineLength_cons hc, lineLength_cons hc, ih.1]
      exact ⟨rfl, ih.2⟩

/-- **A string ends where it did**, if it has an end. -/
theorem stringBody_spell (cs : List Char) :
    Lexeme.stringBody (spell .string cs) = Lexeme.stringBody cs ∧
      ∀ body ∈ Lexeme.stringBody cs,
        (spell .string cs).drop body.2 = spell .code (cs.drop body.2) := by
  fun_induction Lexeme.stringBody cs with
  | case1 => exact ⟨rfl, fun body hbody => absurd hbody (Option.not_mem_none body)⟩
  | case2 rest =>
    refine ⟨rfl, fun body hbody => ?_⟩
    rw [← Option.mem_some_iff.mp hbody]
    rfl
  | case3 => exact ⟨rfl, fun body hbody => absurd hbody (Option.not_mem_none body)⟩
  | case4 e rest ih =>
    have hspell : spell .string ('\\' :: e :: rest) = '\\' :: e :: spell .string rest := rfl
    rw [hspell, Lexeme.stringBody, ih.1]
    refine ⟨rfl, fun body hbody => ?_⟩
    obtain ⟨inner, hinner, rfl⟩ := Option.map_eq_some_iff.mp hbody
    exact ih.2 inner hinner
  | case5 c rest hquote hlast hescape ih =>
    have hbackslash : c ≠ '\\' := Lexeme.ne_backslash hlast hescape
    have hspell : spell .string (c :: rest) = c :: spell .string rest := by
      rw [spell, Mode.after, if_neg hquote, if_neg hbackslash]
      rfl
    rw [hspell, Lexeme.stringBody_cons_eq hquote hbackslash, ih.1]
    refine ⟨rfl, fun body hbody => ?_⟩
    obtain ⟨inner, hinner, rfl⟩ := Option.map_eq_some_iff.mp hbody
    exact ih.2 inner hinner

/-- What the code goes on with is the same lexeme as before, where no bracket, comment or string
starts. -/
theorem first_spell_code (hcomment : ¬ (c = ';' ∨ c = '#')) (hstring : c ≠ '"')
    (rest : List Char) :
    Lexeme.first c (spell .code rest) = Lexeme.first c rest ∧
      (spell .code rest).drop (Lexeme.first c rest).2 =
        spell .code (rest.drop (Lexeme.first c rest).2) := by
  have hinline : ∀ cs : List Char, ¬ (c = '#' ∧ cs.head? = some '(') :=
    fun _ h => hcomment (.inr h.1)
  have hdigits := takeWhile_spell (fun _ => Lexeme.inName_of_isDigit) rest
  have hnames := takeWhile_spell (fun _ h => h) rest
  have hdigit := head?_any_spell (fun _ => Lexeme.inName_of_isDigit) rest
  constructor
  · unfold Lexeme.first Lexeme.run
    rw [if_neg (hinline _), if_neg (hinline _), if_neg hcomment, if_neg hcomment, if_neg hstring,
      if_neg hstring, hdigits.1, hnames.1, hdigit]
  · fun_cases Lexeme.first c rest with
    | case1 h => exact absurd h (hinline rest)
    | case2 _ h => exact absurd h hcomment
    | case3 => exact hdigits.2
    | case4 => exact hdigits.2
    | case5 => exact hnames.2
    | case6 _ _ _ _ _ h => exact absurd h hstring
    | case7 _ _ _ _ _ h => exact absurd h hstring
    | _ => rfl

/-- **What is written out starts with the same lexeme as before**, and goes on after it with what is
written for the rest, unless a bracket stands for a call. -/
theorem first_spell (hlist : c ≠ '[') (hdict : c ≠ '{') (rest : List Char) :
    ∃ d cs, spell .code (c :: rest) = d :: cs ∧
      (Lexeme.first d cs).1 = (Lexeme.first c rest).1 ∧
      cs.drop (Lexeme.first d cs).2 = spell .code (rest.drop (Lexeme.first c rest).2) := by
  by_cases hinline : c = '#' ∧ rest.head? = some '('
  · obtain ⟨rfl, hhead⟩ := hinline
    obtain ⟨more, rfl⟩ : ∃ more, rest = '(' :: more := List.head?_eq_some_iff.mp hhead
    exact ⟨'#', '(' :: spell .code more, rfl, rfl, rfl⟩
  by_cases hcomment : c = ';' ∨ c = '#'
  · have hspell : spell .code (c :: rest) = c :: spell .comment rest := by
      rcases hcomment with rfl | rfl
      · rfl
      · have hnext : rest.head? ≠ some '(' := fun hhead => hinline ⟨rfl, hhead⟩
        have hmode : Mode.code.after '#' rest.head? = .comment := by
          simp [Mode.after, hnext]
        rw [spell, hmode]
        rfl
    have hinline' : ¬ (c = '#' ∧ (spell .comment rest).head? = some '(') := by
      rwa [head?_spell_comment]
    obtain ⟨hlength, hdrop⟩ := lineLength_spell rest
    refine ⟨c, spell .comment rest, hspell, ?_⟩
    rw [Lexeme.first_comment hinline hcomment, Lexeme.first_comment hinline' hcomment, hlength]
    exact ⟨rfl, hdrop⟩
  by_cases hstring : c = '"'
  · subst hstring
    obtain ⟨hsame, hdrop⟩ := stringBody_spell rest
    refine ⟨'"', spell .string rest, rfl, ?_⟩
    cases hbody : Lexeme.stringBody rest with
    | none =>
      rw [Lexeme.first_unterminated hbody, Lexeme.first_unterminated (hsame.trans hbody),
        List.drop_length, List.drop_length]
      exact ⟨rfl, rfl⟩
    | some body =>
      rw [Lexeme.first_string hbody, Lexeme.first_string (hsame.trans hbody)]
      exact ⟨rfl, hdrop body hbody⟩
  by_cases hclosing : c = ']' ∨ c = '}'
  · refine ⟨')', spell .code rest, ?_⟩
    rcases hclosing with rfl | rfl
    · exact ⟨rfl, rfl, rfl⟩
    · exact ⟨rfl, rfl, rfl⟩
  -- everything else is written as it is
  have hexpand : expand c = [c] := by
    unfold expand
    rw [if_neg hlist, if_neg hdict, if_neg hclosing]
  have hspell : spell .code (c :: rest) = c :: spell .code rest := by
    rw [spell_code hstring (fun h => hcomment (.inl h)) (fun h => absurd (.inr h) hcomment),
      hexpand]
    rfl
  obtain ⟨hfirst, hdrop⟩ := first_spell_code hcomment hstring rest
  refine ⟨c, spell .code rest, hspell, ?_⟩
  rw [hfirst]
  exact ⟨rfl, hdrop⟩

end Sugar

/-! ### What is found -/

/-- What was found, without its place. -/
def Finding.unplaced : Finding → Finding
  | .token found => .token found.unplaced
  | .notice found => .notice found.unplaced

theorem Lexeme.map_unplaced_findings (location location' : Location) (lexeme : Lexeme) :
    (lexeme.findings location).map Finding.unplaced =
      (lexeme.findings location').map Finding.unplaced := by
  cases lexeme <;> rfl

namespace Token

theorem scan_cons {c : Char} {rest : List Char} {lexeme : Lexeme} {taken : Nat}
    (h : Lexeme.first c rest = (lexeme, taken)) (file : String) (place : Place) :
    scan file place (c :: rest) =
      lexeme.findings (place.inFile file) ++
        scan file (place.after (c :: rest.take taken)) (rest.drop taken) := by
  rw [scan, h]

/-- A call that is written out is found as a bracket and the name after it. -/
theorem exists_scan_call {c : Char} {name : List Char} (hname : Mark.IsName c name)
    (hkind : Lexeme.nameKind (c :: name) = .identifier) (file : String) (place : Place)
    (rest : List Char) :
    ∃ place', (scan file place ('(' :: c :: (name ++ ' ' :: rest))).map Finding.unplaced =
      ((Lexeme.sugar (String.ofList (c :: name))).findings default).map Finding.unplaced ++
        (scan file place' rest).map Finding.unplaced := by
  have hopening : ∀ cs, Lexeme.first '(' cs = (.token .opening "(", 0) := fun _ => rfl
  have hblank : ∀ cs, Lexeme.first ' ' cs = (.blank, 0) := fun _ => rfl
  have hword : Lexeme.first c (name ++ ' ' :: rest) =
      (.token .identifier (String.ofList (c :: name)), name.length) := by
    have hfirst := Lexeme.first_name hname (delimits_blank rest)
    rwa [hkind] at hfirst
  rw [scan_cons (hopening _), List.drop_zero, scan_cons hword, List.drop_left,
    scan_cons (hblank _), List.drop_zero, List.map_append, List.map_append, List.map_append]
  exact ⟨_, rfl⟩

/-- **The same is found in a text that is written out**, but for places. -/
theorem scan_spell (file : String) (place place' : Place) (cs : List Char) :
    (scan file place' (Sugar.spell .code cs)).map Finding.unplaced =
      (scan file place cs).map Finding.unplaced := by
  fun_induction scan file place cs generalizing place' with
  | case1 place => rw [Sugar.spell, scan]
  | case2 place c rest found ih =>
    by_cases hlist : c = '['
    · subst hlist
      have hname : Mark.IsName 'l' "isty".toList :=
        ⟨by decide, List.all_eq_true.mp (by decide), by decide⟩
      obtain ⟨after, hscan⟩ :=
        exists_scan_call hname (by decide) file place' (Sugar.spell .code rest)
      have hfound : found = (.sugar listConstructor, 0) := rfl
      rw [List.map_append, ← ih after, hfound]
      exact hscan
    by_cases hdict : c = '{'
    · subst hdict
      have hname : Mark.IsName 'd' "icty".toList :=
        ⟨by decide, List.all_eq_true.mp (by decide), by decide⟩
      obtain ⟨after, hscan⟩ :=
        exists_scan_call hname (by decide) file place' (Sugar.spell .code rest)
      have hfound : found = (.sugar dictConstructor, 0) := rfl
      rw [List.map_append, ← ih after, hfound]
      exact hscan
    obtain ⟨d, cs, hspell, hfirst, hdrop⟩ := Sugar.first_spell hlist hdict rest
    rw [hspell, scan, List.map_append, List.map_append, hfirst, hdrop, ih,
      Lexeme.map_unplaced_findings _ (place.inFile file)]

/-- The same is found in a source before and after its brackets are written out. -/
theorem findings_desugar (source file : String) :
    (findings (desugar source) file).map Finding.unplaced =
      (findings source file).map Finding.unplaced := by
  unfold findings desugar
  rw [String.toList_ofList]
  exact scan_spell file .start .start source.toList

/-- **The tokens are the same**, but for places. -/
theorem lex_desugar (source file : String) :
    (lex (desugar source) file).map unplaced = (lex source file).map unplaced := by
  have htokens : ∀ found : List Finding,
      (found.filterMap Finding.token?).map unplaced =
        (found.map Finding.unplaced).filterMap Finding.token? := by
    intro found
    rw [List.map_filterMap, List.filterMap_map]
    congr 1
    funext finding
    cases finding <;> rfl
  unfold lex
  rw [htokens, htokens, findings_desugar]

/-- The same is left out, but for places. -/
theorem notices_desugar (source file : String) :
    (notices (desugar source) file).map Notice.unplaced =
      (notices source file).map Notice.unplaced := by
  have hnotices : ∀ found : List Finding,
      (found.filterMap Finding.notice?).map Notice.unplaced =
        (found.map Finding.unplaced).filterMap Finding.notice? := by
    intro found
    rw [List.map_filterMap, List.filterMap_map]
    congr 1
    funext finding
    cases finding <;> rfl
  unfold notices
  rw [hnotices, hnotices, findings_desugar]

end Token

/-! ### Runs -/

/-- The trees are the same, but for places, or both texts are refused in the same words. -/
theorem Node.parse_desugar (source file : String) :
    Matches (fun misread misread' => misread'.message = misread.message)
      (List.Forall₂ (Node.Alike Relocation.anywhere.likenessOfPlaces)) (parse source file)
      (parse (desugar source) file) := by
  let L : Likeness := .upToPlaces fun context => context.oracle.IgnoresPlaces
  have htokens : List.Forall₂ L.token (Token.lex source file) (Token.lex (desugar source) file) :=
    forall₂_of_map_eq (Token.lex_desugar source file) fun _ _ _ => Token.alike_iff_unplaced.mpr
  exact build_alike defaultNesting htokens

namespace Session

/-- Outcomes of two sources, which are the same up to places and what was reported. -/
inductive SourceAlike : Except Failure Value × Session → Except Failure Value × Session → Prop
  /-- Neither can be read, for the same reason, and nothing was run. -/
  | misread {misread misread' : Misread} (hmessage : misread'.message = misread.message)
    {session session' : Session} (hsame : session.SameButEvents session') :
    SourceAlike (.error (.misread misread), session) (.error (.misread misread'), session')
  /-- Both were run, and went alike. -/
  | run {outcome outcome' : Except Failure Value × Session}
    (h : OutcomeAlike .anywhere outcome outcome') :
    SourceAlike outcome outcome'

/-- **Sources with trees that differ in places run alike.** -/
theorem sourceAlike_of_parse (session : Session) (hplaces : session.IgnoresPlaces)
    {source source' file : String}
    (h : Matches (fun misread misread' => misread'.message = misread.message)
      (List.Forall₂ (Node.Alike Relocation.anywhere.likenessOfPlaces)) (Node.parse source file)
      (Node.parse source' file)) :
    SourceAlike (session.evalSource source file) (session.evalSource source' file) := by
  generalize hparse : Node.parse source file = parsed at h
  generalize hparse' : Node.parse source' file = parsed' at h
  cases h with
  | error hmessage =>
    rw [evalSource_of_misread session hparse, evalSource_of_misread session hparse']
    exact .misread hmessage ⟨rfl, rfl⟩
  | ok htrees =>
    rw [evalSource_eq_runTrees session hparse, evalSource_eq_runTrees session hparse']
    have hanywhere : Relocation.anywhere.Reflexive := fun _ => trivial
    have hsame : (session.prepared source file).SameButEvents (session.prepared source' file) :=
      ⟨rfl, rfl⟩
    exact .run (runTrees_alike hanywhere hsame (hplaces.prepared source file) htrees)

/-- **Brackets are calls.**  When the calls are written out that its brackets stand for, a source
has the same tokens, it is read as the same trees or refused in the same words, and it does the
same. -/
theorem evalSource_desugar (source file : String) :
    let plain := desugar source
    (Token.lex plain file).map Token.mark = (Token.lex source file).map Token.mark ∧
      (Token.notices plain file).map Notice.unplaced =
        (Token.notices source file).map Notice.unplaced ∧
      Matches (fun misread misread' => misread'.message = misread.message)
        (fun trees trees' => trees'.map Node.unplaced = trees.map Node.unplaced)
        (Node.parse source file) (Node.parse plain file) ∧
      ∀ session : Session, session.IgnoresPlaces →
        SourceAlike (session.evalSource source file) (session.evalSource plain file) := by
  intro plain
  have hparse := Node.parse_desugar source file
  refine ⟨?_, Token.notices_desugar source file, ?_, ?_⟩
  · have hmarks : ∀ tokens : List Token,
        (tokens.map Token.unplaced).map Token.mark = tokens.map Token.mark := by
      intro tokens
      rw [List.map_map]
      rfl
    rw [← hmarks, Token.lex_desugar, hmarks]
  · refine hparse.mono (fun _ _ hmessage => hmessage) fun trees trees' htrees => ?_
    have halike : List.Forall₂
        (Node.Alike (.upToPlaces fun context => context.oracle.IgnoresPlaces)) trees trees' :=
          htrees
    exact Node.Alike.map_unplaced_eq halike
  · intro session hplaces
    exact session.sourceAlike_of_parse hplaces hparse

/-- A bracket in a string and one in a comment are left alone, and so is one after `#`, which starts
a comment too. -/
theorem evalSource_desugar_nested :
    let source := "(print [\"[\" \x7b:a 1\x7d]) ; ]\n#[\n(defn f [x] x)"
    let plain := "(print (listy \"[\" (dicty :a 1))) ; ]\n#[\n(defn f (listy x) x)"
    let session := standard {}
    desugar source = plain ∧ session.IgnoresPlaces ∧
      SourceAlike (session.evalSource source "") (session.evalSource plain "") ∧
      (session.evalSource plain "").2.machine.printed = "[\"[\" \x7b:a 1\x7d]\n" := by
  intro source plain session
  have hplain : desugar source = plain := by decide +kernel
  have hplaces : session.IgnoresPlaces :=
    standard_ignoresPlaces Rule.standard_ignoresPlaces Hosts.basic_ignorePlaces
  obtain ⟨-, -, -, hruns⟩ := evalSource_desugar source ""
  have halike := hruns session hplaces
  rw [hplain] at halike
  exact ⟨hplain, hplaces, halike, by decide +kernel⟩

end Session

end FrameLisp
