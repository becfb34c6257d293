import FrameLisp.Proofs.Splitting.Source
import Mathlib.Data.List.Chain
import Mathlib.Data.List.Induction

/-!
# Tokens stand where they say

The lexer moves a line and a column along with each lexeme that it takes.  What it says of a token
in this way is what one counts in the text before the token: the newlines, and the characters since
the last of them (`Place.start_after`).  All tokens of a source are found at offsets of the source,
one after the other (`Token.Found`), and everything else is read off these offsets: a place further
on in a text is a later place (`Place.before_atOffset`), so tokens are in the order of their places
(`Token.lex_placed`).

Only two tokens can be at one offset, a bracket that stands for a call and the name of what it
calls.  The name is a `Marker`; every other token is `Spelled` by the text at its offset.
-/

namespace FrameLisp

/-! ### Places and offsets -/

namespace Place

/-- The place at an offset of a text: the newlines before it are counted, and the characters after
the last of them. -/
def atOffset (text : List Char) (offset : Nat) : Place where
  line := 1 + (text.take offset).count '\n'
  column := 1 + ((text.take offset).reverse.takeWhile (· ≠ '\n')).length

/-- The place comes before another: in a line above, or further to the left in the same line. -/
def Before (place other : Place) : Prop :=
  place.line < other.line ∨ place.line = other.line ∧ place.column < other.column

theorem Before.trans {first second third : Place} (h : first.Before second)
    (h' : second.Before third) : first.Before third := by
  unfold Before at *
  omega

theorem before_advance (place : Place) (c : Char) : place.Before (place.advance c) := by
  unfold advance
  split
  · exact .inl (Nat.lt_succ_self _)
  · exact .inr ⟨rfl, Nat.lt_succ_self _⟩

/-- Reading on leads to a later place. -/
theorem before_after (place : Place) {cs : List Char} (h : cs ≠ []) :
    place.Before (place.after cs) := by
  induction cs generalizing place with
  | nil => exact absurd rfl h
  | cons c cs ih =>
    rw [after_cons]
    cases cs with
    | nil => exact before_advance place c
    | cons d cs => exact (before_advance place c).trans (ih _ (List.cons_ne_nil d cs))

/-- **The place after a text tells what is in the text**: how many newlines, and how many characters
after the last of them. -/
theorem start_after (text : List Char) :
    start.after text =
      ⟨1 + text.count '\n', 1 + (text.reverse.takeWhile (· ≠ '\n')).length⟩ := by
  induction text using List.reverseRecOn with
  | nil => rfl
  | append_singleton text c ih =>
    rw [after_append, ih, after_cons, after_nil, List.count_append, List.reverse_append]
    unfold advance
    split
    · rename_i hc
      subst hc
      rfl
    · rename_i hc
      have hother : [c].count '\n' = 0 := List.count_eq_zero_of_not_mem (by simpa using Ne.symm hc)
      have htaken : ([c].reverse ++ text.reverse).takeWhile (· ≠ '\n') =
          c :: text.reverse.takeWhile (· ≠ '\n') :=
        List.takeWhile_cons_of_pos (by simpa using hc)
      rw [hother, htaken, List.length_cons]
      rfl

theorem start_after_take (text : List Char) (offset : Nat) :
    start.after (text.take offset) = atOffset text offset :=
  start_after _

/-- An offset further on in the text is a later place. -/
theorem before_atOffset {text : List Char} {offset next : Nat} (h : offset < next)
    (hnext : next ≤ text.length) : (atOffset text offset).Before (atOffset text next) := by
  obtain ⟨more, rfl⟩ := Nat.exists_eq_add_of_lt h
  have hsplit : text.take (offset + (more + 1)) =
      text.take offset ++ (text.drop offset).take (more + 1) := List.take_add
  have hmore : (text.drop offset).take (more + 1) ≠ [] := by
    rw [ne_eq, List.take_eq_nil_iff, List.drop_eq_nil_iff]
    omega
  rw [← start_after_take, ← start_after_take, Nat.add_assoc, hsplit, after_append]
  exact before_after _ hmore

end Place

/-- The location comes before another, in the order of places. -/
def Location.Before (location other : Location) : Prop :=
  location.line < other.line ∨ location.line = other.line ∧ location.column < other.column

/-! ### What the text has at the offset of a token -/

/-- The kinds of tokens whose text is as it is in the source. -/
def Token.Kind.isVerbatim : Token.Kind → Bool
  | .number | .identifier | .keyword | .nil | .boolean => true
  | _ => false

/-- Whether a token of the kind goes on with a character: a number with digits, and all others with
what names consist of. -/
def Token.Kind.goesOn (kind : Token.Kind) (c : Char) : Bool :=
  if kind = .number then c.isDigit else Lexeme.inName c

namespace Mark

/-- The text starts with what is written for the mark, and no longer token starts there. -/
inductive Spelled : Mark → List Char → Prop
  /-- A number or a name, whose text goes as far as it can. -/
  | word {kind : Token.Kind} {word rest : List Char} (hkind : kind.isVerbatim = true)
    (hword : word ≠ []) (hchars : ∀ c ∈ word.tail, kind.goesOn c = true)
    (hrest : ∀ c ∈ rest.head?, kind.goesOn c = false) :
    Spelled (kind, String.ofList word) (word ++ rest)
  /-- A string, which starts with its quote and goes through the closing one. -/
  | string {body rest : List Char} {taken : Nat}
    (h : Lexeme.stringBody rest = some (body, taken)) :
    Spelled (.string, String.ofList body) ('"' :: rest)
  /-- A quote mark. -/
  | quote (rest : List Char) : Spelled (.quote, "'") ('\'' :: rest)
  /-- An opening bracket of one of three shapes. -/
  | opening {c : Char} (h : c = '(' ∨ c = '{' ∨ c = '[') (rest : List Char) :
    Spelled (.opening, "(") (c :: rest)
  /-- The bracket of an inline function. -/
  | inline (rest : List Char) : Spelled (.opening, "#(") ('#' :: '(' :: rest)
  /-- A closing bracket of one of three shapes. -/
  | closing {c : Char} (h : c = ')' ∨ c = '}' ∨ c = ']') (rest : List Char) :
    Spelled (.closing, ")") (c :: rest)

/-- The mark is the name of what a bracket calls, and the text starts with that bracket. -/
inductive Marker : Mark → List Char → Prop
  /-- A brace calls the constructor of dicts. -/
  | dict (rest : List Char) : Marker (.identifier, dictConstructor) ('{' :: rest)
  /-- A square bracket calls the constructor of lists. -/
  | list (rest : List Char) : Marker (.identifier, listConstructor) ('[' :: rest)

variable {mark : Mark} {text : List Char}

theorem Spelled.ne_nil (h : mark.Spelled text) : text ≠ [] := by
  cases h with
  | word _ hword => exact fun hnil => hword (List.append_eq_nil_iff.mp hnil).1
  | _ => exact List.cons_ne_nil _ _

theorem Marker.ne_nil (h : mark.Marker text) : text ≠ [] := by
  cases h with
  | dict => exact List.cons_ne_nil _ _
  | list => exact List.cons_ne_nil _ _

/-- A number and a name start like the text. -/
theorem Spelled.head?_eq (h : mark.Spelled text) (hkind : mark.1.isVerbatim = true) :
    mark.2.toList.head? = text.head? := by
  cases h with
  | @word kind word rest _ hword =>
    rw [String.toList_ofList]
    cases word with
    | nil => exact absurd rfl hword
    | cons c word => rfl
  | _ => cases hkind

/-- No token that is spelled by the text is a marker. -/
theorem Spelled.not_marker (h : mark.Spelled text) : ¬ mark.Marker text := by
  rintro (⟨rest⟩ | ⟨rest⟩)
  · exact absurd (h.head?_eq rfl) (by rw [List.head?_cons]; decide)
  · exact absurd (h.head?_eq rfl) (by rw [List.head?_cons]; decide)

end Mark

namespace Lexeme

/-- What a run of characters makes is spelled, if its kind goes on with these characters. -/
theorem spelled_run (kind : List Char → Token.Kind) {part : Char → Bool} {c : Char}
    {rest : List Char} (hkind : (kind (c :: rest.takeWhile part)).isVerbatim = true)
    (hpart : (kind (c :: rest.takeWhile part)).goesOn = part) :
    Mark.Spelled (kind (c :: rest.takeWhile part), String.ofList (c :: rest.takeWhile part))
      (c :: rest) := by
  have hsplit : c :: rest = (c :: rest.takeWhile part) ++ rest.dropWhile part :=
    congrArg (c :: ·) List.takeWhile_append_dropWhile.symm
  rw [hsplit]
  refine .word hkind (List.cons_ne_nil _ _) ?_ ?_
  · rw [hpart]
    exact List.all_eq_true.mp List.all_takeWhile
  · rw [hpart]
    intro d hd
    have hstop := List.head?_dropWhile_not part rest
    rw [hd] at hstop
    exact hstop

theorem isVerbatim_nameKind (name : List Char) :
    (nameKind name).isVerbatim = true ∧ (nameKind name).goesOn = inName := by
  unfold nameKind
  split
  · exact ⟨rfl, rfl⟩
  · split
    · exact ⟨rfl, rfl⟩
    · split
      · exact ⟨rfl, rfl⟩
      · exact ⟨rfl, rfl⟩

/-- **A lexeme that is one token is spelled by the text.** -/
theorem spelled_first {c : Char} {rest : List Char} {kind : Token.Kind} {text : String}
    (h : (first c rest).1 = .token kind text) : Mark.Spelled (kind, text) (c :: rest) := by
  revert h
  fun_cases first c rest with
  | case1 hinline =>
    rintro ⟨⟩
    obtain ⟨rfl, hhead⟩ := hinline
    cases rest with
    | nil => cases hhead
    | cons d rest =>
      cases hhead
      exact .inline rest
  | case2 => rintro ⟨⟩
  | case3 =>
    rintro ⟨⟩
    exact spelled_run (fun _ => .number) rfl rfl
  | case4 =>
    rintro ⟨⟩
    exact spelled_run (fun _ => .number) rfl rfl
  | case5 =>
    rintro ⟨⟩
    exact spelled_run nameKind (isVerbatim_nameKind _).1 (isVerbatim_nameKind _).2
  | case6 _ _ _ _ _ hc body taken hbody =>
    rintro ⟨⟩
    subst hc
    exact .string hbody
  | case7 => rintro ⟨⟩
  | case8 _ _ _ _ _ _ hc =>
    rintro ⟨⟩
    subst hc
    exact .quote rest
  | case9 _ _ _ _ _ _ _ hc =>
    rintro ⟨⟩
    exact .opening (.inl hc) rest
  | case10 _ _ _ _ _ _ _ _ hclosing =>
    rintro ⟨⟩
    exact .closing hclosing rest
  | case11 => rintro ⟨⟩
  | case12 => rintro ⟨⟩
  | case13 => rintro ⟨⟩
  | case14 => rintro ⟨⟩

/-- A lexeme that stands for two tokens is a bracket. -/
theorem bracket_first {c : Char} {rest : List Char} {constructor : String}
    (h : (first c rest).1 = .sugar constructor) :
    Mark.Spelled (.opening, "(") (c :: rest) ∧
      Mark.Marker (.identifier, constructor) (c :: rest) := by
  revert h
  fun_cases first c rest with
  | case11 _ _ _ _ _ _ _ _ _ hc =>
    rintro ⟨⟩
    subst hc
    exact ⟨.opening (.inr (.inl rfl)) rest, .dict rest⟩
  | case12 _ _ _ _ _ _ _ _ _ _ hc =>
    rintro ⟨⟩
    subst hc
    exact ⟨.opening (.inr (.inr rfl)) rest, .list rest⟩
  | _ => rintro ⟨⟩

end Lexeme

/-! ### Tokens at offsets -/

namespace Token

/-- The token is located at an offset of a source. -/
def IsAt (source : List Char) (file : String) (token : Token) (offset : Nat) : Prop :=
  token.location = (Place.atOffset source offset).inFile file

/-- Tokens are found with their offsets in a source, from an offset on. -/
inductive Found (source : List Char) (file : String) : Nat → List (Token × Nat) → Prop
  /-- There are none. -/
  | none (start : Nat) : Found source file start []
  /-- A token that is spelled at its offset, and further ones. -/
  | one {start offset : Nat} {token : Token} {more : List (Token × Nat)} (hstart : start ≤ offset)
    (hlocation : token.IsAt source file offset) (hspelled : token.mark.Spelled (source.drop offset))
    (hmore : Found source file (offset + 1) more) :
    Found source file start ((token, offset) :: more)
  /-- A bracket and its marker, and further ones. -/
  | two {start offset : Nat} {bracket marker : Token} {more : List (Token × Nat)}
    (hstart : start ≤ offset) (hbracket : bracket.IsAt source file offset)
    (hmarker : marker.IsAt source file offset)
    (hspelled : bracket.mark.Spelled (source.drop offset))
    (hopening : bracket.mark = (.opening, "("))
    (hmarks : marker.mark.Marker (source.drop offset))
    (hmore : Found source file (offset + 1) more) :
    Found source file start ((bracket, offset) :: (marker, offset) :: more)

theorem Found.mono {source : List Char} {file : String} {start next : Nat}
    {spots : List (Token × Nat)} (h : Found source file next spots) (hstart : start ≤ next) :
    Found source file start spots := by
  cases h with
  | none => exact .none start
  | one hnext hlocation hspelled hmore => exact .one (by omega) hlocation hspelled hmore
  | two hnext hbracket hmarker hspelled hopening hmarks hmore =>
    exact .two (by omega) hbracket hmarker hspelled hopening hmarks hmore

/-- **Scanning finds tokens at their offsets**, whatever was read before. -/
theorem exists_found (file : String) (before text : List Char) :
    ∃ spots, spots.map Prod.fst =
        (scan file (Place.start.after before) text).filterMap Finding.token? ∧
      Found (before ++ text) file before.length spots := by
  match text with
  | [] => exact ⟨[], by rw [scan]; rfl, .none _⟩
  | c :: rest =>
    -- what follows is found after the lexeme, in the same source
    obtain ⟨spots, hspots, hfound⟩ :=
      exists_found file (before ++ c :: rest.take (Lexeme.first c rest).2)
        (rest.drop (Lexeme.first c rest).2)
    rw [List.append_assoc, List.cons_append, List.take_append_drop, Place.after_append] at *
    have hmore : Found (before ++ c :: rest) file (before.length + 1) spots := by
      refine hfound.mono ?_
      rw [List.length_append, List.length_cons]
      omega
    have hdrop : (before ++ c :: rest).drop before.length = c :: rest := List.drop_left
    have hplace : Place.start.after before =
        Place.atOffset (before ++ c :: rest) before.length := by
      rw [← Place.start_after_take, List.take_left]
    rw [scan, List.filterMap_append, ← hspots]
    cases hlexeme : (Lexeme.first c rest).1 with
    | token kind text =>
      have hspelled := Lexeme.spelled_first hlexeme
      rw [← hdrop] at hspelled
      let token : Token := ⟨kind, text, (Place.start.after before).inFile file⟩
      have hlocation : token.IsAt (before ++ c :: rest) file before.length := by
        unfold IsAt
        rw [← hplace]
      exact ⟨(token, before.length) :: spots, rfl,
        .one (Nat.le_refl _) hlocation hspelled hmore⟩
    | sugar constructor =>
      obtain ⟨hspelled, hmarker⟩ := Lexeme.bracket_first hlexeme
      rw [← hdrop] at hspelled hmarker
      let bracket : Token := ⟨.opening, "(", (Place.start.after before).inFile file⟩
      let marker : Token := ⟨.identifier, constructor, (Place.start.after before).inFile file⟩
      have hlocation : bracket.IsAt (before ++ c :: rest) file before.length := by
        unfold IsAt
        rw [← hplace]
      exact ⟨(bracket, before.length) :: (marker, before.length) :: spots, rfl,
        .two (Nat.le_refl _) hlocation hlocation hspelled rfl hmarker hmore⟩
    | blank => exact ⟨spots, rfl, hmore.mono (Nat.le_succ _)⟩
    | unterminated => exact ⟨spots, rfl, hmore.mono (Nat.le_succ _)⟩
    | stray d => exact ⟨spots, rfl, hmore.mono (Nat.le_succ _)⟩
termination_by text.length
decreasing_by
  rw [List.length_drop, List.length_cons]
  omega

/-- The token is a marker of the text at the offset. -/
def IsMarker (source : List Char) (spot : Token × Nat) : Prop :=
  spot.1.mark.Marker (source.drop spot.2)

/-- One token comes right after another. -/
structure Follows (source : List Char) (spot next : Token × Nat) : Prop where
  /-- A marker is at the offset of its bracket. -/
  marker (h : IsMarker source next) : next.2 = spot.2 ∧ spot.1.mark = (.opening, "(")
  /-- Every other token is further on. -/
  other (h : ¬ IsMarker source next) : spot.2 < next.2

/-- One token comes anywhere after another. -/
structure Precedes (source : List Char) (spot later : Token × Nat) : Prop where
  /-- Its offset is no greater. -/
  offset_le : spot.2 ≤ later.2
  /-- Its place is before, or the other is its marker and has the same place. -/
  before : spot.1.location.Before later.1.location ∨
    spot.1.location = later.1.location ∧ spot.2 = later.2 ∧ IsMarker source later

/-- The tokens of a source are where they say, and are what the source has there. -/
structure Placed (source : List Char) (file : String) (spots : List (Token × Nat)) : Prop where
  /-- Each token is located at its offset. -/
  located : ∀ spot ∈ spots, spot.1.IsAt source file spot.2
  /-- It is spelled by the source there, or it is the marker of the bracket that is there. -/
  spelled : ∀ spot ∈ spots,
    spot.1.mark.Spelled (source.drop spot.2) ∨ spot.1.mark.Marker (source.drop spot.2)
  /-- The first is no marker. -/
  first : ∀ spot ∈ spots.head?, ¬ IsMarker source spot
  /-- From each to the next it goes further on, but for markers. -/
  next : spots.IsChain (Follows source)
  /-- So all are in the order of their places. -/
  ordered : spots.Pairwise (Precedes source)

namespace Found

variable {source : List Char} {file : String} {start : Nat} {spots : List (Token × Nat)}

theorem le_offset (h : Found source file start spots) : ∀ spot ∈ spots, start ≤ spot.2 := by
  induction h with
  | none => nofun
  | one hstart _ _ _ ih =>
    refine List.forall_mem_cons.mpr ⟨hstart, fun spot hspot => ?_⟩
    have hle := ih spot hspot
    omega
  | two hstart _ _ _ _ _ _ ih =>
    refine List.forall_mem_cons.mpr ⟨hstart, List.forall_mem_cons.mpr ⟨hstart, ?_⟩⟩
    intro spot hspot
    have hle := ih spot hspot
    omega

theorem located (h : Found source file start spots) :
    ∀ spot ∈ spots, spot.1.IsAt source file spot.2 := by
  induction h with
  | none => nofun
  | one _ hlocation _ _ ih => exact List.forall_mem_cons.mpr ⟨hlocation, ih⟩
  | two _ hbracket hmarker _ _ _ _ ih =>
    exact List.forall_mem_cons.mpr ⟨hbracket, List.forall_mem_cons.mpr ⟨hmarker, ih⟩⟩

theorem spelled (h : Found source file start spots) : ∀ spot ∈ spots,
    spot.1.mark.Spelled (source.drop spot.2) ∨ spot.1.mark.Marker (source.drop spot.2) := by
  induction h with
  | none => nofun
  | one _ _ hspelled _ ih => exact List.forall_mem_cons.mpr ⟨.inl hspelled, ih⟩
  | two _ _ _ hspelled _ hmarks _ ih =>
    exact List.forall_mem_cons.mpr ⟨.inl hspelled, List.forall_mem_cons.mpr ⟨.inr hmarks, ih⟩⟩

theorem offset_lt (h : Found source file start spots) : ∀ spot ∈ spots, spot.2 < source.length := by
  intro spot hspot
  have hne : source.drop spot.2 ≠ [] := (h.spelled spot hspot).elim (·.ne_nil) (·.ne_nil)
  rw [ne_eq, List.drop_eq_nil_iff] at hne
  omega

theorem first (h : Found source file start spots) :
    ∀ spot ∈ spots.head?, ¬ IsMarker source spot := by
  cases h with
  | none => nofun
  | one _ _ hspelled _ =>
    rintro _ ⟨⟩
    exact hspelled.not_marker
  | two _ _ _ hspelled _ _ _ =>
    rintro _ ⟨⟩
    exact hspelled.not_marker

/-- What is found further on may come next. -/
theorem follows {offset : Nat} (h : Found source file (offset + 1) spots) (token : Token) :
    ∀ spot ∈ spots.head?, Follows source (token, offset) spot := by
  intro spot hspot
  refine ⟨fun hmarker => absurd hmarker (h.first spot hspot), fun _ => ?_⟩
  exact h.le_offset spot (List.mem_of_mem_head? hspot)

theorem next (h : Found source file start spots) : spots.IsChain (Follows source) := by
  induction h with
  | none => exact .nil
  | one _ _ _ hmore ih => exact List.isChain_cons.mpr ⟨hmore.follows _, ih⟩
  | two _ _ _ _ hopening hmarks hmore ih =>
    refine List.isChain_cons.mpr ⟨?_, List.isChain_cons.mpr ⟨hmore.follows _, ih⟩⟩
    rintro _ ⟨⟩
    exact ⟨fun _ => ⟨rfl, hopening⟩, fun hother => absurd hmarks hother⟩

/-- What is found further on comes later. -/
theorem precedes {offset : Nat} {token : Token} (h : Found source file (offset + 1) spots)
    (hlocation : token.IsAt source file offset) :
    ∀ spot ∈ spots, Precedes source (token, offset) spot := by
  intro spot hspot
  have hlt : offset < spot.2 := h.le_offset spot hspot
  refine ⟨Nat.le_of_lt hlt, .inl ?_⟩
  rw [hlocation, h.located spot hspot]
  exact Place.before_atOffset hlt (Nat.le_of_lt (h.offset_lt spot hspot))

theorem ordered (h : Found source file start spots) : spots.Pairwise (Precedes source) := by
  induction h with
  | none => exact .nil
  | one _ hlocation _ hmore ih => exact .cons (hmore.precedes hlocation) ih
  | two _ hbracket hmarker _ _ hmarks hmore ih =>
    refine .cons (List.forall_mem_cons.mpr ⟨?_, hmore.precedes hbracket⟩)
      (.cons (hmore.precedes hmarker) ih)
    exact ⟨Nat.le_refl _, .inr ⟨hbracket.trans hmarker.symm, rfl, hmarks⟩⟩

end Found

/-- **Tokens are faithful to the text.**  Each token of a source has an offset in the source.  Its
line and its column count the newlines before the offset and the characters after the last of them.
A number or a name is the longest one that the source has there, a bracket or a quote mark stands on
its character, and the marker of a bracket is where the bracket is.  The offsets grow from token to
token, but for markers, and so do the places. -/
theorem lex_placed (source file : String) :
    ∃ spots, spots.map Prod.fst = lex source file ∧ Placed source.toList file spots := by
  obtain ⟨spots, hspots, hfound⟩ := exists_found file [] source.toList
  exact ⟨spots, hspots,
    hfound.located, hfound.spelled, hfound.first, hfound.next, hfound.ordered⟩

end Token

end FrameLisp
