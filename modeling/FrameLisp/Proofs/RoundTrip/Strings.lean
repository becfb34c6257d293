import FrameLisp.Text.Quoted
import FrameLisp.Token.Lexeme

/-!
# Strings that are written and read again

A string is written with the escapes of a quoted text and read with those of the lexer, which knows
only two of them.  What comes of a text on the way is `Text.reread`: the escape of a newline and the
one of a quote are resolved, of any other escape the backslash and the letter after it are lost, and
the code point of a character that is not printable is left standing in its braces.

All that is left standing is written as it is.  So a text that was read again once does not change
any more, and a text comes back if and only if all its characters do (`Text.reread_eq_iff`).
-/

namespace FrameLisp

namespace Text

/-- The character is not escaped between double quotes. -/
def IsPlain (c : Char) : Prop := escape '"' c = [c]

instance (c : Char) : Decidable (IsPlain c) := inferInstanceAs (Decidable (escape '"' c = [c]))

/-- The character is not escaped between double quotes, or has an escape that the lexer knows. -/
def ReadsBack (c : Char) : Prop := IsPlain c ∨ c = '\n' ∨ c = '"'

instance (c : Char) : Decidable (ReadsBack c) :=
  inferInstanceAs (Decidable (IsPlain c ∨ c = '\n' ∨ c = '"'))

/-- What is read of the written form of a character. -/
def rereadChar (c : Char) : List Char :=
  match escape '"' c with
  | '\\' :: letter :: rest => Lexeme.unescape letter ++ rest
  | written => written

/-- What is read of the written form of a text. -/
def reread (text : String) : String := String.ofList (text.toList.flatMap rereadChar)

/-! ### Written forms -/

/-- The digits of a code point are plain. -/
theorem isPlain_of_mem_toDigits (n : Nat) : ∀ c ∈ Nat.toDigits 16 n, IsPlain c := by
  have hdigit : ∀ d < 16, IsPlain (Nat.digitChar d) := by decide
  induction n using Nat.strongRecOn with
  | ind n ih =>
    rw [Nat.toDigits_eq_if (by decide)]
    split
    · rename_i hsmall
      rw [List.forall_mem_singleton]
      exact hdigit n hsmall
    · rename_i hlarge
      rw [List.forall_mem_append, List.forall_mem_singleton]
      exact ⟨ih (n / 16) (Nat.div_lt_self (by omega) (by decide)),
        hdigit (n % 16) (Nat.mod_lt n (by decide))⟩

/-- The characters with an escape of one letter. -/
def lettered : List Char := ['"', '\\', '\n', '\r', '\t', '\x00']

theorem mem_lettered_iff {c : Char} :
    c ∈ lettered ↔
      c = '"' ∨ c = '\\' ∨ c = '\n' ∨ c = '\r' ∨ c = '\t' ∨ c = '\x00' := by
  simp only [lettered, List.mem_cons, List.not_mem_nil, or_false]

theorem escape_of_lettered {c : Char} (h : c ∈ lettered) :
    ∃ letter, escape '"' c = ['\\', letter] := by
  rcases mem_lettered_iff.mp h with rfl | rfl | rfl | rfl | rfl | rfl <;> exact ⟨_, rfl⟩

theorem escape_of_not_lettered {c : Char} (h : c ∉ lettered) :
    escape '"' c = if isPrintable c then [c] else codeEscape c := by
  simp only [mem_lettered_iff, not_or] at h
  obtain ⟨hquote, hbackslash, hnewline, hreturn, htab, hzero⟩ := h
  unfold escape
  rw [if_neg (not_or.mpr ⟨hquote, hbackslash⟩), if_neg hnewline, if_neg hreturn, if_neg htab,
    if_neg hzero]

/-- What is written of a character is the character, or an escape that is plain after its letter. -/
theorem isPlain_or_escape_eq (c : Char) :
    IsPlain c ∨ ∃ letter rest, escape '"' c = '\\' :: letter :: rest ∧ ∀ d ∈ rest, IsPlain d := by
  have hcode : ∀ d ∈ '\x7b' :: (Nat.toDigits 16 c.toNat ++ ['\x7d']), IsPlain d := by
    rw [List.forall_mem_cons, List.forall_mem_append, List.forall_mem_singleton]
    exact ⟨by decide, isPlain_of_mem_toDigits c.toNat, by decide⟩
  by_cases hlettered : c ∈ lettered
  · obtain ⟨letter, hescape⟩ := escape_of_lettered hlettered
    exact .inr ⟨letter, [], hescape, nofun⟩
  · unfold IsPlain
    rw [escape_of_not_lettered hlettered]
    by_cases hprintable : isPrintable c = true
    · exact .inl (if_pos hprintable)
    · rw [if_neg hprintable]
      exact .inr ⟨'u', _, rfl, hcode⟩

theorem IsPlain.ne {c : Char} (h : IsPlain c) : c ≠ '"' ∧ c ≠ '\\' := by
  constructor
  · rintro rfl
    exact absurd h (by decide)
  · rintro rfl
    exact absurd h (by decide)

theorem ReadsBack.ne_backslash {c : Char} (h : ReadsBack c) : c ≠ '\\' := by
  rintro rfl
  exact absurd h (by decide)

/-! ### Characters that come back -/

/-- The characters that come back, among those other than a backslash. -/
theorem readsBack_iff {c : Char} (h : c ≠ '\\') :
    ReadsBack c ↔
      c = '\n' ∨ c ≠ '\r' ∧ c ≠ '\t' ∧ c ≠ '\x00' ∧ isPrintable c = true := by
  by_cases hlettered : c ∈ lettered
  · revert h
    rcases mem_lettered_iff.mp hlettered with rfl | rfl | rfl | rfl | rfl | rfl <;> decide
  · have hescape := escape_of_not_lettered hlettered
    simp only [mem_lettered_iff, not_or] at hlettered
    obtain ⟨hquote, -, hnewline, hreturn, htab, hzero⟩ := hlettered
    constructor
    · rintro (hplain | hnewline' | hquote')
      · refine .inr ⟨hreturn, htab, hzero, ?_⟩
        by_cases hprintable : isPrintable c = true
        · exact hprintable
        · -- the code point in its braces is longer than the character
          rw [if_neg hprintable] at hescape
          cases hescape.symm.trans hplain
      · exact absurd hnewline' hnewline
      · exact absurd hquote' hquote
    · rintro (hnewline' | ⟨-, -, -, hprintable⟩)
      · exact absurd hnewline' hnewline
      · rw [if_pos hprintable] at hescape
        exact .inl hescape

theorem rereadChar_of_isPlain {c : Char} (h : IsPlain c) : rereadChar c = [c] := by
  unfold rereadChar
  split
  · rename_i hescape
    rw [h] at hescape
    cases hescape
  · exact h

theorem rereadChar_of_escape_eq {c letter : Char} {rest : List Char}
    (h : escape '"' c = '\\' :: letter :: rest) :
    rereadChar c = Lexeme.unescape letter ++ rest := by
  unfold rereadChar
  rw [h]
  rfl

theorem rereadChar_eq {c : Char} (h : ReadsBack c) : rereadChar c = [c] := by
  rcases h with hplain | rfl | rfl
  · exact rereadChar_of_isPlain hplain
  · rfl
  · rfl

theorem readsBack_of_mem_unescape (letter : Char) :
    ∀ c ∈ Lexeme.unescape letter, ReadsBack c := by
  unfold Lexeme.unescape
  split
  · exact List.forall_mem_singleton.mpr (by decide)
  · split
    · exact List.forall_mem_singleton.mpr (by decide)
    · nofun

/-- What is read of a character comes back if it is read again. -/
theorem readsBack_of_mem_rereadChar (c : Char) : ∀ d ∈ rereadChar c, ReadsBack d := by
  rcases isPlain_or_escape_eq c with hplain | ⟨letter, rest, hescape, hrest⟩
  · rw [rereadChar_of_isPlain hplain, List.forall_mem_singleton]
    exact .inl hplain
  · rw [rereadChar_of_escape_eq hescape, List.forall_mem_append]
    exact ⟨readsBack_of_mem_unescape letter, fun d hd => .inl (hrest d hd)⟩

theorem readsBack_of_mem_reread (text : String) : ∀ c ∈ (reread text).toList, ReadsBack c := by
  unfold reread
  rw [String.toList_ofList]
  intro c hc
  obtain ⟨d, -, hread⟩ := List.mem_flatMap.mp hc
  exact readsBack_of_mem_rereadChar d c hread

/-- A text comes back if and only if all its characters do. -/
theorem reread_eq_iff (text : String) :
    reread text = text ↔ ∀ c ∈ text.toList, ReadsBack c := by
  constructor
  · intro h
    rw [← h]
    exact readsBack_of_mem_reread text
  · intro h
    have hchars : text.toList.map rereadChar = text.toList.map fun c => [c] :=
      List.map_congr_left fun c hc => rereadChar_eq (h c hc)
    unfold reread
    rw [List.flatMap_def, hchars, ← List.flatMap_def, List.flatMap_singleton', String.ofList_toList]

end Text

namespace Lexeme

open Text

variable {cs rest body : List Char} {taken : Nat}

theorem stringBody_cons_eq {c : Char} (hquote : c ≠ '"') (hbackslash : c ≠ '\\')
    (rest : List Char) :
    stringBody (c :: rest) = (stringBody rest).map fun body => (c :: body.1, body.2 + 1) := by
  rw [stringBody]
  · exact hquote
  · exact fun hc => absurd hc hbackslash
  · exact fun _ _ hc => absurd hc hbackslash

theorem stringBody_cons {c : Char} (hquote : c ≠ '"') (hbackslash : c ≠ '\\')
    (h : stringBody rest = some (body, taken)) :
    stringBody (c :: rest) = some (c :: body, taken + 1) := by
  rw [stringBody_cons_eq hquote hbackslash, h, Option.map_some]

theorem stringBody_plain (hcs : ∀ c ∈ cs, IsPlain c) (h : stringBody rest = some (body, taken)) :
    stringBody (cs ++ rest) = some (cs ++ body, taken + cs.length) := by
  induction cs with
  | nil => exact h
  | cons c cs ih =>
    obtain ⟨hplain, htail⟩ := List.forall_mem_cons.mp hcs
    exact stringBody_cons hplain.ne.1 hplain.ne.2 (ih htail)

/-- A character is read as what comes back of it. -/
theorem stringBody_escape (c : Char) (h : stringBody rest = some (body, taken)) :
    stringBody (escape '"' c ++ rest) =
      some (rereadChar c ++ body, taken + (escape '"' c).length) := by
  rcases isPlain_or_escape_eq c with hplain | ⟨letter, tail, hescape, htail⟩
  · rw [rereadChar_of_isPlain hplain, show escape '"' c = [c] from hplain]
    exact stringBody_cons hplain.ne.1 hplain.ne.2 h
  · rw [rereadChar_of_escape_eq hescape, hescape, List.append_assoc]
    show stringBody ('\\' :: letter :: (tail ++ rest)) = _
    rw [stringBody, stringBody_plain htail h]
    rfl

theorem stringBody_quoted (cs rest : List Char) :
    stringBody (cs.flatMap (escape '"') ++ '"' :: rest) =
      some (cs.flatMap rereadChar, (cs.flatMap (escape '"')).length + 1) := by
  induction cs with
  | nil => rfl
  | cons c cs ih =>
    have hread := stringBody_escape c ih
    rw [List.flatMap_cons, List.append_assoc, hread, List.flatMap_cons, List.length_append]
    congr 2
    omega

/-- A string that was read contains no backslash. -/
theorem backslash_not_mem_stringBody (h : stringBody rest = some (body, taken)) :
    '\\' ∉ body := by
  fun_induction stringBody rest generalizing body taken with
  | case1 => cases h
  | case2 => cases h; exact List.not_mem_nil
  | case3 => cases h
  | case4 letter rest ih =>
    obtain ⟨⟨inner, count⟩, hinner, hread⟩ := Option.map_eq_some_iff.mp h
    cases hread
    have hletter : '\\' ∉ unescape letter :=
      fun hmem => (readsBack_of_mem_unescape letter _ hmem).ne_backslash rfl
    exact fun hmem => (List.mem_append.mp hmem).elim hletter (ih hinner)
  | case5 c rest hquote hend hescape ih =>
    obtain ⟨⟨inner, count⟩, hinner, hread⟩ := Option.map_eq_some_iff.mp h
    cases hread
    have hc : '\\' ≠ c := by
      rintro rfl
      cases rest with
      | nil => exact hend rfl rfl
      | cons letter rest => exact hescape letter rest rfl rfl
    exact fun hmem => (List.mem_cons.mp hmem).elim hc (ih hinner)

end Lexeme

end FrameLisp
