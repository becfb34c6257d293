/-!
# Searching in texts

Cutting a text at every occurrence of another one, from left to right and without overlaps, and
putting a third text in the place of each occurrence.
-/

namespace FrameLisp.Text

/-- What is left of `text` after `start`, if it starts so. -/
def dropStart? : (start text : List Char) → Option (List Char)
  | [], text => some text
  | _ :: _, [] => none
  | a :: start, c :: text => if a = c then dropStart? start text else none

theorem dropStart?_eq_some_iff {start text rest : List Char} :
    dropStart? start text = some rest ↔ text = start ++ rest := by
  induction start generalizing text with
  | nil => simp [dropStart?, eq_comm]
  | cons a start ih =>
    cases text with
    | nil => simp [dropStart?]
    | cons c text =>
      by_cases h : a = c
      · simp [dropStart?, h, ih]
      · simp only [dropStart?, if_neg h, reduceCtorEq, List.cons_append, List.cons.injEq, false_iff]
        exact fun e => h e.1.symm

/-- Whether a text starts with another. -/
def startsWith (text start : String) : Bool :=
  (dropStart? start.toList text.toList).isSome

/-- Whether a text ends with another. -/
def endsWith (text finish : String) : Bool :=
  (dropStart? finish.toList.reverse text.toList.reverse).isSome

/-- The pieces of a text around each occurrence of `mark :: marks`, given the piece before the
rest, in reverse. -/
def cutFrom (mark : Char) (marks : List Char) (piece : List Char) : List Char → List (List Char)
  | [] => [piece.reverse]
  | c :: rest =>
    if c = mark then
      match _h : dropStart? marks rest with
      | some left => piece.reverse :: cutFrom mark marks [] left
      | none => cutFrom mark marks (c :: piece) rest
    else cutFrom mark marks (c :: piece) rest
termination_by text => text.length
decreasing_by
  · have hlen := congrArg List.length (dropStart?_eq_some_iff.1 _h)
    rw [List.length_append] at hlen
    rw [List.length_cons]
    omega
  all_goals exact Nat.lt_succ_self _

/-- The pieces of a text around each occurrence of a nonempty mark; an empty mark leaves the text
whole. -/
def cut (text mark : String) : List String :=
  match mark.toList with
  | [] => [text]
  | c :: marks => (cutFrom c marks [] text.toList).map String.ofList

/-- Puts `new` in the place of every occurrence of `old`.  An empty `old` occurs before every
character and at the end. -/
def replace (text old new : String) : String :=
  if old.isEmpty then
    new ++ String.join (text.toList.map fun c => String.singleton c ++ new)
  else
    new.intercalate (cut text old)

end FrameLisp.Text
