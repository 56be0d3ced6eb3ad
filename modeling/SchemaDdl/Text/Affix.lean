/-!
# Fixed beginnings and endings

Taking a fixed row of characters off the start or the end of a text.
-/

namespace SchemaDdl.Text

def stripStart? : List Char → List Char → Option (List Char)
  | [], cs => some cs
  | _ :: _, [] => none
  | s :: start, c :: cs => if s = c then stripStart? start cs else none

def stripEnd? (ending cs : List Char) : Option (List Char) :=
  (stripStart? ending.reverse cs.reverse).map List.reverse

theorem stripStart?_eq_some_iff {start cs rest : List Char} :
    stripStart? start cs = some rest ↔ cs = start ++ rest := by
  induction start generalizing cs with
  | nil => simp [stripStart?]
  | cons s start ih =>
    cases cs with
    | nil => simp [stripStart?]
    | cons c cs =>
      rw [stripStart?]
      split
      · next h => simp [h, ih]
      · next h => simp [Ne.symm h]

theorem stripStart?_append (start rest : List Char) :
    stripStart? start (start ++ rest) = some rest :=
  stripStart?_eq_some_iff.2 rfl

theorem stripEnd?_eq_some_iff {ending cs rest : List Char} :
    stripEnd? ending cs = some rest ↔ cs = rest ++ ending := by
  rw [stripEnd?, Option.map_eq_some_iff]
  constructor
  · rintro ⟨r, hr, rfl⟩
    have := congrArg List.reverse (stripStart?_eq_some_iff.1 hr)
    simpa using this
  · rintro rfl
    exact ⟨rest.reverse, stripStart?_eq_some_iff.2 (by simp), by simp⟩

end SchemaDdl.Text
