/-!
# Blank text

White space, what remains of a text when it is cut off the ends, and the
texts that hold nothing else. Functions on characters work on lists; the
ones on whole texts are built from them.
-/

namespace SchemaDdl.Text

/-- The characters with the Unicode property `White_Space`. -/
def isSpace (c : Char) : Bool :=
  let n := c.toNat
  (9 ≤ n && n ≤ 13) || n == 0x20 || n == 0x85 || n == 0xA0 || n == 0x1680 ||
    (0x2000 ≤ n && n ≤ 0x200A) || n == 0x2028 || n == 0x2029 || n == 0x202F ||
    n == 0x205F || n == 0x3000

def trimStart (cs : List Char) : List Char := cs.dropWhile isSpace

def trimEnd : List Char → List Char
  | [] => []
  | c :: cs =>
    match trimEnd cs with
    | [] => if isSpace c then [] else [c]
    | rest => c :: rest

def trim (cs : List Char) : List Char := trimEnd (trimStart cs)

@[simp] theorem trimStart_nil : trimStart [] = [] := rfl

@[simp] theorem trimEnd_nil : trimEnd [] = [] := rfl

@[simp] theorem trim_nil : trim [] = [] := rfl

theorem trimStart_cons (c : Char) (cs : List Char) :
    trimStart (c :: cs) = if isSpace c then trimStart cs else c :: cs := by
  simp [trimStart, List.dropWhile_cons]

theorem length_trimStart_le (cs : List Char) : (trimStart cs).length ≤ cs.length :=
  (List.dropWhile_sublist isSpace).length_le

theorem length_trimEnd_le (cs : List Char) : (trimEnd cs).length ≤ cs.length := by
  induction cs with
  | nil => simp
  | cons c cs ih =>
    rw [trimEnd]
    split
    · split <;> simp
    · simpa using ih

theorem length_trim_le (cs : List Char) : (trim cs).length ≤ cs.length :=
  Nat.le_trans (length_trimEnd_le _) (length_trimStart_le _)

def isBlank (s : String) : Bool := s.toList.all isSpace

@[simp] theorem isBlank_append (s t : String) :
    isBlank (s ++ t) = (isBlank s && isBlank t) := by
  simp [isBlank]

theorem isBlank_ofList_cons {c : Char} (h : isSpace c = false) (cs : List Char) :
    isBlank (String.ofList (c :: cs)) = false := by
  simp [isBlank, h]

theorem isBlank_append_left {s : String} (h : isBlank s = false) (t : String) :
    isBlank (s ++ t) = false := by
  rw [isBlank_append, h, Bool.false_and]

def trimmed (s : String) : String := String.ofList (trim s.toList)

def trimmedEnd (s : String) : String := String.ofList (trimEnd s.toList)

theorem all_isSpace_trimEnd (cs : List Char) : (trimEnd cs).all isSpace = cs.all isSpace := by
  induction cs with
  | nil => rfl
  | cons c cs ih =>
    rw [trimEnd]
    split
    · next h =>
      rw [h, List.all_nil] at ih
      by_cases hc : isSpace c <;> simp [hc, ← ih]
    · next h => simp [← ih]

theorem isBlank_trimmedEnd (s : String) : isBlank (trimmedEnd s) = isBlank s := by
  simp [isBlank, trimmedEnd, all_isSpace_trimEnd]

end SchemaDdl.Text
