/-!
# Cutting a text to a number of bytes

Lengths are counted in UTF-8 bytes. A clip keeps the longest stretch of whole
characters that fits; a cut at an exact length fails inside a character.
-/

namespace SchemaDdl.Text

def byteLength : List Char → Nat
  | [] => 0
  | c :: cs => c.utf8Size + byteLength cs

/-- The longest beginning made of whole characters that takes at most `size` bytes. -/
def clip : List Char → Nat → List Char
  | [], _ => []
  | c :: cs, size =>
    if c.utf8Size ≤ size then c :: clip cs (size - c.utf8Size) else []

/-- The first `size` bytes, or all of a shorter text; `none` if that cuts a character. -/
def cut? : List Char → Nat → Option (List Char)
  | [], _ => some []
  | _ :: _, 0 => some []
  | c :: cs, size + 1 =>
    if c.utf8Size ≤ size + 1 then (cut? cs (size + 1 - c.utf8Size)).map (c :: ·) else none

@[simp] theorem byteLength_nil : byteLength [] = 0 := rfl

@[simp] theorem byteLength_cons (c : Char) (cs : List Char) :
    byteLength (c :: cs) = c.utf8Size + byteLength cs := rfl

theorem byteLength_toList (s : String) : byteLength s.toList = s.utf8ByteSize := by
  rw [← String.ofList_toList (s := s), String.toList_ofList]
  induction s.toList with
  | nil => rfl
  | cons c cs ih => simp [String.ofList_cons, ih]

theorem cut?_append (cs ds : List Char) : cut? (cs ++ ds) (byteLength cs) = some cs := by
  induction cs with
  | nil => cases ds <;> rfl
  | cons c cs ih =>
    obtain ⟨n, hn⟩ : ∃ n, c.utf8Size + byteLength cs = n + 1 :=
      Nat.exists_eq_succ_of_ne_zero (by have := c.utf8Size_pos; omega)
    rw [List.cons_append, byteLength_cons, hn, cut?, if_pos (by omega), ← hn,
      Nat.add_sub_cancel_left, ih, Option.map_some]

theorem byteLength_clip_le (cs : List Char) (size : Nat) :
    byteLength (clip cs size) ≤ size := by
  induction cs generalizing size with
  | nil => simp [clip]
  | cons c cs ih =>
    rw [clip]
    split
    · have := ih (size - c.utf8Size)
      simp only [byteLength_cons]
      omega
    · simp

theorem clip_prefix (cs : List Char) (size : Nat) : clip cs size <+: cs := by
  induction cs generalizing size with
  | nil => exact List.prefix_rfl
  | cons c cs ih =>
    rw [clip]
    split
    · exact (List.prefix_cons_inj c).2 (ih _)
    · exact List.nil_prefix

end SchemaDdl.Text
