import SchemaDdl.Text.Clip

/-!
# The longest beginning that fits

A clip keeps the longest beginning, made of whole characters, that takes no
more than a number of bytes. It can be found by going down from that number
one byte at a time, and the search ends before it gets below zero.
-/

namespace SchemaDdl.Text

/-- The longest beginning of a text that takes at most `size` bytes. -/
structure LongestStart (size : Nat) (text start : List Char) : Prop where
  begins : start <+: text
  fits : byteLength start ≤ size
  longest : ∀ other, other <+: text → byteLength other ≤ size → other <+: start

theorem longestStart_clip (cs : List Char) (size : Nat) :
    LongestStart size cs (clip cs size) where
  begins := clip_prefix cs size
  fits := byteLength_clip_le cs size
  longest := by
    induction cs generalizing size with
    | nil => exact fun other hother _ => hother
    | cons c cs ih =>
      intro other hother hfits
      cases other with
      | nil => exact List.nil_prefix
      | cons d other =>
        obtain ⟨rfl, hrest⟩ := List.cons_prefix_cons.1 hother
        rw [byteLength_cons] at hfits
        have hc : d.utf8Size ≤ size := by omega
        have hlater := ih (size - d.utf8Size) other hrest (by omega)
        rw [clip, if_pos hc]
        exact (List.prefix_cons_inj d).2 hlater

/-- Cuts at the first place between two characters that is met on the way down from `size` bytes;
`none` if there is none down to zero. -/
def cutDown? (cs : List Char) : Nat → Option (List Char)
  | 0 => cut? cs 0
  | size + 1 => (cut? cs (size + 1)).or (cutDown? cs size)

theorem cut?_zero (cs : List Char) : cut? cs 0 = some [] := by
  cases cs <;> rfl

theorem clip_zero (cs : List Char) : clip cs 0 = [] := by
  cases cs with
  | nil => rfl
  | cons c cs =>
    have hc : ¬c.utf8Size ≤ 0 := Nat.not_le.2 c.utf8Size_pos
    rw [clip, if_neg hc]

/-- A cut between two characters keeps all that fits. -/
theorem eq_clip_of_cut? {cs start : List Char} {size : Nat} (h : cut? cs size = some start) :
    start = clip cs size := by
  induction cs generalizing size start with
  | nil => exact (Option.some.inj h).symm
  | cons c cs ih =>
    cases size with
    | zero => rw [clip_zero, ← Option.some.inj (h.symm.trans (cut?_zero _))]
    | succ size =>
      rw [cut?] at h
      rw [clip]
      split at h
      · next hc =>
        obtain ⟨rest, hrest, rfl⟩ := Option.map_eq_some_iff.1 h
        rw [if_pos hc, ih hrest]
      · cases h

/-- Where a cut would split a character, one byte less keeps as much. -/
theorem clip_succ_of_cut?_eq_none {cs : List Char} {size : Nat} (h : cut? cs (size + 1) = none) :
    clip cs (size + 1) = clip cs size := by
  induction cs generalizing size with
  | nil => cases h
  | cons c cs ih =>
    rw [cut?] at h
    rw [clip, clip]
    split at h
    · next hc =>
      rw [Option.map_eq_none_iff] at h
      -- The cut comes after this character, as it would be no cut through one at its end.
      have hlater : size + 1 - c.utf8Size ≠ 0 := by
        intro hend
        rw [hend, cut?_zero] at h
        cases h
      have hsize : size + 1 - c.utf8Size = (size - c.utf8Size) + 1 := by omega
      rw [hsize] at h ⊢
      rw [if_pos hc, if_pos (by omega), ih h]
    · next hc => rw [if_neg hc, if_neg (by omega)]

theorem cutDown?_eq_some (cs : List Char) (size : Nat) :
    cutDown? cs size = some (clip cs size) := by
  induction size with
  | zero => rw [cutDown?, cut?_zero, clip_zero]
  | succ size ih =>
    rw [cutDown?]
    cases hcut : cut? cs (size + 1) with
    | none => rw [Option.none_or, ih, clip_succ_of_cut?_eq_none hcut]
    | some start => rw [Option.some_or, eq_clip_of_cut? hcut]

end SchemaDdl.Text
