import SchemaDdl.Script.Builder

/-!
# Going back to a mark

A mark only counts commands and bytes. The text that was pending is found
again as long as no step has dropped it, and none does unless that text is
blank without being empty.
-/

namespace SchemaDdl.Builder

/-- No close can drop the pending text: there is none, or it is not blank. -/
def KeepsText (b : Builder) : Prop := b.pending = "" ∨ Text.isBlank b.pending = false

/-- The text that was pending in `b` is the beginning of what is still pending, or of the first
command closed since. -/
inductive Kept (b later : Builder) : Prop where
  | pending (added : String) (hcommands : later.commands = b.commands)
      (hpending : later.pending = b.pending ++ added)
  | closed (first : Command) (rest : List Command) (added : String)
      (hcommands : later.commands = b.commands ++ first :: rest)
      (hfirst : first.text = b.pending ++ added)

theorem kept_refl (b : Builder) : Kept b b := .pending "" rfl (String.append_empty).symm

theorem Kept.of_append {b grown later : Builder} {added : String}
    (hcommands : grown.commands = b.commands) (hpending : grown.pending = b.pending ++ added)
    (h : Kept grown later) : Kept b later := by
  cases h with
  | pending more hlater htext =>
    exact .pending (added ++ more) (hlater.trans hcommands)
      (by rw [htext, hpending, String.append_assoc])
  | closed first rest more hlater hfirst =>
    exact .closed first rest (added ++ more) (by rw [hlater, hcommands])
      (by rw [hfirst, hpending, String.append_assoc])

/-- A close moves the text into a command, unless all of it is blank; then there was none. -/
theorem Kept.close {b later : Builder} (hb : b.KeepsText) (h : Kept b later) (suppressed : Bool) :
    Kept b (later.close suppressed) := by
  cases hblank : Text.isBlank later.pending with
  | false =>
    have hcommands : (later.close suppressed).commands =
        later.commands ++ [⟨later.pending, suppressed⟩] := by simp [Builder.close, hblank]
    cases h with
    | pending added hlater hpending =>
      exact .closed ⟨later.pending, suppressed⟩ [] added (by rw [hcommands, hlater]) hpending
    | closed first rest added hlater hfirst =>
      exact .closed first (rest ++ [⟨later.pending, suppressed⟩]) added
        (by rw [hcommands, hlater, List.append_assoc, List.cons_append]) hfirst
  | true =>
    have hcommands : (later.close suppressed).commands = later.commands := by
      simp [Builder.close, hblank]
    cases h with
    | pending added hlater hpending =>
      -- The text of the mark is dropped too, so there has to be none.
      have hempty : b.pending = "" := by
        rcases hb with hempty | hfilled
        · exact hempty
        · rw [hpending, Text.isBlank_append_left hfilled] at hblank
          cases hblank
      exact .pending "" (hcommands.trans hlater) (by rw [hempty]; rfl)
    | closed first rest added hlater hfirst =>
      exact .closed first rest added (hcommands.trans hlater) hfirst

theorem Kept.grow {b later next : Builder} {added : String} (h : Kept b later)
    (hcommands : next.commands = later.commands) (hpending : next.pending = later.pending ++ added) :
    Kept b next := by
  cases h with
  | pending more hlater htext =>
    exact .pending (more ++ added) (hcommands.trans hlater)
      (by rw [hpending, htext, String.append_assoc])
  | closed first rest more hlater hfirst =>
    exact .closed first rest more (hcommands.trans hlater) hfirst

theorem Kept.apply {b later : Builder} (hb : b.KeepsText) (h : Kept b later) (e : Edit) :
    Kept b (later.apply e) := by
  cases e with
  | append text =>
    rw [Builder.apply, append]
    split
    · exact h
    · exact h.grow rfl (String.append_assoc ..)
  | breakLine => exact h.grow rfl rfl
  | indent => exact h.grow rfl String.append_empty.symm
  | dedent => exact h.grow rfl String.append_empty.symm
  | close suppressed => exact h.close hb suppressed

theorem Kept.run {b later : Builder} (hb : b.KeepsText) (h : Kept b later) (es : List Edit) :
    Kept b (later.run es) := by
  induction es generalizing later with
  | nil => exact h
  | cons e es ih => exact ih (h.apply hb e)

theorem Kept.rollback? {b later : Builder} (h : Kept b later) :
    later.rollback? b.mark = some
      { b with atLineStart := startsLine b.pending } := by
  have hcut (added : String) :
      Text.cut? (b.pending.toList ++ added.toList) b.pending.utf8ByteSize =
        some b.pending.toList := by
    rw [← Text.byteLength_toList, Text.cut?_append]
  cases h with
  | pending added hcommands hpending =>
    simp [Builder.rollback?, mark, hcommands, hpending, hcut]
  | closed first rest added hcommands hfirst =>
    simp [Builder.rollback?, mark, hcommands, hfirst, hcut]

/-- Once text that is not blank was appended, whatever follows can be taken back. -/
theorem rollback?_run (b : Builder) {text : String} (h : Text.isBlank text = false)
    (es : List Edit) :
    ((b.append text).run es).rollback? b.mark = some
      { b with atLineStart := startsLine b.pending } := by
  have hne : text ≠ "" := by
    rintro rfl
    simp [Text.isBlank] at h
  have hpending : (b.append text).pending =
      b.pending ++ ((if b.atLineStart then indentation b.depth else "") ++ text) := by
    rw [append, if_neg hne, String.append_assoc]
  have hfilled : (b.append text).KeepsText := .inr (by simp [hpending, h])
  have hcommands : (b.append text).commands = b.commands := by rw [append, if_neg hne]
  exact (((kept_refl _).run hfilled es).of_append hcommands hpending).rollback?

theorem rollback?_mark (b : Builder) :
    b.rollback? b.mark = some { b with atLineStart := startsLine b.pending } :=
  (kept_refl b).rollback?

end SchemaDdl.Builder
