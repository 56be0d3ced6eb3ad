import SchemaDdl.Proofs.Script.Rollback

/-!
# When a mark leads back

A mark keeps neither the pending text nor whether it ended a line. So there is
a way back from every row of edits exactly if the pending text could not be
dropped as blank, and if it tells by its last character whether the next text
starts a line.
-/

namespace SchemaDdl.Builder

/-- After any edits the mark of `b` leads back to a builder with the same commands, text and depth,
which goes on as `b` itself would have. -/
def Reversible (b : Builder) : Prop :=
  ∀ es, ∃ back, (b.run es).rollback? b.mark = some back ∧
    back.commands = b.commands ∧ back.pending = b.pending ∧ back.depth = b.depth ∧
    ∀ later, (back.run later).commands = (b.run later).commands ∧
      (back.run later).pending = (b.run later).pending

theorem rollback?_run_of_keepsText {b : Builder} (h : b.KeepsText) (es : List Edit) :
    (b.run es).rollback? b.mark = some { b with atLineStart := startsLine b.pending } :=
  ((kept_refl b).run h es).rollback?

/-- A close drops blank text, and nothing of it is left to go back to. -/
theorem rollback?_close_of_isBlank {b : Builder} (h : Text.isBlank b.pending = true)
    (suppressed : Bool) :
    (b.close suppressed).rollback? b.mark = some { commands := b.commands, depth := b.depth } := by
  simp [Builder.rollback?, close, h, mark, Text.cut?, startsLine]

theorem pending_indent_append (b : Builder) :
    (b.run [.indent, .append "x"]).pending =
      b.pending ++ (if b.atLineStart then indentation (b.depth + 1) else "") ++ "x" := by
  have hx : "x" ≠ "" := by decide
  simp [apply, indent, append, hx]

theorem indentation_ne_empty (depth : Nat) : indentation (depth + 1) ≠ "" := by
  intro h
  have hlist := congrArg String.toList h
  simp [indentation] at hlist

theorem atLineStart_eq_of_pending {b c : Builder} (hdepth : c.depth = b.depth)
    (hpending : c.pending = b.pending)
    (h : (c.run [.indent, .append "x"]).pending = (b.run [.indent, .append "x"]).pending) :
    c.atLineStart = b.atLineStart := by
  rw [pending_indent_append, pending_indent_append, hdepth, hpending, String.append_assoc,
    String.append_assoc, String.append_right_inj, String.append_left_inj] at h
  have hne := indentation_ne_empty b.depth
  cases hc : c.atLineStart <;> cases hb : b.atLineStart <;> simp_all

/-- There is a way back from everything exactly if the pending text is empty or not blank, and ends
with the end of a line, if it is not empty, just when the next text starts one. -/
theorem reversible_iff (b : Builder) :
    b.Reversible ↔ b.KeepsText ∧ startsLine b.pending = b.atLineStart := by
  constructor
  · intro h
    refine ⟨?_, ?_⟩
    -- A close alone shows whether the text can be lost.
    · cases hblank : Text.isBlank b.pending with
      | false => exact .inr hblank
      | true =>
        obtain ⟨back, hback, -, hpending, -⟩ := h [.close false]
        rw [run_cons, run_nil, apply, rollback?_close_of_isBlank hblank] at hback
        cases hback
        exact .inl hpending.symm
    -- Without any edit only the start of a line can differ, and an indented text shows it.
    · obtain ⟨back, hback, -, hpending, hdepth, hlater⟩ := h []
      rw [run_nil, rollback?_mark] at hback
      have heq := atLineStart_eq_of_pending hdepth hpending (hlater [.indent, .append "x"]).2
      cases hback
      exact heq
  · rintro ⟨hkeeps, hstart⟩ es
    refine ⟨b, ?_, rfl, rfl, rfl, fun later => ⟨rfl, rfl⟩⟩
    rw [rollback?_run_of_keepsText hkeeps, hstart]

/-- A blank text that a close has dropped is not found again: the beginning of the next command
takes its place, or there is no way back at all. A text that ends its own line is found, but the
next one is indented then. -/
theorem not_reversible_blank :
    let blank := ({} : Builder).run [.append " "]
    let ended := ({} : Builder).run [.indent, .append "a\n"]
    (blank.run [.close false, .append "kept", .close false]).rollback? blank.mark =
        some { pending := "k", atLineStart := false } ∧
      (blank.run [.close false, .append "é"]).rollback? blank.mark = none ∧
      ¬blank.Reversible ∧
      (ended.rollback? ended.mark).map (fun back => (back.append "b").pending) =
        some "    a\n    b" ∧
      (ended.append "b").pending = "    a\nb" ∧ ¬ended.Reversible := by
  intro blank ended
  have hkept : (blank.run [.close false, .append "kept", .close false]).rollback? blank.mark =
      some { pending := "k", atLineStart := false } := by decide +kernel
  have hended : (ended.rollback? ended.mark).map (fun back => (back.append "b").pending) =
      some "    a\n    b" := by decide +kernel
  have hgoes : (ended.append "b").pending = "    a\nb" := by decide +kernel
  refine ⟨hkept, by decide +kernel, ?_, hended, hgoes, ?_⟩
  · intro h
    obtain ⟨back, hback, -, hpending, -⟩ := h [.close false, .append "kept", .close false]
    rw [hkept] at hback
    cases hback
    exact absurd hpending (by decide)
  · intro h
    obtain ⟨back, hback, -, -, -, hlater⟩ := h []
    rw [run_nil] at hback
    rw [hback, Option.map_some, Option.some.injEq] at hended
    have hsame : (back.append "b").pending = (ended.append "b").pending :=
      (hlater [.append "b"]).2
    rw [hended, hgoes] at hsame
    exact absurd hsame (by decide)

end SchemaDdl.Builder
