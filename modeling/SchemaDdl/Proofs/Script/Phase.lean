import SchemaDdl.Script.Render

/-!
# From one command to the next

A rendering is either between two commands or inside one. It enters a command
with text that is not blank and leaves it only at the depth at which it came
in, so every command that it closes has text, and between two commands
nothing is pending.
-/

namespace SchemaDdl

inductive Phase where
  | between
  /-- Inside a command, some levels deeper than where it began. -/
  | inside (depth : Nat)
  deriving DecidableEq

namespace Phase

/-- Where an edit leads to, if it may be made. -/
def step? : Phase → Edit → Option Phase
  | between, .append text => if Text.isBlank text then none else some (inside 0)
  | inside depth, .append _ => some (inside depth)
  | inside depth, .breakLine => some (inside depth)
  | inside depth, .indent => some (inside (depth + 1))
  | inside (depth + 1), .dedent => some (inside depth)
  | inside 0, .close _ => some between
  | _, _ => none

def Fits : Phase → Builder → Prop
  | between, b => b.pending = "" ∧ b.depth = 0 ∧ b.atLineStart = true
  | inside depth, b => Text.isBlank b.pending = false ∧ b.depth = depth

theorem fits_append {b : Builder} {depth : Nat} {text : String} (hdepth : b.depth = depth)
    (h : Text.isBlank b.pending = false ∨ Text.isBlank text = false) :
    (inside depth).Fits (b.append text) := by
  rw [Builder.append]
  split
  · next hempty =>
    subst hempty
    exact ⟨h.resolve_right (by simp [Text.isBlank]), hdepth⟩
  · refine ⟨?_, hdepth⟩
    rcases h with h | h <;> simp [h]

theorem Fits.apply {p next : Phase} {b : Builder} {e : Edit} (h : p.Fits b)
    (hstep : p.step? e = some next) : next.Fits (b.apply e) := by
  cases p with
  | between =>
    -- Only text that is not blank may begin a command.
    cases e with
    | append text =>
      simp only [step?] at hstep
      split at hstep
      · cases hstep
      · next hblank =>
        cases hstep
        exact fits_append h.2.1 (.inr (eq_false_of_ne_true hblank))
    | _ => cases hstep
  | inside depth =>
    obtain ⟨hpending, hdepth⟩ := h
    cases e with
    | append text =>
      cases hstep
      exact fits_append hdepth (.inl hpending)
    | breakLine =>
      cases hstep
      exact ⟨by simp [Builder.apply, Builder.breakLine, hpending], hdepth⟩
    | indent =>
      cases hstep
      exact ⟨hpending, by simp [Builder.apply, Builder.indent, hdepth]⟩
    | dedent =>
      cases depth with
      | zero => cases hstep
      | succ depth =>
        cases hstep
        exact ⟨hpending, by simp [Builder.apply, Builder.dedent, hdepth]⟩
    | close suppressed =>
      cases depth with
      | zero =>
        cases hstep
        exact ⟨rfl, hdepth, rfl⟩
      | succ depth => cases hstep

end Phase

namespace Render

variable {α β : Type}

/-- From the first phase on every edit may be made, and success ends in the second one. -/
def Moves : Phase → Render α → Phase → Prop
  | p, done (.ok _), q => p = q
  | _, done (.error _), _ => True
  | p, write e next, q => ∃ middle, p.step? e = some middle ∧ Moves middle next q
  | p, ask _ next, q => ∀ found, Moves p (next found) q

theorem Moves.bind {p q s : Phase} {r : Render α} {f : α → Render β} (h : Moves p r q)
    (hf : ∀ a, Moves q (f a) s) : Moves p (r >>= f) s := by
  induction r generalizing p with
  | done result =>
    cases result with
    | ok a =>
      cases h
      exact hf a
    | error e => trivial
  | write e next ih =>
    obtain ⟨middle, hstep, hnext⟩ := h
    exact ⟨middle, hstep, ih hnext⟩
  | ask q next ih => exact fun found => ih found (h found)

theorem Moves.fits {p q : Phase} {r : Render α} {b : Builder} {memo : Memo} {a : α}
    (h : Moves p r q) (hb : p.Fits b) (hok : (r memo).result = .ok a) :
    q.Fits (b.run (r memo).edits) := by
  induction r generalizing p b memo with
  | done result =>
    cases hok
    cases h
    exact hb
  | write e next ih =>
    obtain ⟨middle, hstep, hnext⟩ := h
    exact ih hnext (hb.apply hstep) hok
  | ask q next ih => exact ih _ (h _) hb hok

/-- What starts between two commands makes no edit or begins with text that is not blank. -/
theorem Moves.edits_eq {q : Phase} {r : Render α} (h : Moves .between r q) (memo : Memo) :
    (r memo).edits = [] ∨ ∃ text es, (r memo).edits = .append text :: es ∧
      Text.isBlank text = false := by
  induction r generalizing memo with
  | done result => exact .inl rfl
  | write e next ih =>
    obtain ⟨middle, hstep, hnext⟩ := h
    cases e with
    | append text =>
      simp only [Phase.step?] at hstep
      split at hstep
      · cases hstep
      · next hblank => exact .inr ⟨text, _, rfl, eq_false_of_ne_true hblank⟩
    | _ => cases hstep
  | ask q next ih => exact ih _ (h _) _

theorem moves_begin {text : String} (h : Text.isBlank text = false) :
    Moves .between (append text) (.inside 0) :=
  ⟨.inside 0, by simp [Phase.step?, h], rfl⟩

theorem moves_close (suppressed : Bool) : Moves (.inside 0) (close suppressed) .between :=
  ⟨.between, rfl, rfl⟩

theorem moves_indent (depth : Nat) : Moves (.inside depth) indent (.inside (depth + 1)) :=
  ⟨.inside (depth + 1), rfl, rfl⟩

theorem moves_dedent (depth : Nat) : Moves (.inside (depth + 1)) dedent (.inside depth) :=
  ⟨.inside depth, rfl, rfl⟩

/-! ## No edits, and text alone -/

/-- A rendering that makes no edit. -/
def Silent : Render α → Prop
  | done _ => True
  | write _ _ => False
  | ask _ next => ∀ found, (next found).Silent

theorem Silent.bind {r : Render α} {f : α → Render β} (h : r.Silent) (hf : ∀ a, (f a).Silent) :
    (r >>= f).Silent := by
  induction r with
  | done result =>
    cases result with
    | ok a => exact hf a
    | error e => trivial
  | write e next _ => exact h.elim
  | ask q next ih => exact fun found => ih found (h found)

theorem Silent.moves {r : Render α} (h : r.Silent) (p : Phase) : Moves p r p := by
  induction r with
  | done result =>
    cases result with
    | ok a => rfl
    | error e => trivial
  | write e next _ => exact h.elim
  | ask q next ih => exact fun found => ih found (h found)

theorem silent_ofResult (result : Result α) : (ofResult result).Silent := trivial

theorem silent_find (q : TypeQuery) : (find q).Silent := fun _ => trivial

theorem silent_require (q : TypeQuery) : (require q).Silent := fun _ => trivial

theorem Silent.onlyIf {condition : Prop} [Decidable condition] {part : Render Unit}
    (h : part.Silent) : (Render.onlyIf condition part).Silent := by
  rw [Render.onlyIf]
  split
  · exact h
  · trivial

/-- A rendering that only adds text and ends lines. -/
def Inline : Render α → Prop
  | done _ => True
  | write (.append _) next => next.Inline
  | write .breakLine next => next.Inline
  | write _ _ => False
  | ask _ next => ∀ found, (next found).Inline

theorem Silent.inline {r : Render α} (h : r.Silent) : r.Inline := by
  induction r with
  | done result => trivial
  | write e next _ => exact h.elim
  | ask q next ih => exact fun found => ih found (h found)

theorem Inline.moves {r : Render α} (h : r.Inline) (depth : Nat) :
    Moves (.inside depth) r (.inside depth) := by
  induction r with
  | done result =>
    cases result with
    | ok a => rfl
    | error e => trivial
  | write e next ih =>
    cases e with
    | append text => exact ⟨.inside depth, rfl, ih h⟩
    | breakLine => exact ⟨.inside depth, rfl, ih h⟩
    | _ => exact h.elim
  | ask q next ih => exact fun found => ih found (h found)

theorem Inline.bind {r : Render α} {f : α → Render β} (h : r.Inline) (hf : ∀ a, (f a).Inline) :
    (r >>= f).Inline := by
  induction r with
  | done result =>
    cases result with
    | ok a => exact hf a
    | error e => trivial
  | write e next ih =>
    cases e with
    | append text => exact ih h
    | breakLine => exact ih h
    | _ => exact h.elim
  | ask q next ih => exact fun found => ih found (h found)

theorem inline_append (text : String) : (append text).Inline := trivial

theorem inline_breakLine : breakLine.Inline := trivial

theorem inline_appendLine (text : String) : (appendLine text).Inline := trivial

theorem inline_appendName (object : ObjectName) : (appendName object).Inline :=
  (silent_ofResult _).inline.bind inline_append

theorem Inline.onlyIf {condition : Prop} [Decidable condition] {part : Render Unit}
    (h : part.Inline) : (Render.onlyIf condition part).Inline := by
  rw [Render.onlyIf]
  split
  · exact h
  · trivial

theorem inline_optionally {about : Option α} {part : α → Render Unit}
    (h : ∀ a, (part a).Inline) : (optionally about part).Inline := by
  cases about with
  | none => trivial
  | some a => exact h a

theorem inline_commaLines {parts : List (Render Unit)} (h : ∀ part ∈ parts, part.Inline) :
    (commaLines parts).Inline := by
  induction parts with
  | nil => trivial
  | cons part parts ih =>
    have hpart := h part List.mem_cons_self
    have hparts := ih fun p hp => h p (List.mem_cons_of_mem part hp)
    cases parts with
    | nil => exact hpart
    | cons next rest => exact hpart.bind fun _ => (inline_appendLine ",").bind fun _ => hparts

/-! ## Text on one line -/

/-- A rendering that only adds text and ends no line. -/
def Plain : Render α → Prop
  | done _ => True
  | write (.append _) next => next.Plain
  | write _ _ => False
  | ask _ next => ∀ found, (next found).Plain

theorem Silent.plain {r : Render α} (h : r.Silent) : r.Plain := by
  induction r with
  | done result => trivial
  | write e next _ => exact h.elim
  | ask q next ih => exact fun found => ih found (h found)

theorem Plain.inline {r : Render α} (h : r.Plain) : r.Inline := by
  induction r with
  | done result => trivial
  | write e next ih =>
    cases e with
    | append text => exact ih h
    | _ => exact h.elim
  | ask q next ih => exact fun found => ih found (h found)

theorem Plain.bind {r : Render α} {f : α → Render β} (h : r.Plain) (hf : ∀ a, (f a).Plain) :
    (r >>= f).Plain := by
  induction r with
  | done result =>
    cases result with
    | ok a => exact hf a
    | error e => trivial
  | write e next ih =>
    cases e with
    | append text => exact ih h
    | _ => exact h.elim
  | ask q next ih => exact fun found => ih found (h found)

theorem plain_append (text : String) : (append text).Plain := trivial

theorem plain_appendName (object : ObjectName) : (appendName object).Plain :=
  (silent_ofResult _).plain.bind plain_append

theorem Plain.onlyIf {condition : Prop} [Decidable condition] {part : Render Unit}
    (h : part.Plain) : (Render.onlyIf condition part).Plain := by
  rw [Render.onlyIf]
  split
  · exact h
  · trivial

theorem plain_optionally {about : Option α} {part : α → Render Unit}
    (h : ∀ a, (part a).Plain) : (optionally about part).Plain := by
  cases about with
  | none => trivial
  | some a => exact h a

structure Clause (r : Render α) : Prop where
  plain : r.Plain
  begins : Moves .between r (.inside 0)

theorem Clause.bind {r : Render α} {f : α → Render β} (h : r.Clause) (hf : ∀ a, (f a).Plain) :
    (r >>= f).Clause :=
  ⟨h.plain.bind hf, h.begins.bind fun a => (hf a).inline.moves 0⟩

theorem Silent.clause {r : Render α} {f : α → Render β} (h : r.Silent)
    (hf : ∀ a, (f a).Clause) : (r >>= f).Clause :=
  ⟨h.plain.bind fun a => (hf a).plain, (h.moves _).bind fun a => (hf a).begins⟩

theorem clause_append {text : String} (h : Text.isBlank text = false) : (append text).Clause :=
  ⟨plain_append text, moves_begin h⟩

end Render

end SchemaDdl
