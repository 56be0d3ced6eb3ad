import SchemaDdl.Generator
import SchemaDdl.Proofs.Names
import SchemaDdl.Proofs.Script.Phase
import SchemaDdl.Proofs.Script.Rendering

/-!
# The commands of a rendering

What closes a command does not look at the commands before it, so a rendering
has commands of its own. A statement that is written without indentation is
the text of its parts, up to where it is closed.
-/

namespace SchemaDdl

namespace Builder

def behind (earlier : List Command) (b : Builder) : Builder :=
  { b with commands := earlier ++ b.commands }

theorem apply_behind (earlier : List Command) (b : Builder) (e : Edit) :
    (b.behind earlier).apply e = (b.apply e).behind earlier := by
  cases e with
  | append text =>
    simp only [apply, append, behind]
    split <;> rfl
  | close suppressed =>
    simp only [apply, close, behind]
    split <;> simp [*]
  | _ => rfl

/-- Edits do not look at the commands that are closed. -/
theorem run_behind (earlier : List Command) (b : Builder) (es : List Edit) :
    (b.behind earlier).run es = (b.run es).behind earlier := by
  induction es generalizing b with
  | nil => rfl
  | cons e es ih => rw [run_cons, apply_behind, ih, run_cons]

theorem append_append (b : Builder) (s t : String) :
    (b.append s).append t = b.append (s ++ t) := by
  by_cases hs : s = ""
  · simp [append, hs]
  · by_cases ht : t = ""
    · simp [append, ht]
    · simp [append, hs, ht, String.append_assoc]

theorem isBlank_run {b : Builder} (h : ∀ c ∈ b.commands, Text.isBlank c.text = false)
    (es : List Edit) : ∀ c ∈ (b.run es).commands, Text.isBlank c.text = false := by
  induction es generalizing b with
  | nil => exact h
  | cons e es ih =>
    apply ih
    cases e with
    | append text =>
      simp only [apply, append]
      split
      · exact h
      · exact h
    | close suppressed =>
      simp only [apply, close]
      split
      · exact h
      · next hpending =>
        intro c hc
        rcases List.mem_append.1 hc with hc | hc
        · exact h c hc
        · rw [List.mem_singleton.1 hc]
          exact eq_false_of_ne_true hpending
    | _ => exact h

end Builder

theorem Phase.eq_of_fits_between {b : Builder} (h : between.Fits b) :
    b = { commands := b.commands } := by
  obtain ⟨hpending, hdepth, hstart⟩ := h
  cases b
  simp_all

namespace Render

def commands (r : Render Unit) : List Command := (({} : Builder).run r.edits).commands

theorem run_edits_idle {r : Render Unit} (hmoves : Moves .between r .between)
    (hok : r.result = .ok ()) (earlier : List Command) :
    ({ commands := earlier } : Builder).run r.edits = { commands := earlier ++ r.commands } := by
  obtain ⟨hedits, hresult, -⟩ := r.run_eq Memo.sound_empty
  have hfits : Phase.between.Fits (({} : Builder).run r.edits) := by
    rw [← hedits]
    exact hmoves.fits ⟨rfl, rfl, rfl⟩ (hresult.trans hok)
  calc
    ({ commands := earlier } : Builder).run r.edits
        = (({} : Builder).behind earlier).run r.edits := by
          rw [Builder.behind, List.append_nil]
    _ = (({} : Builder).run r.edits).behind earlier := Builder.run_behind ..
    _ = { commands := earlier ++ r.commands } := by
          rw [Phase.eq_of_fits_between hfits]
          rfl

theorem isBlank_commands (r : Render Unit) : ∀ c ∈ r.commands, Text.isBlank c.text = false := by
  apply Builder.isBlank_run
  simp

theorem commands_write_append (first second : String) (rest : Render Unit) :
    (write (.append (first ++ second)) rest).commands =
      (write (.append first) (write (.append second) rest)).commands := by
  simp only [commands, edits, Builder.run_cons, Builder.apply,
    Builder.append_append]

/-! ## Statements without indentation -/

variable {α β : Type}

/-- The rendering gives a result and adds a text to what is pending, where nothing is indented. -/
def Writes (r : Render α) (a : α) (text : String) : Prop :=
  r.result = .ok a ∧ ∀ pending atLineStart, ∃ atLineStart',
    ({ pending, atLineStart } : Builder).run r.edits =
      { pending := pending ++ text, atLineStart := atLineStart' }

/-- The rendering succeeds and closes these commands, where a text is pending and nothing is
indented. -/
def Sends (r : Render Unit) (pending : String) (commands : List Command) : Prop :=
  r.result = .ok () ∧ ∀ atLineStart,
    (({ pending, atLineStart } : Builder).run r.edits).commands = commands

theorem edits_pure (a : α) : (pure a : Render α).edits = [] := rfl

theorem writes_pure (a : α) : (pure a : Render α).Writes a "" :=
  ⟨rfl, fun pending atLineStart => ⟨atLineStart, by rw [String.append_empty]; rfl⟩⟩

theorem writes_append (text : String) : (append text).Writes () text := by
  refine ⟨rfl, fun pending atLineStart => ?_⟩
  by_cases hempty : text = ""
  · refine ⟨atLineStart, ?_⟩
    simp [append, edit, edits, edits_pure, Builder.apply, Builder.append, hempty]
  · refine ⟨false, ?_⟩
    cases atLineStart <;>
      simp [append, edit, edits, edits_pure, Builder.apply, Builder.append, hempty,
        Builder.indentation]

theorem writes_breakLine : breakLine.Writes () "\n" := ⟨rfl, fun _ _ => ⟨true, rfl⟩⟩

theorem writes_ofResult {result : Result α} {a : α} (h : result = .ok a) :
    (ofResult result).Writes a "" := by
  subst h
  exact writes_pure a

theorem Silent.edits_eq_nil {r : Render α} (h : r.Silent) : r.edits = [] := by
  induction r with
  | done result => rfl
  | write e next _ => exact h.elim
  | ask q next ih => exact ih _ (h _)

theorem Silent.writes {r : Render α} {a : α} (h : r.Silent) (hok : r.result = .ok a) :
    r.Writes a "" := by
  refine ⟨hok, fun pending atLineStart => ⟨atLineStart, ?_⟩⟩
  rw [h.edits_eq_nil, Builder.run_nil, String.append_empty]

theorem Writes.then {r : Render α} {f : α → Render β} {a : α} {b : β} {text more : String}
    (hr : r.Writes a text) (hf : (f a).Writes b more) : (r >>= f).Writes b (text ++ more) := by
  refine ⟨by rw [result_bind, hr.1]; exact hf.1, fun pending atLineStart => ?_⟩
  obtain ⟨middle, hmiddle⟩ := hr.2 pending atLineStart
  obtain ⟨last, hlast⟩ := hf.2 (pending ++ text) middle
  exact ⟨last, by rw [edits_bind hr.1, Builder.run_append, hmiddle, hlast, String.append_assoc]⟩

theorem Writes.congr {r : Render α} {a : α} {text other : String} (h : r.Writes a text)
    (heq : text = other) : r.Writes a other := heq ▸ h

theorem Writes.silently {r : Render α} {f : α → Render β} {a : α} {b : β} {text : String}
    (hr : r.Writes a "") (hf : (f a).Writes b text) : (r >>= f).Writes b text :=
  (hr.then hf).congr String.empty_append

theorem Writes.sends {r : Render α} {f : α → Render Unit} {a : α} {pending text : String}
    {commands : List Command} (hr : r.Writes a text) (hf : (f a).Sends (pending ++ text) commands) :
    (r >>= f).Sends pending commands := by
  refine ⟨by rw [result_bind, hr.1]; exact hf.1, fun atLineStart => ?_⟩
  obtain ⟨middle, hmiddle⟩ := hr.2 pending atLineStart
  rw [edits_bind hr.1, Builder.run_append, hmiddle, hf.2]

theorem writes_appendName {object : ObjectName} (h : object.Valid) :
    (appendName object).Writes () object.quoted := by
  have hparts := (writes_ofResult (ObjectName.delimit_eq_ok_iff.2 ⟨h, rfl⟩)).then
    (writes_append object.quoted)
  rwa [String.empty_append] at hparts

theorem clause_appendName (object : ObjectName) : (appendName object).Clause := by
  refine ⟨plain_appendName object, ?_⟩
  rw [appendName]
  cases hname : object.delimit with
  | error e => trivial
  | ok name =>
    obtain ⟨-, rfl⟩ := ObjectName.delimit_eq_ok_iff.1 hname
    exact moves_begin (object.isBlank_quoted)

theorem writes_optionally {about : Option α} {part : α → Render Unit} {text : α → String}
    (h : ∀ a ∈ about, (part a).Writes () (text a)) :
    (optionally about part).Writes () (about.elim "" text) := by
  cases about with
  | none => exact writes_pure ()
  | some a => exact h a rfl

theorem writes_onlyIf {condition : Prop} [Decidable condition] {part : Render Unit} {text : String}
    (h : condition → part.Writes () text) :
    (onlyIf condition part).Writes () (if condition then text else "") := by
  rw [onlyIf]
  split
  · next hcondition => exact h hcondition
  · exact writes_pure ()

/-! ## Text on its own -/

def text (r : Render α) : String := (({} : Builder).run (r Memo.empty).edits).pending

theorem text_eq (r : Render α) : r.text = (({} : Builder).run r.edits).pending := by
  rw [text, (r.run_eq Memo.sound_empty).1]

theorem Writes.text_eq {r : Render α} {a : α} {text : String} (h : r.Writes a text) :
    r.text = text := by
  obtain ⟨last, hrun⟩ := h.2 "" true
  rw [Render.text_eq, hrun, String.empty_append]

/-- Without indentation, added text and line ends give the same text everywhere. -/
theorem Inline.writes {r : Render α} {a : α} (h : r.Inline) (hok : r.result = .ok a) :
    r.Writes a r.text := by
  have hwrites : ∃ text, r.Writes a text := by
    induction r with
    | done result =>
      cases hok
      exact ⟨"", writes_pure a⟩
    | write e next ih =>
      cases e with
      | append text =>
        obtain ⟨more, hmore⟩ := ih h hok
        have hboth := Writes.then (f := fun _ => next) (writes_append text) hmore
        exact ⟨text ++ more, hboth⟩
      | breakLine =>
        obtain ⟨more, hmore⟩ := ih h hok
        have hboth := Writes.then (f := fun _ => next) writes_breakLine hmore
        exact ⟨"\n" ++ more, hboth⟩
      | _ => exact h.elim
    | ask q next ih =>
      obtain ⟨text, htext⟩ := ih _ (h _) hok
      exact ⟨text, htext⟩
  obtain ⟨text, htext⟩ := hwrites
  rwa [htext.text_eq]

/-- Text on one line is indented as a whole, wherever it stands. -/
theorem Plain.run_edits {r : Render α} (h : r.Plain) (b : Builder) :
    b.run r.edits = b.append r.text := by
  rw [text_eq]
  induction r generalizing b with
  | done result => rfl
  | write e next ih =>
    cases e with
    | append text =>
      have hnext := ih h (({} : Builder).append text)
      have halone (text : String) : (({} : Builder).append text).pending = text := by
        by_cases hempty : text = "" <;> simp [Builder.append, hempty, Builder.indentation]
      rw [Builder.append_append] at hnext
      rw [edits, Builder.run_cons, Builder.run_cons, Builder.apply, Builder.apply, ih h, hnext,
        halone, Builder.append_append]
    | _ => exact h.elim
  | ask q next ih => exact ih _ (h _) b

theorem Clause.isBlank_text {r : Render α} {a : α} (h : r.Clause) (hok : r.result = .ok a) :
    Text.isBlank r.text = false := by
  obtain ⟨hedits, hresult, -⟩ := r.run_eq Memo.sound_empty
  have hstart : Phase.between.Fits {} := ⟨rfl, rfl, rfl⟩
  exact (h.begins.fits hstart (hresult.trans hok)).1

theorem writes_endLine (g : Generator) : g.endLine.Writes () (g.terminator ++ "\n") :=
  (writes_append g.terminator).then writes_breakLine

theorem writes_statement (g : Generator) (text : String) :
    (g.statement text).Writes () (text ++ g.terminator ++ "\n") :=
  ((writes_append text).then (writes_endLine g)).congr (String.append_assoc ..).symm

theorem sends_close {pending : String} (h : Text.isBlank pending = false) (suppressed : Bool) :
    (close suppressed).Sends pending [⟨pending, suppressed⟩] := by
  refine ⟨rfl, fun atLineStart => ?_⟩
  have hedits : (close suppressed).edits = [.close suppressed] := rfl
  rw [hedits, Builder.run_cons, Builder.run_nil, Builder.apply, Builder.close, h]
  rfl

theorem run_terminate (g : Generator) (suppressed : Bool) {pending : String}
    (h : Text.isBlank pending = false) (atLineStart : Bool) :
    ({ pending, atLineStart } : Builder).run (g.terminate suppressed).edits =
      { commands := [⟨pending ++ g.terminator ++ "\n", suppressed⟩] } := by
  obtain ⟨middle, hline⟩ := (writes_endLine g).2 pending atLineStart
  have hedits : (g.terminate suppressed).edits = g.endLine.edits ++ [.close suppressed] := rfl
  rw [hedits, Builder.run_append, hline, Builder.run_cons, Builder.run_nil, Builder.apply,
    Builder.close, Text.isBlank_append_left h, String.append_assoc]
  rfl

theorem sends_terminate (g : Generator) (suppressed : Bool) {pending : String}
    (h : Text.isBlank pending = false) :
    (g.terminate suppressed).Sends pending [⟨pending ++ g.terminator ++ "\n", suppressed⟩] :=
  ⟨rfl, fun atLineStart => by rw [run_terminate g suppressed h]⟩

theorem Sends.begin {text : String} {f : Unit → Render Unit} {commands : List Command}
    (hf : (f ()).Sends text commands) : (append text >>= f).Sends "" commands :=
  (writes_append text).sends (by rwa [String.empty_append])

theorem Sends.after_terminate {g : Generator} {suppressed : Bool} {f : Unit → Render Unit}
    {pending : String} {rest : List Command} (hf : (f ()).Sends "" rest)
    (h : Text.isBlank pending = false) :
    (g.terminate suppressed >>= f).Sends pending
      (⟨pending ++ g.terminator ++ "\n", suppressed⟩ :: rest) := by
  refine ⟨hf.1, fun atLineStart => ?_⟩
  rw [edits_bind rfl, Builder.run_append, run_terminate g suppressed h]
  have hbehind := Builder.run_behind [⟨pending ++ g.terminator ++ "\n", suppressed⟩] {} (f ()).edits
  have hrest := hf.2 true
  rw [Builder.behind, List.append_nil] at hbehind
  rw [hbehind, Builder.behind, hrest]
  rfl

theorem Sends.congr {r : Render Unit} {pending : String} {commands others : List Command}
    (h : r.Sends pending commands) (heq : commands = others) : r.Sends pending others := heq ▸ h

theorem Sends.commands_eq {r : Render Unit} {commands : List Command} (h : r.Sends "" commands) :
    r.commands = commands := h.2 true

/-- Where nothing is pending or indented, the first text starts a line or might as well. -/
theorem Moves.run_edits {r : Render α} {q : Phase} (hmoves : Moves .between r q) {b : Builder}
    (hpending : b.pending = "") (hdepth : b.depth = 0) :
    r.edits = [] ∨ b.run r.edits = ({ commands := b.commands } : Builder).run r.edits := by
  obtain ⟨hedits, -, -⟩ := r.run_eq Memo.sound_empty
  rw [← hedits]
  rcases hmoves.edits_eq Memo.empty with hnil | ⟨text, es, hcons, hblank⟩
  · exact .inl hnil
  · have htext : text ≠ "" := by
      rintro rfl
      cases hblank
    have hfirst : b.append text = ({ commands := b.commands } : Builder).append text := by
      cases hstart : b.atLineStart <;>
        simp [Builder.append, htext, hpending, hdepth, hstart, Builder.indentation]
    rw [hcons, Builder.run_cons, Builder.run_cons]
    exact .inr (congrArg (·.run es) hfirst)

theorem Sends.run_edits {r : Render Unit} {sent : List Command} (h : r.Sends "" sent)
    (hmoves : Moves .between r .between) (hne : sent ≠ []) {b : Builder}
    (hpending : b.pending = "") (hdepth : b.depth = 0) :
    b.run r.edits = { commands := b.commands ++ sent } := by
  rw [← h.commands_eq, ← run_edits_idle hmoves h.1]
  refine (hmoves.run_edits hpending hdepth).resolve_left fun hnil => ?_
  rw [← h.commands_eq, commands, hnil] at hne
  exact hne rfl

theorem Sends.then {r : Render Unit} {f : Unit → Render Unit} {first rest : List Command}
    (hr : r.Sends "" first) (hmoves : Moves .between r .between) (hf : (f ()).Sends "" rest) :
    (r >>= f).Sends "" (first ++ rest) := by
  refine ⟨by rw [result_bind, hr.1]; exact hf.1, fun atLineStart => ?_⟩
  rw [edits_bind hr.1, Builder.run_append]
  rcases hmoves.run_edits (b := { pending := "", atLineStart }) rfl rfl with hnil | hrun
  · have hfirst := hr.commands_eq
    rw [commands, hnil] at hfirst
    rw [hnil, ← hfirst]
    exact hf.2 atLineStart
  · rw [hrun, run_edits_idle hmoves hr.1, hr.commands_eq, List.nil_append]
    have hbehind := Builder.run_behind first {} (f ()).edits
    rw [Builder.behind, List.append_nil] at hbehind
    rw [hbehind, Builder.behind, hf.2 true]

end Render

end SchemaDdl
