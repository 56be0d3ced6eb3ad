import SchemaDdl.Proofs.Script.Commands

/-!
# Sentences

Most statements are sent alone: words begin a command, text follows, and the
terminator closes it. Some are sent in a row as one command, each with a
terminator of its own. Either way the command ends with the terminator and the
end of a line.
-/

namespace SchemaDdl

open Render

namespace Generator

variable (g : Generator)

theorem inline_endLine : g.endLine.Inline := inline_appendLine _

theorem inline_statement (text : String) : (g.statement text).Inline :=
  (inline_append text).bind fun _ => g.inline_endLine

theorem moves_terminate (suppressed : Bool) :
    Moves (.inside 0) (g.terminate suppressed) .between :=
  (g.inline_endLine.moves 0).bind fun _ => moves_close suppressed

theorem moves_terminateIf (wanted : Bool) :
    Moves (.inside 0) (g.terminateIf wanted) (if wanted then .between else .inside 0) := by
  cases wanted
  · rfl
  · exact g.moves_terminate false

theorem moves_statement {text : String} (h : Text.isBlank text = false) :
    Moves .between (g.statement text) (.inside 0) :=
  (moves_begin h).bind fun _ => g.inline_endLine.moves 0

end Generator

/-! ## One statement -/

variable {g : Generator} {suppressed : Bool} {α : Type}

/-- Inside a command, the rendering adds text, the terminator and the end of the line, and closes
the command. -/
structure Generator.Concludes (g : Generator) (suppressed : Bool) (r : Render Unit) : Prop where
  moves : Moves (.inside 0) r .between
  sends : r.result = .ok () → ∀ pending, Text.isBlank pending = false →
    ∃ more, r.Sends pending [⟨pending ++ more ++ g.terminator ++ "\n", suppressed⟩]

/-- Between two commands, the rendering sends one statement as a command. -/
structure Generator.Sentence (g : Generator) (suppressed : Bool) (r : Render Unit) : Prop where
  moves : Moves .between r .between
  sends : r.result = .ok () →
    ∃ body, r.Sends "" [⟨body ++ g.terminator ++ "\n", suppressed⟩]

theorem Generator.Sentence.exists_commands_eq {r : Render Unit} (h : g.Sentence suppressed r)
    (hok : r.result = .ok ()) :
    ∃ body, r.commands = [⟨body ++ g.terminator ++ "\n", suppressed⟩] := by
  obtain ⟨body, hsends⟩ := h.sends hok
  exact ⟨body, hsends.commands_eq⟩

namespace Render

theorem concludes_terminate : g.Concludes suppressed (g.terminate suppressed) where
  moves := g.moves_terminate suppressed
  sends _ pending hpending :=
    ⟨"", by simpa using sends_terminate g suppressed hpending⟩

theorem concludes_terminateIf : g.Concludes false (g.terminateIf true) := concludes_terminate

theorem Inline.concludes {r : Render α} {f : α → Render Unit} (h : r.Inline)
    (hf : ∀ a, g.Concludes suppressed (f a)) : g.Concludes suppressed (r >>= f) where
  moves := (h.moves 0).bind fun a => (hf a).moves
  sends hok pending hpending := by
    rw [result_bind] at hok
    obtain ⟨a, ha, hrest⟩ := Result.bind_eq_ok_iff.1 hok
    have hlonger : Text.isBlank (pending ++ r.text) = false :=
      Text.isBlank_append_left hpending r.text
    obtain ⟨more, hmore⟩ := (hf a).sends hrest _ hlonger
    refine ⟨r.text ++ more, ((h.writes ha).sends hmore).congr ?_⟩
    simp [String.append_assoc]

theorem sentence_words {text : String} {rest : Unit → Render Unit}
    (h : Text.isBlank text = false) (hrest : g.Concludes suppressed (rest ())) :
    g.Sentence suppressed (append text >>= rest) where
  moves := (moves_begin h).bind fun _ => hrest.moves
  sends hok := by
    obtain ⟨more, hmore⟩ := hrest.sends hok text h
    exact ⟨text ++ more, hmore.begin⟩

theorem Clause.sentence {r : Render α} {f : α → Render Unit} (h : r.Clause)
    (hf : ∀ a, g.Concludes suppressed (f a)) : g.Sentence suppressed (r >>= f) where
  moves := h.begins.bind fun a => (hf a).moves
  sends hok := by
    rw [result_bind] at hok
    obtain ⟨a, ha, hrest⟩ := Result.bind_eq_ok_iff.1 hok
    obtain ⟨more, hmore⟩ := (hf a).sends hrest r.text (h.isBlank_text ha)
    refine ⟨r.text ++ more, (h.plain.inline.writes ha).sends ?_⟩
    rwa [String.empty_append]

theorem Silent.sentence {r : Render α} {f : α → Render Unit} (h : r.Silent)
    (hf : ∀ a, g.Sentence suppressed (f a)) : g.Sentence suppressed (r >>= f) where
  moves := (h.moves _).bind fun a => (hf a).moves
  sends hok := by
    rw [result_bind] at hok
    obtain ⟨a, ha, hrest⟩ := Result.bind_eq_ok_iff.1 hok
    obtain ⟨body, hbody⟩ := (hf a).sends hrest
    refine ⟨body, (h.writes ha).sends ?_⟩
    rwa [String.append_empty]

theorem sentence_unsupported (kind target : String) :
    g.Sentence suppressed (unsupported kind target) where
  moves := trivial
  sends hok := by cases hok

end Render

/-! ## Statements in a row -/

def Generator.lines (g : Generator) (statements : List String) : String :=
  String.join (statements.map fun statement => statement ++ g.terminator ++ "\n")

namespace Generator

@[simp] theorem lines_nil : g.lines [] = "" := rfl

@[simp] theorem lines_cons (statement : String) (statements : List String) :
    g.lines (statement :: statements) =
      statement ++ g.terminator ++ "\n" ++ g.lines statements := by
  rw [lines, List.map_cons, String.join_cons]
  rfl

theorem lines_append (first second : List String) :
    g.lines (first ++ second) = g.lines first ++ g.lines second := by
  rw [lines, List.map_append, String.join_append]
  rfl

/-- After the first statement there is a terminator before each statement and at the end. -/
theorem lines_cons_eq (first : String) (rest : List String) :
    g.lines (first :: rest) =
      first ++ String.join (rest.map fun statement => g.terminator ++ "\n" ++ statement) ++
        g.terminator ++ "\n" := by
  induction rest generalizing first with
  | nil => simp
  | cons next rest ih =>
    rw [lines_cons, ih, List.map_cons, String.join_cons]
    simp only [String.append_assoc]

theorem exists_lines_eq {statements : List String} (h : statements ≠ []) :
    ∃ body, g.lines statements = body ++ g.terminator ++ "\n" := by
  induction statements with
  | nil => exact absurd rfl h
  | cons statement statements ih =>
    by_cases hlast : statements = []
    · exact ⟨statement, by simp [hlast]⟩
    · obtain ⟨body, hbody⟩ := ih hlast
      exact ⟨statement ++ g.terminator ++ "\n" ++ body, by simp [hbody, String.append_assoc]⟩

end Generator

theorem Render.writes_statements (g : Generator) (statements : List String) :
    (statements.forM g.statement).Writes () (g.lines statements) := by
  induction statements with
  | nil => exact writes_pure ()
  | cons statement statements ih =>
    exact ((writes_statement g statement).then ih).congr (Generator.lines_cons ..).symm

end SchemaDdl
