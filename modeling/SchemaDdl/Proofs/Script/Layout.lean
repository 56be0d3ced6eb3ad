import Mathlib.Data.List.Induction
import SchemaDdl.Proofs.Script.Commands

/-!
# The layout of a script

What a builder holds is told by the edits alone: each of them writes a text that
depends on the edits before it, and the closes cut the whole text into segments.
The commands are the segments that are not blank, and what is pending is the
last one.
-/

namespace SchemaDdl

namespace Edit

def endsLine : Edit → Bool
  | breakLine => true
  | close _ => true
  | _ => false

def hasText : Edit → Bool
  | append text => text ≠ ""
  | _ => false

/-- No text was appended since the edits began, a line was ended or a command was closed. -/
def lineIsEmpty (before : List Edit) : Bool :=
  (before.reverse.takeWhile fun e => !e.endsLine).all fun e => !e.hasText

/-- The level after an edit. There is none below zero. -/
def shift (level : Nat) : Edit → Nat
  | indent => level + 1
  | dedent => level - 1
  | _ => level

def level (before : List Edit) : Nat := before.foldl shift 0

/-- What an edit writes after others. Text is indented if it is the first in its line. -/
def written (before : List Edit) : Edit → String
  | append text =>
    if text ≠ "" ∧ lineIsEmpty before then
      String.ofList (List.replicate (4 * level before) ' ') ++ text
    else text
  | breakLine => "\n"
  | _ => ""

def laidOut (before : List Edit) : List Edit → List (Edit × String)
  | [] => []
  | e :: es => (e, written before e) :: laidOut (before ++ [e]) es

/-- The texts up to each close, blank ones as well, and the one behind the last close. -/
def segments : List (Edit × String) → List Command × String
  | [] => ([], "")
  | (close suppressed, _) :: rest => (⟨"", suppressed⟩ :: (segments rest).1, (segments rest).2)
  | (_, text) :: rest =>
    match segments rest with
    | ([], last) => ([], text ++ last)
    | (first :: closed, last) => ({ first with text := text ++ first.text } :: closed, last)

theorem lineIsEmpty_concat (es : List Edit) (e : Edit) :
    lineIsEmpty (es ++ [e]) = (e.endsLine || (!e.hasText && lineIsEmpty es)) := by
  cases hends : e.endsLine <;> simp [lineIsEmpty, hends]

theorem level_concat (es : List Edit) (e : Edit) : level (es ++ [e]) = shift (level es) e :=
  List.foldl_append

theorem laidOut_concat (before es : List Edit) (e : Edit) :
    laidOut before (es ++ [e]) = laidOut before es ++ [(e, written (before ++ es) e)] := by
  induction es generalizing before with
  | nil => simp [laidOut]
  | cons first es ih => simp [laidOut, ih]

theorem segments_concat_close (ps : List (Edit × String)) (suppressed : Bool) (text : String) :
    segments (ps ++ [(close suppressed, text)]) =
      ((segments ps).1 ++ [⟨(segments ps).2, suppressed⟩], "") := by
  induction ps with
  | nil => rfl
  | cons p ps ih =>
    obtain ⟨e, first⟩ := p
    cases e with
    | close other => simp [segments, ih]
    | _ =>
      simp only [List.cons_append, segments, ih]
      cases segments ps with
      | mk closed last => cases closed <;> rfl

/-- What is written behind the last close belongs to the last segment. -/
theorem segments_concat_of_open (ps : List (Edit × String)) (e : Edit)
    (h : ∀ suppressed, e ≠ close suppressed) (text : String) :
    segments (ps ++ [(e, text)]) = ((segments ps).1, (segments ps).2 ++ text) := by
  induction ps with
  | nil =>
    cases e with
    | close suppressed => exact absurd rfl (h suppressed)
    | _ => simp [segments]
  | cons p ps ih =>
    obtain ⟨e', first⟩ := p
    cases e' with
    | close other => simp [segments, ih]
    | _ =>
      simp only [List.cons_append, segments, ih]
      cases segments ps with
      | mk closed last => cases closed <;> simp [String.append_assoc]

theorem join_segments (before es : List Edit) :
    String.join ((segments (laidOut before es)).1.map Command.text) ++
        (segments (laidOut before es)).2 =
      String.join ((laidOut before es).map Prod.snd) := by
  induction es using List.reverseRecOn with
  | nil => rfl
  | append_singleton es e ih =>
    rw [laidOut_concat, List.map_append, String.join_append, ← ih]
    by_cases h : ∃ suppressed, e = close suppressed
    · obtain ⟨suppressed, rfl⟩ := h
      simp [segments_concat_close, written]
    · rw [segments_concat_of_open _ e (not_exists.1 h)]
      simp [String.append_assoc]

end Edit

namespace Builder

open Edit

/-- What a builder holds after edits, told by the edits alone. -/
theorem run_eq_segments (es : List Edit) :
    ({} : Builder).run es = {
      commands := (segments (laidOut [] es)).1.filter fun c => !Text.isBlank c.text
      pending := (segments (laidOut [] es)).2
      depth := level es
      atLineStart := lineIsEmpty es } := by
  -- From the end of the run, as one more edit concerns nothing but the last segment.
  induction es using List.reverseRecOn with
  | nil => rfl
  | append_singleton es e ih =>
    rw [run_append, ih, laidOut_concat, List.nil_append, level_concat, lineIsEmpty_concat, run_cons,
      run_nil]
    have hopen := segments_concat_of_open (laidOut [] es)
    cases e with
    | append text =>
      rw [hopen (.append text) (by simp), apply, append]
      by_cases htext : text = ""
      · simp [htext, written, shift, endsLine, hasText]
      · cases hline : lineIsEmpty es <;>
          simp [htext, hline, written, shift, endsLine, hasText, indentation, String.append_assoc]
    | breakLine =>
      rw [hopen .breakLine (by simp)]
      rfl
    | indent =>
      rw [hopen .indent (by simp)]
      simp [apply, indent, written, shift, endsLine, hasText]
    | dedent =>
      rw [hopen .dedent (by simp)]
      simp [apply, dedent, written, shift, endsLine, hasText]
    | close suppressed =>
      rw [segments_concat_close]
      cases hblank : Text.isBlank (segments (laidOut [] es)).2 <;>
        simp [apply, close, hblank, shift, endsLine]

theorem run_chunks (b : Builder) (chunks : List String) :
    b.run (chunks.map .append) = b.append (String.join chunks) := by
  induction chunks generalizing b with
  | nil => simp [append]
  | cons chunk chunks ih =>
    rw [List.map_cons, run_cons, apply, ih, append_append, String.join_cons]

theorem commands_prefix_run (b : Builder) (es : List Edit) :
    b.commands <+: (b.run es).commands := by
  have hrun := run_behind b.commands { b with commands := [] } es
  have hself : behind b.commands { b with commands := [] } = b := by simp [behind]
  rw [hself] at hrun
  rw [hrun]
  exact List.prefix_append _ _

/-- Text is neither lost nor invented. It does not matter in how many pieces a text is appended, the
closed commands are never blank and only grow at the end, and together with the pending text they
are the whole layout, cut at the closes, without the segments that are blank. -/
theorem run_layout :
    (∀ before chunks later, ({} : Builder).run (before ++ .append (String.join chunks) :: later) =
        ({} : Builder).run (before ++ chunks.map .append ++ later)) ∧
      (∀ es later,
        (({} : Builder).run es).commands <+: (({} : Builder).run (es ++ later)).commands ∧
        ∀ c ∈ (({} : Builder).run es).commands, Text.isBlank c.text = false) ∧
      ∀ es, (({} : Builder).run es).commands =
          (segments (laidOut [] es)).1.filter (fun c => !Text.isBlank c.text) ∧
        (({} : Builder).run es).pending = (segments (laidOut [] es)).2 ∧
        String.join ((segments (laidOut [] es)).1.map Command.text) ++
            (segments (laidOut [] es)).2 =
          String.join ((laidOut [] es).map Prod.snd) := by
  refine ⟨?_, ?_, ?_⟩
  · intro before chunks later
    rw [List.append_assoc, run_append, run_append, run_append, run_chunks, run_cons, apply]
  · intro es later
    rw [run_append]
    exact ⟨commands_prefix_run _ _, isBlank_run (by simp) es⟩
  · intro es
    rw [run_eq_segments]
    exact ⟨rfl, rfl, join_segments [] es⟩

theorem run_layout_dropped :
    let es := [.indent, .append "", .append "a", .append "b", .breakLine, .close false, .breakLine,
      .close true, .dedent, .dedent, .append "c"]
    ({} : Builder).run es = ({} : Builder).run [.indent, .append "ab", .breakLine, .close false,
        .breakLine, .close true, .dedent, .dedent, .append "c"] ∧
      (({} : Builder).run es).commands = [⟨"    ab\n", false⟩] ∧
      (({} : Builder).run es).pending = "c" ∧
      String.join ((laidOut [] es).map Prod.snd) = "    ab\n" ++ "\n" ++ "c" := by
  intro es
  obtain ⟨hchunks, -, hsegments⟩ := run_layout
  have hpieces := hchunks [.indent] ["", "a", "b"] [.breakLine, .close false, .breakLine,
    .close true, .dedent, .dedent, .append "c"]
  obtain ⟨hcommands, hpending, hjoin⟩ := hsegments es
  refine ⟨hpieces.symm, ?_, ?_, ?_⟩
  · rw [hcommands]
    decide +kernel
  · rw [hpending]
    decide +kernel
  · rw [← hjoin]
    decide +kernel

end Builder

end SchemaDdl
