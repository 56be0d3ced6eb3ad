import SchemaDdl.Identifier
import SchemaDdl.Value

/-!
# The quoted parts of an SQL text

Identifiers stand between double quotes and literals between single ones, and
a quote inside is written twice. A reader with one state tells what is quoted
from what is not; a text made of fragments is read back as these fragments.
-/

namespace SchemaDdl.Sql

inductive Quoted where
  | identifier
  | literal
  deriving DecidableEq, Repr

namespace Quoted

def mark : Quoted → Char
  | identifier => '"'
  | literal => '\''

def opened? (c : Char) : Option Quoted :=
  if c = '"' then some identifier else if c = '\'' then some literal else none

end Quoted

/-- A character that is not quoted, or all that stands between two quotes. -/
inductive Piece where
  | plain (c : Char)
  | quoted (kind : Quoted) (text : String)
  deriving DecidableEq, Repr

namespace Piece

def plain? : Piece → Option Char
  | plain c => some c
  | quoted _ _ => none

def quoted? : Piece → Option (Quoted × String)
  | plain _ => none
  | quoted kind text => some (kind, text)

end Piece

/-- Where a reader is; a quote inside is only known to end the text by what follows it. -/
inductive Reader where
  | outside
  | inside (kind : Quoted) (text : List Char)
  | closing (kind : Quoted) (text : List Char)

namespace Reader

def read (c : Char) : Reader × List Piece :=
  match Quoted.opened? c with
  | some kind => (inside kind [], [])
  | none => (outside, [.plain c])

/-- Takes one character; the pieces that are complete come with the next state. -/
def step : Reader → Char → Reader × List Piece
  | outside, c => read c
  | inside kind text, c =>
    if c = kind.mark then (closing kind text, []) else (inside kind (text ++ [c]), [])
  | closing kind text, c =>
    if c = kind.mark then (inside kind (text ++ [c]), [])
    else ((read c).1, .quoted kind (String.ofList text) :: (read c).2)

/-- The end of the text, which must not be quoted. -/
def finish? : Reader → Option (List Piece)
  | outside => some []
  | inside _ _ => none
  | closing kind text => some [.quoted kind (String.ofList text)]

def run? : Reader → List Char → Option (List Piece)
  | r, [] => r.finish?
  | r, c :: cs => ((r.step c).1.run? cs).map ((r.step c).2 ++ ·)

end Reader

/-- The pieces of an SQL text that ends outside of quotes. -/
def lex? (s : String) : Option (List Piece) := Reader.outside.run? s.toList

def outsideText (pieces : List Piece) : String := String.ofList (pieces.filterMap Piece.plain?)

def quotedTexts (pieces : List Piece) : List (Quoted × String) := pieces.filterMap Piece.quoted?

def Unquoted (s : String) : Prop := ∀ c ∈ s.toList, Quoted.opened? c = none

instance (s : String) : Decidable (Unquoted s) := List.decidableBAll _ _

theorem unquoted_ofList {cs : List Char} (h : cs.all (fun c => Quoted.opened? c = none) = true) :
    Unquoted (String.ofList cs) := by
  simpa [Unquoted] using h

theorem Unquoted.append {s t : String} (hs : Unquoted s) (ht : Unquoted t) :
    Unquoted (s ++ t) := by
  intro c hc
  rw [String.toList_append, List.mem_append] at hc
  exact hc.elim (hs c) (ht c)

/-- A part of an SQL text: words of the language, or a text to be quoted. -/
inductive Fragment where
  | words (s : String)
  | quoted (kind : Quoted) (text : String)
  deriving DecidableEq, Repr

namespace Fragment

def sql : Fragment → String
  | words s => s
  | quoted kind text => Text.enclose kind.mark text

def pieces : Fragment → List Piece
  | words s => s.toList.map .plain
  | quoted kind text => [.quoted kind text]

def map (f : String → String) : Fragment → Fragment
  | words s => words s
  | quoted kind text => quoted kind (f text)

def texts : List Fragment → List (Quoted × String)
  | [] => []
  | words _ :: rest => texts rest
  | quoted kind text :: rest => (kind, text) :: texts rest

def render (fragments : List Fragment) : String := String.join (fragments.map sql)

/-- Words hold no quotes, and there are words between any two quoted texts: two of them in a row
would be read as one. -/
inductive Parted : List Fragment → Prop
  | nil : Parted []
  | words {s : String} {rest : List Fragment} (hs : s ≠ "" ∧ Unquoted s) (hrest : Parted rest) :
    Parted (words s :: rest)
  | last (kind : Quoted) (text : String) : Parted [quoted kind text]
  | quoted (kind : Quoted) (text : String) {s : String} {rest : List Fragment}
    (hrest : Parted (.words s :: rest)) : Parted (quoted kind text :: .words s :: rest)

end Fragment

namespace Reader

theorem run?_plain {c : Char} (h : Quoted.opened? c = none) (cs : List Char) :
    outside.run? (c :: cs) = (outside.run? cs).map (.plain c :: ·) := by
  simp [run?, step, read, h]

theorem run?_unquoted {text : List Char} (h : ∀ c ∈ text, Quoted.opened? c = none)
    (cs : List Char) :
    outside.run? (text ++ cs) = (outside.run? cs).map (text.map .plain ++ ·) := by
  induction text with
  | nil => simp
  | cons c text ih =>
    obtain ⟨hc, htext⟩ := List.forall_mem_cons.1 h
    rw [List.cons_append, run?_plain hc, ih htext, Option.map_map]
    rfl

theorem run?_double (kind : Quoted) (read text cs : List Char) :
    (inside kind read).run? (Text.double kind.mark text ++ kind.mark :: cs) =
      (closing kind (read ++ text)).run? cs := by
  induction text generalizing read with
  | nil => simp [run?, step]
  | cons c text ih =>
    by_cases h : c = kind.mark
    · simp [Text.double, h, run?, step, ih]
    · simp [Text.double, h, run?, step, ih]

theorem opened?_mark (kind : Quoted) : Quoted.opened? kind.mark = some kind := by
  cases kind <;> decide

/-- A quoted text is read back if the next character is no quote of its kind. -/
theorem run?_enclose (kind : Quoted) (text : String) {cs : List Char}
    (h : cs.head? ≠ some kind.mark) :
    outside.run? ((Text.enclose kind.mark text).toList ++ cs) =
      (outside.run? cs).map (.quoted kind text :: ·) := by
  have hopen : outside.run? ((Text.enclose kind.mark text).toList ++ cs) =
      (closing kind text.toList).run? cs := by
    rw [Text.toList_enclose, List.cons_append, List.append_assoc, List.singleton_append, run?]
    simp [step, read, opened?_mark, run?_double]
  rw [hopen]
  cases cs with
  | nil => simp [run?, finish?]
  | cons c cs =>
    have hc : c ≠ kind.mark := fun heq => h (by rw [heq]; rfl)
    simp only [run?, step, hc, if_false, String.ofList_toList, Option.map_map]
    rfl

end Reader

namespace Fragment

theorem render_cons (fragment : Fragment) (rest : List Fragment) :
    render (fragment :: rest) = fragment.sql ++ render rest := by
  simp [render]

theorem render_append (fragments more : List Fragment) :
    render (fragments ++ more) = render fragments ++ render more := by
  simp [render]

/-- What may stand after a quoted text: nothing, or words first. -/
def Follows (fragments : List Fragment) : Prop :=
  Parted fragments ∧ ∀ kind text, fragments.head? ≠ some (.quoted kind text)

theorem Follows.nil : Follows [] := ⟨.nil, fun _ _ h => nomatch h⟩

theorem Follows.words {s : String} {rest : List Fragment} (hs : s ≠ "" ∧ Unquoted s)
    (hrest : Parted rest) : Follows (.words s :: rest) :=
  ⟨.words hs hrest, fun _ _ h => nomatch h⟩

theorem Parted.append {fragments more : List Fragment} (h : Parted fragments)
    (hmore : Follows more) : Parted (fragments ++ more) := by
  induction h with
  | nil => exact hmore.1
  | words hs _ ih => exact .words hs ih
  | last kind text =>
    cases more with
    | nil => exact .last kind text
    | cons next rest =>
      cases next with
      | words s => exact .quoted kind text hmore.1
      | quoted other name => exact absurd rfl (hmore.2 other name)
  | quoted kind text _ ih => exact .quoted kind text ih

theorem Follows.append {fragments more : List Fragment} (h : Follows fragments)
    (hmore : Follows more) : Follows (fragments ++ more) := by
  refine ⟨h.1.append hmore, ?_⟩
  cases fragments with
  | nil => exact hmore.2
  | cons fragment rest => exact h.2

theorem head?_words {s : String} (h : s ≠ "" ∧ Unquoted s) (cs : List Char) (kind : Quoted) :
    (s.toList ++ cs).head? ≠ some kind.mark := by
  obtain ⟨hne, hunquoted⟩ := h
  cases hs : s.toList with
  | nil => exact absurd (String.toList_eq_nil_iff.1 hs) hne
  | cons c rest =>
    intro heq
    have hc : c = kind.mark := Option.some.inj heq
    have hopen := hunquoted c (by simp [hs])
    rw [hc, Reader.opened?_mark] at hopen
    cases hopen

/-- The text of fragments is read back as these fragments. -/
theorem Parted.lex?_render {fragments : List Fragment} (h : Parted fragments) :
    lex? (render fragments) = some (fragments.flatMap pieces) := by
  rw [lex?]
  induction h with
  | nil => rfl
  | words hs _ ih =>
    rw [render_cons, String.toList_append, sql, Reader.run?_unquoted hs.2, ih]
    rfl
  | last kind text =>
    rw [render_cons, String.toList_append, sql, Reader.run?_enclose kind text (by simp [render])]
    rfl
  | quoted kind text hrest ih =>
    cases hrest with
    | words hs hrest =>
      rw [render_cons, String.toList_append, sql, Reader.run?_enclose kind text, ih]
      · rfl
      · rw [render_cons, String.toList_append]
        exact head?_words hs _ kind

@[simp] theorem texts_append (fragments more : List Fragment) :
    texts (fragments ++ more) = texts fragments ++ texts more := by
  induction fragments with
  | nil => rfl
  | cons fragment rest ih =>
    cases fragment with
    | words s => exact ih
    | quoted kind text => exact congrArg ((kind, text) :: ·) ih

theorem quotedTexts_pieces (fragments : List Fragment) :
    quotedTexts (fragments.flatMap pieces) = texts fragments := by
  induction fragments with
  | nil => rfl
  | cons fragment rest ih =>
    rw [List.flatMap_cons, quotedTexts, List.filterMap_append]
    cases fragment with
    | words s =>
      have hwords : (s.toList.map Piece.plain).filterMap Piece.quoted? = [] := by
        simp [Piece.quoted?]
      rw [pieces, hwords]
      exact ih
    | quoted kind text => exact congrArg ((kind, text) :: ·) ih

theorem outsideText_map (f : String → String) (fragments : List Fragment) :
    outsideText ((fragments.map (map f)).flatMap pieces) =
      outsideText (fragments.flatMap pieces) := by
  induction fragments with
  | nil => rfl
  | cons fragment rest ih =>
    simp only [outsideText, String.ofList_inj] at ih ⊢
    rw [List.map_cons, List.flatMap_cons, List.flatMap_cons, List.filterMap_append,
      List.filterMap_append, ih]
    cases fragment with
    | words s => rfl
    | quoted kind text => rfl

end Fragment

end SchemaDdl.Sql
