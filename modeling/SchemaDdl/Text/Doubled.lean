/-!
# Quotation by doubling

A text is put between two quote characters and every such character inside
it is written twice. Reading stops at the first quote that stands alone.
-/

namespace SchemaDdl.Text

/-- Every `quote` is written twice. -/
def double (quote : Char) : List Char → List Char
  | [] => []
  | c :: cs => if c = quote then quote :: quote :: double quote cs else c :: double quote cs

def enclose (quote : Char) (s : String) : String :=
  String.ofList (quote :: (double quote s.toList ++ [quote]))

/-- The text up to the quote that ends it, and what follows that quote. -/
def undouble? (quote : Char) : List Char → Option (List Char × List Char)
  | [] => none
  | [c] => if c = quote then some ([], []) else none
  | c :: d :: cs =>
    if c = quote then
      if d = quote then (undouble? quote cs).map fun (text, rest) => (quote :: text, rest)
      else some ([], d :: cs)
    else (undouble? quote (d :: cs)).map fun (text, rest) => (c :: text, rest)

@[simp] theorem double_nil (quote : Char) : double quote [] = [] := rfl

theorem toList_enclose (quote : Char) (s : String) :
    (enclose quote s).toList = quote :: (double quote s.toList ++ [quote]) := by
  simp [enclose]

theorem double_eq_self {quote : Char} {cs : List Char} (h : quote ∉ cs) :
    double quote cs = cs := by
  induction cs with
  | nil => rfl
  | cons c cs ih =>
    rw [List.mem_cons, not_or] at h
    rw [double, if_neg (Ne.symm h.1), ih h.2]

/-- A text with its quotes written twice ends at the first quote that stands alone. -/
theorem undouble?_double (quote : Char) (cs : List Char) {rest : List Char}
    (h : rest.head? ≠ some quote) :
    undouble? quote (double quote cs ++ quote :: rest) = some (cs, rest) := by
  induction cs with
  | nil =>
    cases rest with
    | nil => simp [undouble?]
    | cons d rest =>
      have hd : d ≠ quote := fun heq => h (by rw [heq]; rfl)
      simp [undouble?, hd]
  | cons c cs ih =>
    by_cases hc : c = quote
    · simp [double, hc, undouble?, ih]
    · cases hmore : double quote cs ++ quote :: rest with
      | nil => simp at hmore
      | cons d more =>
        rw [hmore] at ih
        simp [double, hc, hmore, undouble?, ih]

end SchemaDdl.Text
