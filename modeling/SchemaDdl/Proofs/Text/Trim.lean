import SchemaDdl.Text.Blank

/-!
# What is cut off a text

Trimming takes white space off both ends of a text, and all of it: what is
left neither begins nor ends with white space, and is found again whatever
white space is put around it.
-/

namespace SchemaDdl.Text

def Spaces (cs : List Char) : Prop := ∀ c ∈ cs, isSpace c = true

def Trimmed (cs : List Char) : Prop :=
  (∀ c ∈ cs.head?, isSpace c = false) ∧ ∀ c ∈ cs.getLast?, isSpace c = false

instance (cs : List Char) : Decidable (Trimmed cs) :=
  decidable_of_iff (cs.head?.all (!isSpace ·) = true ∧ cs.getLast?.all (!isSpace ·) = true)
    (by simp [Trimmed, Option.all_eq_true])

theorem isSpace_eq_false {c : Char} (hlow : 33 ≤ c.toNat) (hhigh : c.toNat ≤ 126) :
    isSpace c = false := by
  simp [isSpace]
  omega

theorem trimmed_of_forall {cs : List Char} (h : ∀ c ∈ cs, isSpace c = false) : Trimmed cs :=
  ⟨fun c hc => h c (List.mem_of_mem_head? hc), fun c hc => h c (List.mem_of_mem_getLast? hc)⟩

theorem spaces_nil : Spaces [] := fun _ h => nomatch h

theorem trimStart_spaces_append {blanks : List Char} (h : Spaces blanks) (cs : List Char) :
    trimStart (blanks ++ cs) = trimStart cs :=
  List.dropWhile_append_of_pos h

theorem trimStart_eq_self {cs : List Char} (h : ∀ c ∈ cs.head?, isSpace c = false) :
    trimStart cs = cs := by
  cases cs with
  | nil => rfl
  | cons c cs => rw [trimStart_cons, h c rfl, if_neg Bool.false_ne_true]

theorem trimEnd_spaces {blanks : List Char} (h : Spaces blanks) : trimEnd blanks = [] := by
  induction blanks with
  | nil => rfl
  | cons c blanks ih =>
    rw [trimEnd, ih fun d hd => h d (List.mem_cons_of_mem c hd)]
    exact if_pos (h c List.mem_cons_self)

theorem trimEnd_append_spaces (cs : List Char) {blanks : List Char} (h : Spaces blanks) :
    trimEnd (cs ++ blanks) = trimEnd cs := by
  induction cs with
  | nil => exact trimEnd_spaces h
  | cons c cs ih => rw [List.cons_append, trimEnd, trimEnd, ih]

theorem trimEnd_eq_self {cs : List Char} (h : ∀ c ∈ cs.getLast?, isSpace c = false) :
    trimEnd cs = cs := by
  induction cs with
  | nil => rfl
  | cons c cs ih =>
    cases cs with
    | nil =>
      rw [trimEnd, trimEnd_nil]
      exact if_neg (by rw [h c rfl]; exact Bool.false_ne_true)
    | cons d cs => rw [trimEnd, ih h]

/-- White space around a trimmed text is cut off, and nothing else. -/
theorem trim_spaces_around {cs before after : List Char} (h : Trimmed cs) (hbefore : Spaces before)
    (hafter : Spaces after) : trim (before ++ (cs ++ after)) = cs := by
  rw [trim, trimStart_spaces_append hbefore]
  cases cs with
  | nil =>
    have hnone := trimStart_spaces_append hafter []
    rw [List.append_nil, trimStart_nil] at hnone
    rw [List.nil_append, hnone, trimEnd_nil]
  | cons c cs =>
    rw [trimStart_eq_self (by simpa using h.1), trimEnd_append_spaces _ hafter,
      trimEnd_eq_self h.2]

theorem exists_eq_trimStart (cs : List Char) :
    ∃ before, Spaces before ∧ cs = before ++ trimStart cs :=
  ⟨cs.takeWhile isSpace, List.all_eq_true.1 List.all_takeWhile,
    List.takeWhile_append_dropWhile.symm⟩

theorem exists_eq_trimEnd (cs : List Char) : ∃ after, Spaces after ∧ cs = trimEnd cs ++ after := by
  induction cs with
  | nil => exact ⟨[], spaces_nil, rfl⟩
  | cons c cs ih =>
    obtain ⟨after, hafter, hcs⟩ := ih
    rw [trimEnd]
    split
    · next hnone =>
      rw [hnone, List.nil_append] at hcs
      by_cases hc : isSpace c
      · rw [if_pos hc]
        exact ⟨c :: cs, List.forall_mem_cons.2 ⟨hc, hcs ▸ hafter⟩, rfl⟩
      · rw [if_neg hc]
        exact ⟨cs, hcs ▸ hafter, rfl⟩
    · exact ⟨after, hafter, congrArg (c :: ·) hcs⟩

/-- A text is what trimming leaves of it, with white space around. -/
theorem exists_eq_trim (cs : List Char) :
    ∃ before after, Spaces before ∧ Spaces after ∧ cs = before ++ (trim cs ++ after) := by
  obtain ⟨before, hbefore, hcs⟩ := exists_eq_trimStart cs
  obtain ⟨after, hafter, hrest⟩ := exists_eq_trimEnd (trimStart cs)
  exact ⟨before, after, hbefore, hafter, hcs.trans (congrArg (before ++ ·) hrest)⟩

theorem getLast?_trimEnd (cs : List Char) : ∀ c ∈ (trimEnd cs).getLast?, isSpace c = false := by
  induction cs with
  | nil => exact fun _ h => nomatch h
  | cons c cs ih =>
    rw [trimEnd]
    split
    · by_cases hc : isSpace c <;> simp [hc]
    · next hnone =>
      rw [List.getLast?_cons_of_ne_nil hnone]
      exact ih

theorem trimmed_trim (cs : List Char) : Trimmed (trim cs) := by
  refine ⟨?_, getLast?_trimEnd _⟩
  intro c hc
  cases hrest : trimStart cs with
  | nil =>
    rw [trim, hrest] at hc
    cases hc
  | cons d rest =>
    have hd : isSpace d = false := by
      have hdrop := List.head?_dropWhile_not isSpace cs
      rw [← trimStart, hrest] at hdrop
      simpa using hdrop
    rw [trim, hrest, trimEnd] at hc
    split at hc
    · rw [hd] at hc
      cases hc
      exact hd
    · cases hc
      exact hd

theorem Trimmed.leading_eq_nil {blanks cs : List Char} (h : Trimmed (blanks ++ cs))
    (hblanks : Spaces blanks) : blanks = [] := by
  cases blanks with
  | nil => rfl
  | cons c blanks =>
    have hc := hblanks c List.mem_cons_self
    rw [h.1 c rfl] at hc
    cases hc

theorem Trimmed.trailing_eq_nil {cs blanks : List Char} (h : Trimmed (cs ++ blanks))
    (hblanks : Spaces blanks) : blanks = [] := by
  rcases List.eq_nil_or_concat blanks with hnil | ⟨rest, c, rfl⟩
  · exact hnil
  · have hc := hblanks c (by simp)
    rw [h.2 c (by simp)] at hc
    cases hc

end SchemaDdl.Text
