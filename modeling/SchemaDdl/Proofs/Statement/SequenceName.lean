import SchemaDdl.Proofs.Text.Clip
import SchemaDdl.Statement.Sequence

/-!
# The name of the sequence behind a serial column

The names of the table and the column are clipped until they fit, so the name
of the sequence can be used whenever those two can. Each of them keeps what is
its fair share of the bytes, cut back to whole characters.
-/

namespace SchemaDdl.BackingSequence

theorem budgets_le (table column : Nat) :
    (budgets table column).1 + (budgets table column).2 ≤ available := by
  induction table, column using budgets.induct with
  | case1 table column hlong hlt ih =>
    rw [budgets, if_pos hlong, if_pos hlt]
    exact ih
  | case2 table column hlong hlt ih =>
    rw [budgets, if_pos hlong, if_neg hlt]
    exact ih
  | case3 table column hlong =>
    rw [budgets, if_neg hlong]
    exact Nat.not_lt.1 hlong

theorem utf8ByteSize_clip_le (cs : List Char) (size : Nat) :
    (String.ofList (Text.clip cs size)).utf8ByteSize ≤ size := by
  rw [← Text.byteLength_toList, String.toList_ofList]
  exact Text.byteLength_clip_le cs size

theorem utf8ByteSize_name_le (table column : String) :
    (name table column).utf8ByteSize ≤ Identifier.maxBytes := by
  have hsum := budgets_le table.utf8ByteSize column.utf8ByteSize
  have htable := utf8ByteSize_clip_le table.toList
    (budgets table.utf8ByteSize column.utf8ByteSize).1
  have hcolumn := utf8ByteSize_clip_le column.toList
    (budgets table.utf8ByteSize column.utf8ByteSize).2
  have hbar : "_".utf8ByteSize = 1 := by decide
  have hend : "_seq".utf8ByteSize = 4 := by decide
  have havailable : available = 58 := by decide
  have hmax : Identifier.maxBytes = 63 := rfl
  simp only [name, String.utf8ByteSize_append]
  omega

theorem valid_name {table column : String} (htable : Identifier.Valid table)
    (hcolumn : Identifier.Valid column) : Identifier.Valid (name table column) := by
  refine Identifier.valid_iff.2 ⟨?_, ?_, utf8ByteSize_name_le table column⟩
  · intro hempty
    have hlist := congrArg String.toList hempty
    simp [name] at hlist
  · have hclip (cs : List Char) (size : Nat) (h : Char.ofNat 0 ∉ cs) :
        Char.ofNat 0 ∉ Text.clip cs size := fun hmem => h ((Text.clip_prefix cs size).subset hmem)
    have htable' := hclip table.toList (budgets table.utf8ByteSize column.utf8ByteSize).1
      (Identifier.valid_iff.1 htable).2.1
    have hcolumn' := hclip column.toList (budgets table.utf8ByteSize column.utf8ByteSize).2
      (Identifier.valid_iff.1 hcolumn).2.1
    have hbar : Char.ofNat 0 ∉ "_".toList := by decide
    have hend : Char.ofNat 0 ∉ "_seq".toList := by decide
    simp only [name, String.toList_append, String.toList_ofList, List.mem_append, not_or]
    exact ⟨⟨⟨htable', hbar⟩, hcolumn'⟩, hend⟩

/-! ## Fair shares -/

/-- How many bytes a name may take beside another one: all that it has if both fit into 58 bytes, or
half of these if both are longer than that, or else whatever the shorter one leaves. -/
def fairShare (own other : Nat) : Nat :=
  if own + other ≤ 58 then own
  else if 29 < own ∧ 29 < other then 29
  else if own < other then own
  else 58 - other

variable {own other : Nat}

theorem fairShare_of_le (h : own + other ≤ 58) : fairShare own other = own := if_pos h

/-- A byte that is taken from the longer name does not change its share. -/
theorem fairShare_sub_one (hlong : 58 < own + other) (hle : other ≤ own) :
    fairShare (own - 1) other = fairShare own other := by
  grind [fairShare]

theorem fairShare_of_sub_one (hlong : 58 < own + other) (hle : own ≤ other) :
    fairShare own (other - 1) = fairShare own other := by
  grind [fairShare]

theorem budgets_eq (table column : Nat) :
    budgets table column = (fairShare table column, fairShare column table) := by
  have havailable : available = 58 := by decide
  induction table, column using budgets.induct with
  | case1 table column hlong hlt ih =>
    rw [havailable] at hlong
    rw [budgets, havailable, if_pos hlong, if_pos hlt, ih,
      fairShare_sub_one hlong (Nat.le_of_lt hlt),
      fairShare_of_sub_one (by rwa [Nat.add_comm]) (Nat.le_of_lt hlt)]
  | case2 table column hlong hle ih =>
    rw [havailable] at hlong
    rw [budgets, havailable, if_pos hlong, if_neg hle, ih,
      fairShare_of_sub_one hlong (Nat.not_lt.1 hle),
      fairShare_sub_one (by rwa [Nat.add_comm]) (Nat.not_lt.1 hle)]
  | case3 table column hfit =>
    rw [havailable, Nat.not_lt] at hfit
    rw [budgets, havailable, if_neg (Nat.not_lt.2 hfit), fairShare_of_le hfit,
      fairShare_of_le (by rwa [Nat.add_comm])]

/-! ## Checked subtraction -/

/-- The shares with every subtraction checked: `none` if a byte is taken from a name without one. -/
def budgets? (table column : Nat) : Option (Nat × Nat) :=
  if available < table + column then
    if column < table then
      match table with
      | 0 => none
      | table + 1 => budgets? table column
    else
      match column with
      | 0 => none
      | column + 1 => budgets? table column
  else some (table, column)
termination_by table + column

/-- The name with every subtraction checked, those on the way to the end of a character as well. -/
def name? (table column : String) : Option String := do
  let (tableBytes, columnBytes) ← budgets? table.utf8ByteSize column.utf8ByteSize
  let tablePart ← Text.cutDown? table.toList tableBytes
  let columnPart ← Text.cutDown? column.toList columnBytes
  pure (String.ofList tablePart ++ "_" ++ String.ofList columnPart ++ "_seq")

/-- A name that has to give a byte has one: it is the longer one, or as long as the other. -/
theorem budgets?_eq_some (table column : Nat) :
    budgets? table column = some (budgets table column) := by
  fun_induction budgets? table column with
  | case1 column hlong hlt => cases hlt
  | case2 column table hlong hlt ih =>
    rw [budgets, if_pos hlong, if_pos hlt]
    exact ih
  | case3 table hlong hlt => omega
  | case4 table column hlong hlt ih =>
    rw [budgets, if_pos hlong, if_neg hlt]
    exact ih
  | case5 table column hlong => rw [budgets, if_neg hlong]

theorem name?_eq_some (table column : String) : name? table column = some (name table column) := by
  simp only [name?, budgets?_eq_some, Text.cutDown?_eq_some, Option.bind_eq_bind, Option.bind_some]
  rfl

/-- The name is found without a subtraction below zero, has at most 63 bytes, and is made of the
longest beginnings of the two names that stay within their fair shares. It can be used if both of
them can. -/
theorem name_clips_fairly (table column : String) :
    name? table column = some (name table column) ∧
      (name table column).utf8ByteSize ≤ 63 ∧
      (∃ tablePart columnPart,
        name table column =
            String.ofList tablePart ++ "_" ++ String.ofList columnPart ++ "_seq" ∧
          Text.LongestStart (fairShare table.utf8ByteSize column.utf8ByteSize) table.toList
            tablePart ∧
          Text.LongestStart (fairShare column.utf8ByteSize table.utf8ByteSize) column.toList
            columnPart) ∧
      (Identifier.Valid table → Identifier.Valid column →
        Identifier.Valid (name table column)) := by
  refine ⟨name?_eq_some table column, utf8ByteSize_name_le table column, ?_, valid_name⟩
  refine ⟨_, _, ?_, Text.longestStart_clip _ _, Text.longestStart_clip _ _⟩
  rw [name, budgets_eq]

/-- Both names give bytes, and the share of the table ends inside its `ö`. -/
theorem name_clips_fairly_umlauts :
    let table := "Umsatzsteuervoranmeldungen_göttingen"
    let column := "zusammenfassende_meldung_kennziffer"
    Identifier.Valid table ∧ Identifier.Valid column ∧
      name table column = "Umsatzsteuervoranmeldungen_g_zusammenfassende_meldung_kenn_seq" ∧
      Identifier.Valid (name table column) := by
  intro table column
  have htable : Identifier.Valid table := by decide +kernel
  have hcolumn : Identifier.Valid column := by decide +kernel
  obtain ⟨-, -, -, hvalid⟩ := name_clips_fairly table column
  exact ⟨htable, hcolumn, by decide +kernel, hvalid htable hcolumn⟩

end SchemaDdl.BackingSequence
