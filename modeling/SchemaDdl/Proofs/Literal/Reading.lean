import SchemaDdl.Text.Affix
import SchemaDdl.Value

/-!
# Literals that are read back

A literal without a type around it tells which value it was written for: where
a text ends and where an item of an array ends can be seen from the literal
alone, whatever the texts inside hold. Only the width of an integer is not
written.
-/

namespace SchemaDdl

/-! ## The reader -/

namespace Literal

def isNumeric (c : Char) : Bool := c = '-' || Numeral.isDigit c

def readInteger? (cs : List Char) : Option (Value × List Char) :=
  (Numeral.readInt? (cs.takeWhile isNumeric)).map fun n =>
    (.bigint (Int64.ofInt n), cs.dropWhile isNumeric)

def readBytes? : List Char → Option (List UInt8 × List Char)
  | [] => none
  | [c] => if c = '\'' then some ([], []) else none
  | high :: low :: rest =>
    if high = '\'' then some ([], low :: rest)
    else do
      let h ← Numeral.hexValue? high
      let l ← Numeral.hexValue? low
      let (bytes, rest) ← readBytes? rest
      pure (UInt8.ofNat (16 * h + l) :: bytes, rest)

def words : List Value := [.null, .bool true, .bool false]

def readScalar? : List Char → Option (Value × List Char)
  | [] => none
  | c :: cs =>
    if isNumeric c then readInteger? (c :: cs)
    else if c = '\'' then
      (Text.undouble? '\'' cs).map fun (text, rest) => (.text (String.ofList text), rest)
    else
      match Text.stripStart? "BYTEA E'\\\\x".toList (c :: cs) with
      | some digits => (readBytes? digits).map fun (bytes, rest) => (.bytes bytes, rest)
      | none =>
        words.findSome? fun word => (Text.stripStart? word.literal.toList (c :: cs)).map (word, ·)

mutual

/-- The value at the beginning, and what follows it. `fuel` bounds the steps, of which each value
and each end of an array takes one. -/
def read? (fuel : Nat) (cs : List Char) : Option (Value × List Char) :=
  match fuel with
  | 0 => none
  | fuel + 1 =>
    match Text.stripStart? "ARRAY[".toList cs with
    | some rest => (readItems? fuel rest).map fun (items, rest) => (.array items, rest)
    | none => readScalar? cs

def readItems? (fuel : Nat) (cs : List Char) : Option (List Value × List Char) :=
  match fuel with
  | 0 => none
  | fuel + 1 =>
    match read? fuel cs with
    | none => (Text.stripStart? "]".toList cs).map ([], ·)
    | some (item, ',' :: rest) => (readItems? fuel rest).map fun (items, rest) => (item :: items, rest)
    | some (item, ']' :: rest) => some ([item], rest)
    | some _ => none

end

def parse? (s : String) : Option Value :=
  match read? (s.toList.length + 1) s.toList with
  | some (value, []) => some value
  | _ => none

/-- What may follow a value: nothing, the next item, or the end of the array. -/
def Stops (rest : List Char) : Prop := ∀ c ∈ rest.head?, c = ',' ∨ c = ']'

end Literal

/-! ## Values that are read back -/

namespace Value

/-- Nulls, truth values, integers, texts, bytes, and arrays of such values to any depth. -/
inductive Elementary : Value → Prop where
  | null : Elementary .null
  | bool (b : Bool) : Elementary (.bool b)
  | smallint (n : Int16) : Elementary (.smallint n)
  | integer (n : Int32) : Elementary (.integer n)
  | bigint (n : Int64) : Elementary (.bigint n)
  | text (s : String) : Elementary (.text s)
  | bytes (bs : List UInt8) : Elementary (.bytes bs)
  | array {items : List Value} (h : ∀ item ∈ items, Elementary item) : Elementary (.array items)

mutual

/-- The same value with all integers in 64 bits. -/
def widened : Value → Value
  | smallint n => bigint n.toInt64
  | integer n => bigint n.toInt64
  | array items => array (widenedAll items)
  | value => value

def widenedAll : List Value → List Value
  | [] => []
  | item :: items => item.widened :: widenedAll items

end

@[simp] theorem widenedAll_eq_map (items : List Value) : widenedAll items = items.map widened := by
  induction items with
  | nil => rfl
  | cons item items ih => simp [widenedAll, ih]

end Value

namespace Literal

theorem readBytes?_byteDigits (bs : List UInt8) (rest : List Char) :
    readBytes? (bs.flatMap Value.byteDigits ++ '\'' :: rest) = some (bs, rest) := by
  have hdigit : ∀ d < 16, (Numeral.digitChar d).toUpper ≠ '\'' ∧
      Numeral.hexValue? (Numeral.digitChar d).toUpper = some d := by decide
  induction bs with
  | nil => cases rest <;> simp [readBytes?]
  | cons b bs ih =>
    have hbound : b.toNat < 256 := b.toNat_lt
    obtain ⟨hhigh, hvalue⟩ := hdigit (b.toNat / 16) (by omega)
    obtain ⟨-, hlow⟩ := hdigit (b.toNat % 16) (by omega)
    have hb : UInt8.ofNat (16 * (b.toNat / 16) + b.toNat % 16) = b := by
      rw [Nat.div_add_mod, UInt8.ofNat_toNat]
    simp only [List.flatMap_cons, Value.byteDigits, List.cons_append, List.nil_append, readBytes?,
      if_neg hhigh, hvalue, hlow, ih, Option.bind_eq_bind, Option.bind_some, hb]
    rfl

/-! ## Values that are no arrays -/

theorem forall_isNumeric_ofInt (n : Int) : ∀ c ∈ (Numeral.ofInt n).toList, isNumeric c = true := by
  have hdigits (n : Nat) : ∀ c ∈ Numeral.digits n, isNumeric c = true := by
    intro c hc
    simp [isNumeric, Numeral.isDigit_of_mem_digits hc]
  cases n with
  | ofNat n => simpa [Numeral.ofInt, Numeral.ofNat] using hdigits n
  | negSucc n =>
    have hchars : (Numeral.ofInt (.negSucc n)).toList = '-' :: Numeral.digits (n + 1) := by
      simp [Numeral.ofInt, Numeral.ofNat]
    rw [hchars]
    exact List.forall_mem_cons.2 ⟨by decide, hdigits (n + 1)⟩

theorem readInteger?_ofInt (n : Int) {rest : List Char} (h : Stops rest) :
    readInteger? ((Numeral.ofInt n).toList ++ rest) = some (.bigint (Int64.ofInt n), rest) := by
  have hstop : rest.takeWhile isNumeric = [] ∧ rest.dropWhile isNumeric = rest := by
    cases rest with
    | nil => exact ⟨rfl, rfl⟩
    | cons c rest =>
      have hc : isNumeric c = false := by rcases h c rfl with rfl | rfl <;> decide
      simp [hc]
  have hall := forall_isNumeric_ofInt n
  rw [readInteger?, List.takeWhile_append_of_pos hall, List.dropWhile_append_of_pos hall, hstop.1,
    hstop.2, List.append_nil, Numeral.readInt?_ofInt]
  rfl

theorem read?_of_head {cs : List Char} (h : cs.head? ≠ some 'A') (fuel : Nat) :
    read? (fuel + 1) cs = readScalar? cs := by
  have hstrip : Text.stripStart? "ARRAY[".toList cs = none := by
    refine Option.eq_none_iff_forall_ne_some.2 fun rest hrest => h ?_
    rw [Text.stripStart?_eq_some_iff.1 hrest]
    rfl
  rw [read?, hstrip]

theorem read?_ofInt (n : Int) (fuel : Nat) {rest : List Char} (h : Stops rest) :
    read? (fuel + 1) ((Numeral.ofInt n).toList ++ rest) =
      some (.bigint (Int64.ofInt n), rest) := by
  have hread := readInteger?_ofInt n h
  have hall := forall_isNumeric_ofInt n
  cases hchars : (Numeral.ofInt n).toList with
  | nil =>
    have hnone := Numeral.readInt?_ofInt n
    rw [hchars] at hnone
    cases hnone
  | cons c cs =>
    rw [hchars] at hread hall
    have hc : isNumeric c = true := hall c List.mem_cons_self
    have hhead : (c :: cs ++ rest).head? ≠ some 'A' := by
      rintro ⟨⟩
      cases hc
    rw [read?_of_head hhead, List.cons_append, readScalar?, if_pos hc]
    exact hread

theorem read?_word {word : Value} (h : word ∈ words) (fuel : Nat) (rest : List Char) :
    read? (fuel + 1) (word.literal.toList ++ rest) = some (word, rest) := by
  simp only [words, List.mem_cons, List.not_mem_nil, or_false] at h
  rcases h with rfl | rfl | rfl <;> rfl

theorem read?_text (s : String) (fuel : Nat) {rest : List Char} (h : Stops rest) :
    read? (fuel + 1) ((Value.text s).literal.toList ++ rest) = some (.text s, rest) := by
  have hchars : (Value.text s).literal.toList ++ rest =
      '\'' :: (Text.double '\'' s.toList ++ '\'' :: rest) := by
    rw [Value.literal, Value.quote, Text.toList_enclose]
    simp
  have hrest : rest.head? ≠ some '\'' := by
    intro hhead
    rcases h _ hhead with heq | heq <;> cases heq
  rw [hchars, read?_of_head (by simp), readScalar?, if_neg (by decide), if_pos rfl,
    Text.undouble?_double _ _ hrest, Option.map_some]
  simp only [String.ofList_toList]

theorem read?_bytes (bs : List UInt8) (fuel : Nat) (rest : List Char) :
    read? (fuel + 1) ((Value.bytes bs).literal.toList ++ rest) = some (.bytes bs, rest) := by
  have hchars : (Value.bytes bs).literal.toList ++ rest =
      "BYTEA E'\\\\x".toList ++ (bs.flatMap Value.byteDigits ++ '\'' :: rest) := by
    simp [Value.literal, Value.bytesLiteral]
  have hscalar (digits : List Char) : readScalar? ("BYTEA E'\\\\x".toList ++ digits) =
      (readBytes? digits).map fun (bytes, rest) => (.bytes bytes, rest) := rfl
  rw [hchars, read?_of_head (by simp), hscalar, readBytes?_byteDigits]
  rfl

/-! ## Arrays -/

/-- The value is read up to the end of its literal, wherever it stands. -/
def ReadsBack (v : Value) : Prop :=
  ∀ fuel rest, v.literal.toList.length ≤ fuel → Stops rest →
    read? (fuel + 1) (v.literal.toList ++ rest) = some (v.widened, rest)

theorem stops_cons {c : Char} (h : c = ',' ∨ c = ']') (rest : List Char) : Stops (c :: rest) := by
  rintro d ⟨⟩
  exact h

def itemsText (items : List Value) : List Char :=
  (String.intercalate "," (items.map Value.literal)).toList

theorem itemsText_cons_cons (item next : Value) (more : List Value) :
    itemsText (item :: next :: more) = item.literal.toList ++ ',' :: itemsText (next :: more) := by
  simp [itemsText, String.intercalate_cons_cons]

theorem toList_literal_array (items : List Value) :
    (Value.array items).literal.toList = "ARRAY[".toList ++ (itemsText items ++ "]".toList) := by
  simp [Value.literal, itemsText]

theorem readItems?_itemsText {items : List Value} (h : ∀ item ∈ items, ReadsBack item)
    (rest : List Char) {fuel : Nat} (hfuel : (itemsText items).length ≤ fuel) :
    readItems? (fuel + 2) (itemsText items ++ ']' :: rest) =
      some (items.map Value.widened, rest) := by
  induction items generalizing fuel with
  | nil => rfl
  | cons item items ih =>
    obtain ⟨hitem, hitems⟩ := List.forall_mem_cons.1 h
    cases items with
    | nil =>
      have hchars : itemsText [item] = item.literal.toList := by simp [itemsText]
      rw [hchars] at hfuel ⊢
      rw [readItems?, hitem fuel _ hfuel (stops_cons (.inr rfl) rest)]
      rfl
    | cons next more =>
      rw [itemsText_cons_cons, List.length_append, List.length_cons] at hfuel
      obtain ⟨fuel, rfl⟩ : ∃ n, fuel = n + 1 := Nat.exists_eq_succ_of_ne_zero (by omega)
      have hmore : readItems? (fuel + 2) (itemsText (next :: more) ++ ']' :: rest) =
          some ((next :: more).map Value.widened, rest) :=
        ih hitems (by omega)
      rw [itemsText_cons_cons, List.append_assoc, List.cons_append, readItems?,
        hitem _ _ (by omega) (stops_cons (.inl rfl) _)]
      simp only [hmore]
      rfl

theorem readsBack_array {items : List Value} (h : ∀ item ∈ items, ReadsBack item) :
    ReadsBack (.array items) := by
  intro fuel rest hfuel _
  have hchars : (Value.array items).literal.toList ++ rest =
      "ARRAY[".toList ++ (itemsText items ++ ']' :: rest) := by
    simp [toList_literal_array]
  rw [toList_literal_array] at hfuel
  obtain ⟨fuel, rfl⟩ : ∃ n, fuel = n + 2 := ⟨fuel - 2, by simp at hfuel; omega⟩
  have hitems : readItems? (fuel + 2) (itemsText items ++ ']' :: rest) =
      some (items.map Value.widened, rest) :=
    readItems?_itemsText h rest (by simp at hfuel; omega)
  rw [hchars, read?, Text.stripStart?_append]
  simp only [hitems, Option.map_some, Value.widened, Value.widenedAll_eq_map]

/-! ## All values -/

theorem readsBack {v : Value} (h : v.Elementary) : ReadsBack v := by
  induction h with
  | null => exact fun fuel rest _ _ => read?_word List.mem_cons_self fuel rest
  | bool b => exact fun fuel rest _ _ => read?_word (by cases b <;> simp [words]) fuel rest
  | smallint n =>
    intro fuel rest _ hrest
    rw [Value.literal, read?_ofInt _ fuel hrest, Int64.ofInt_int16ToInt]
    rfl
  | integer n =>
    intro fuel rest _ hrest
    rw [Value.literal, read?_ofInt _ fuel hrest, Int64.ofInt_int32ToInt]
    rfl
  | bigint n =>
    intro fuel rest _ hrest
    rw [Value.literal, read?_ofInt _ fuel hrest, Int64.ofInt_toInt]
    rfl
  | text s => exact fun fuel rest _ hrest => read?_text s fuel hrest
  | bytes bs => exact fun fuel rest _ _ => read?_bytes bs fuel rest
  | array _ ih => exact readsBack_array ih

theorem parse?_literal {v : Value} (h : v.Elementary) : parse? v.literal = some v.widened := by
  have hread := readsBack h v.literal.toList.length [] (Nat.le_refl _) nofun
  rw [List.append_nil] at hread
  rw [parse?, hread]

end Literal

/-! ## Literals tell values apart -/

namespace Value

theorem literal_widened {v : Value} (h : v.Elementary) : v.widened.literal = v.literal := by
  induction h with
  | smallint n => simp only [widened, literal, Int16.toInt_toInt64]
  | integer n => simp only [widened, literal, Int32.toInt_toInt64]
  | @array items _ ih =>
    have hitems : (items.map widened).map literal = items.map literal := by
      simpa using ih
    simp only [widened, literal, widenedAll_eq_map, literals_eq_map, hitems]
  | _ => rfl

/-- The literals of two values are the same text just where the values differ in nothing but the
width of integers: the reader gives back each value from its literal, integers in 64 bits. -/
theorem literal_eq_iff_widened {v w : Value} (hv : v.Elementary) (hw : w.Elementary) :
    Literal.parse? v.literal = some v.widened ∧ (v.literal = w.literal ↔ v.widened = w.widened) := by
  refine ⟨Literal.parse?_literal hv, fun heq => ?_, fun heq => ?_⟩
  · have hread := Literal.parse?_literal hw
    rw [← heq, Literal.parse?_literal hv] at hread
    exact Option.some.inj hread
  · rw [← literal_widened hv, heq, literal_widened hw]

/-- A text that looks like two texts and the end of an array, beside a nested array and bytes that
are the codes of a quote and a bracket. -/
theorem literal_eq_iff_widened_nested :
    let rest := [Value.array [.null, .bool true], .bytes [39, 93]]
    let narrow := Value.array (.text "a','b]" :: .smallint 3 :: rest)
    let wide := Value.array (.text "a','b]" :: .bigint 3 :: rest)
    let split := Value.array (.text "a" :: .text "b]" :: .bigint 3 :: rest)
    Literal.parse? narrow.literal = some wide ∧ narrow.literal = wide.literal ∧
      narrow.literal ≠ split.literal := by
  intro rest narrow wide split
  have hrest : ∀ item ∈ rest, item.Elementary := by
    simp [rest, Elementary.array, Elementary.null, Elementary.bool, Elementary.bytes]
  have hnarrow : narrow.Elementary := .array (by simpa [Elementary.text, Elementary.smallint])
  have hwide : wide.Elementary := .array (by simpa [Elementary.text, Elementary.bigint])
  have hsplit : split.Elementary := .array (by simpa [Elementary.text, Elementary.bigint])
  refine ⟨(literal_eq_iff_widened hnarrow hwide).1, (literal_eq_iff_widened hnarrow hwide).2.2 rfl,
    fun heq => ?_⟩
  have hsame := (literal_eq_iff_widened hnarrow hsplit).2.1 heq
  simp [narrow, split, widened] at hsame

end Value

end SchemaDdl
