import SchemaDdl.Proofs.Alteration
import SchemaDdl.Proofs.Quoting.Lexer
import SchemaDdl.Proofs.StoreType.Grammar

/-!
# Texts stay between their quotes

A reader that only counts single quotes, and takes each for the beginning or
the end of a quoted part, tells what a literal says from what it quotes. No
text inside a value can change what is outside of quotes, whichever type the
literal is written for.
-/

namespace SchemaDdl

namespace Sql

/-- Whether the number of quotes so far is odd, and the characters outside of quotes so far. -/
structure QuoteScan where
  inside : Bool
  outside : List Char
  deriving DecidableEq, Repr

/-- Takes one character; every quote turns from outside to inside or back. -/
def QuoteScan.step (scan : QuoteScan) (c : Char) : QuoteScan :=
  if c = '\'' then { scan with inside := !scan.inside }
  else if scan.inside then scan
  else { scan with outside := scan.outside ++ [c] }

def scanQuotes (s : String) : QuoteScan := s.toList.foldl QuoteScan.step ⟨false, []⟩

namespace QuoteScan

theorem step_before (before : List Char) (scan : QuoteScan) (c : Char) :
    step { scan with outside := before ++ scan.outside } c =
      { step scan c with outside := before ++ (step scan c).outside } := by
  obtain ⟨inside, outside⟩ := scan
  by_cases hc : c = '\''
  · simp [step, hc]
  · cases inside <;> simp [step, hc]

theorem foldl_step_before (before : List Char) (cs : List Char) (scan : QuoteScan) :
    cs.foldl step { scan with outside := before ++ scan.outside } =
      { cs.foldl step scan with outside := before ++ (cs.foldl step scan).outside } := by
  induction cs generalizing scan with
  | nil => rfl
  | cons c cs ih => rw [List.foldl_cons, List.foldl_cons, step_before, ih]

theorem foldl_step_of_notMem {cs : List Char} (h : '\'' ∉ cs) (before : List Char) :
    cs.foldl step ⟨false, before⟩ = ⟨false, before ++ cs⟩ := by
  induction cs generalizing before with
  | nil => simp
  | cons c cs ih =>
    rw [List.mem_cons, not_or] at h
    have hstep : step ⟨false, before⟩ c = ⟨false, before ++ [c]⟩ := by
      simp [step, Ne.symm h.1]
    rw [List.foldl_cons, hstep, ih h.2, List.append_assoc, List.singleton_append]

/-- Inside of quotes, a quote that is written twice leads out and in again. -/
theorem foldl_step_double (cs before : List Char) :
    (Text.double '\'' cs).foldl step ⟨true, before⟩ = ⟨true, before⟩ := by
  induction cs with
  | nil => rfl
  | cons c cs ih =>
    by_cases hc : c = '\''
    · simpa [Text.double, step, hc] using ih
    · simpa [Text.double, step, hc] using ih

end QuoteScan

open QuoteScan

theorem scanQuotes_append {s : String} (h : (scanQuotes s).inside = false) (t : String) :
    scanQuotes (s ++ t) =
      ⟨(scanQuotes t).inside, (scanQuotes s).outside ++ (scanQuotes t).outside⟩ := by
  have hs : scanQuotes s = ⟨false, (scanQuotes s).outside ++ []⟩ := by
    rw [List.append_nil, ← h]
  calc scanQuotes (s ++ t) = t.toList.foldl step (scanQuotes s) := by
        rw [scanQuotes, String.toList_append, List.foldl_append, ← scanQuotes]
    _ = t.toList.foldl step ⟨false, (scanQuotes s).outside ++ []⟩ := by rw [← hs]
    _ = _ := foldl_step_before (scanQuotes s).outside t.toList ⟨false, []⟩

theorem Unquoted.notMem {s : String} (h : Unquoted s) : '\'' ∉ s.toList := by
  intro hmem
  cases h '\'' hmem

theorem scanQuotes_unquoted {s : String} (h : Unquoted s) : scanQuotes s = ⟨false, s.toList⟩ :=
  foldl_step_of_notMem h.notMem []

theorem scanQuotes_enclose (s : String) : scanQuotes (Text.enclose '\'' s) = ⟨false, []⟩ := by
  rw [scanQuotes, Text.toList_enclose, List.foldl_cons, List.foldl_append]
  change ['\''].foldl step ((Text.double '\'' s.toList).foldl step ⟨true, []⟩) = _
  rw [foldl_step_double]
  rfl

/-- Both texts end outside of quotes, and they are the same outside of quotes. -/
structure AlikeOutside (s t : String) : Prop where
  ended : (scanQuotes s).inside = false
  alike : scanQuotes s = scanQuotes t

namespace AlikeOutside

variable {s s' t t' : String}

theorem symm (h : AlikeOutside s t) : AlikeOutside t s :=
  ⟨h.alike ▸ h.ended, h.alike.symm⟩

theorem trans (h : AlikeOutside s t) (h' : AlikeOutside t s') : AlikeOutside s s' :=
  ⟨h.ended, h.alike.trans h'.alike⟩

theorem append (h : AlikeOutside s s') (h' : AlikeOutside t t') :
    AlikeOutside (s ++ t) (s' ++ t') := by
  have hs := scanQuotes_append h.ended t
  have hs' := scanQuotes_append h.symm.ended t'
  refine ⟨?_, ?_⟩
  · rw [hs]
    exact h'.ended
  · rw [hs, hs', h.alike, h'.alike]

theorem unquoted (h : Unquoted s) : AlikeOutside s s :=
  ⟨congrArg inside (scanQuotes_unquoted h), rfl⟩

theorem enclose (s t : String) : AlikeOutside (Text.enclose '\'' s) (Text.enclose '\'' t) :=
  ⟨congrArg inside (scanQuotes_enclose s),
    (scanQuotes_enclose s).trans (scanQuotes_enclose t).symm⟩

theorem between (h : Unquoted s) : AlikeOutside ("'" ++ s ++ "'") ("'" ++ s ++ "'") := by
  have henclose : "'" ++ s ++ "'" = Text.enclose '\'' s := by
    refine String.toList_injective ?_
    rw [Text.toList_enclose, Text.double_eq_self h.notMem]
    simp
  rw [henclose]
  exact enclose s s

theorem labelled (label : String) (hlabel : Unquoted label) (h : Unquoted s) :
    AlikeOutside (label ++ "'" ++ s ++ "'") (label ++ "'" ++ s ++ "'") := by
  have hbetween := (unquoted hlabel).append (between h)
  simpa only [String.append_assoc] using hbetween

theorem intercalate {α : Type} {f g : α → String} {items : List α}
    (h : ∀ item ∈ items, AlikeOutside (f item) (g item)) :
    AlikeOutside (String.intercalate "," (items.map f)) (String.intercalate "," (items.map g)) := by
  induction items with
  | nil => exact unquoted (s := "") (by decide)
  | cons item items ih =>
    obtain ⟨hitem, hitems⟩ := List.forall_mem_cons.1 h
    cases items with
    | nil => simpa using hitem
    | cons next more =>
      simp only [List.map_cons, String.intercalate_cons_cons]
      exact (hitem.append (unquoted (by decide))).append (ih hitems)

end AlikeOutside

/-! ## Numbers, days and times hold no quotes -/

@[simp] theorem unquoted_ofList_iff {cs : List Char} :
    Unquoted (String.ofList cs) ↔ ∀ c ∈ cs, Quoted.opened? c = none := by
  rw [Unquoted, String.toList_ofList]

theorem opened?_of_isNameChar {c : Char} (h : isNameChar c = true) : Quoted.opened? c = none := by
  have hidentifier : c ≠ '"' := by
    rintro rfl
    revert h
    decide
  have hliteral : c ≠ '\'' := by
    rintro rfl
    revert h
    decide
  rw [Quoted.opened?, if_neg hidentifier, if_neg hliteral]

theorem opened?_of_mem_digits {n : Nat} : ∀ c ∈ Numeral.digits n, Quoted.opened? c = none := by
  intro c hc
  exact opened?_of_isNameChar (by simp [isNameChar, Numeral.isDigit_of_mem_digits hc])

theorem opened?_of_mem_hexDigits (n : Nat) :
    ∀ c ∈ Numeral.hexDigits n, Quoted.opened? c = none := by
  have hchar : ∀ d < 16, Quoted.opened? (Numeral.digitChar d) = none := by decide
  induction n using Numeral.hexDigits.induct with
  | case1 n hsmall => simpa [Numeral.hexDigits, hsmall] using hchar n hsmall
  | case2 n hlarge ih =>
    rw [Numeral.hexDigits, if_neg hlarge]
    exact List.forall_mem_append.2
      ⟨ih, List.forall_mem_singleton.2 (hchar _ (Nat.mod_lt n (by decide)))⟩

theorem opened?_of_mem_zeros {width : Nat} {cs : List Char}
    (h : ∀ c ∈ cs, Quoted.opened? c = none) :
    ∀ c ∈ List.replicate width '0' ++ cs, Quoted.opened? c = none := by
  refine List.forall_mem_append.2 ⟨fun c hc => ?_, h⟩
  rw [List.eq_of_mem_replicate hc]
  decide

theorem opened?_of_mem_pointed {whole : Nat} {cs : List Char}
    (h : ∀ c ∈ cs, Quoted.opened? c = none) :
    ∀ c ∈ cs.take whole ++ '.' :: cs.drop whole, Quoted.opened? c = none :=
  List.forall_mem_append.2 ⟨fun c hc => h c (List.mem_of_mem_take hc),
    List.forall_mem_cons.2 ⟨by decide, fun c hc => h c (List.mem_of_mem_drop hc)⟩⟩

theorem unquoted_ofNat (n : Nat) : Unquoted (Numeral.ofNat n) :=
  unquoted_ofList_iff.2 opened?_of_mem_digits

theorem unquoted_padded (width n : Nat) : Unquoted (Numeral.padded width n) :=
  unquoted_ofList_iff.2 (opened?_of_mem_zeros opened?_of_mem_digits)

theorem unquoted_ofInt (n : Int) : Unquoted (Numeral.ofInt n) := by
  cases n with
  | ofNat n => exact unquoted_ofNat n
  | negSucc n => exact Unquoted.append (by decide) (unquoted_ofNat (n + 1))

theorem unquoted_positional (digits : Nat) (exponent : Int) :
    Unquoted (Binary.positional digits exponent) := by
  unfold Binary.positional
  split
  · refine unquoted_ofList_iff.2 (List.forall_mem_append.2 ⟨opened?_of_mem_digits, fun c hc => ?_⟩)
    rw [List.eq_of_mem_replicate hc]
    decide
  · exact unquoted_ofList_iff.2 (opened?_of_mem_pointed (opened?_of_mem_zeros opened?_of_mem_digits))

theorem unquoted_finite (x : Binary.Finite .binary64) : Unquoted x.text := by
  have hsign : Unquoted (if x.negative then "-" else "") := by split <;> decide
  by_cases hzero : x.coefficient = 0
  · simp only [Binary.Finite.text, if_pos hzero]
    exact hsign.append (by decide)
  · simp only [Binary.Finite.text, if_neg hzero]
    exact hsign.append (unquoted_positional _ _)

theorem unquoted_decimal (d : Decimal) : Unquoted d.text := by
  have hsign : Unquoted (if d.negative then "-" else "") := by split <;> decide
  by_cases hplaces : d.places = 0
  · simp only [Decimal.text, if_pos hplaces]
    exact hsign.append (unquoted_ofList_iff.2 opened?_of_mem_digits)
  · simp only [Decimal.text, if_neg hplaces]
    exact hsign.append
      (unquoted_ofList_iff.2 (opened?_of_mem_pointed (opened?_of_mem_zeros opened?_of_mem_digits)))

theorem unquoted_date (d : Date) : Unquoted d.text := by
  have hyear : Unquoted (Date.yearText d.year) := by
    unfold Date.yearText
    split
    · exact Unquoted.append (by decide) (unquoted_padded _ _)
    · split
      · exact Unquoted.append (by decide) (unquoted_ofNat _)
      · exact unquoted_padded _ _
  exact (((hyear.append (by decide)).append (unquoted_padded _ _)).append (by decide)).append
    (unquoted_padded _ _)

theorem unquoted_timeOfDay (t : TimeOfDay) : Unquoted t.text := by
  have hfraction (nanosecond : Nat) : Unquoted (TimeOfDay.fractionText nanosecond) := by
    unfold TimeOfDay.fractionText
    split
    · decide
    · split
      · exact Unquoted.append (by decide) (unquoted_padded _ _)
      · split <;> exact Unquoted.append (by decide) (unquoted_padded _ _)
  have hclock := ((((unquoted_padded 2 t.hour).append (t := ":") (by decide)).append
    (unquoted_padded 2 t.minute)).append (t := ":") (by decide)).append
      (unquoted_padded 2 (t.second + t.nanosecond / 1000000000))
  exact hclock.append (hfraction _)

theorem unquoted_dateTime (t : DateTime) : Unquoted t.text :=
  ((unquoted_date t.date).append (by decide)).append (unquoted_timeOfDay t.time)

theorem unquoted_offsetDateTime (t : OffsetDateTime) : Unquoted t.text := by
  have hsign : Unquoted (if t.offset < 0 then "-" else "+") := by split <;> decide
  exact (unquoted_dateTime t.clock).append
    (((hsign.append (unquoted_padded _ _)).append (by decide)).append (unquoted_padded _ _))

theorem unquoted_uuid (u : Uuid) : Unquoted u.text := by
  have hcut (sizes : List Nat) {cs : List Char} (h : ∀ c ∈ cs, Quoted.opened? c = none) :
      ∀ c ∈ Text.join '-' (Uuid.cutGroups sizes cs), Quoted.opened? c = none := by
    induction sizes generalizing cs with
    | nil => exact fun c hc => nomatch hc
    | cons size sizes ih =>
      have htake : ∀ c ∈ cs.take size, Quoted.opened? c = none :=
        fun c hc => h c (List.mem_of_mem_take hc)
      cases sizes with
      | nil => exact htake
      | cons next sizes =>
        exact List.forall_mem_append.2 ⟨htake, List.forall_mem_cons.2
          ⟨by decide, ih fun c hc => h c (List.mem_of_mem_drop hc)⟩⟩
  exact unquoted_ofList_iff.2 (hcut _ (opened?_of_mem_zeros (opened?_of_mem_hexDigits _)))

theorem unquoted_byteDigits (bs : List UInt8) :
    Unquoted (String.ofList (bs.flatMap Value.byteDigits)) := by
  have hchar : ∀ d < 16, Quoted.opened? (Numeral.digitChar d).toUpper = none := by decide
  refine unquoted_ofList_iff.2 fun c hc => ?_
  obtain ⟨b, -, hc⟩ := List.mem_flatMap.1 hc
  have hbound : b.toNat < 256 := b.toNat_lt
  simp only [Value.byteDigits, List.mem_cons, List.not_mem_nil, or_false] at hc
  rcases hc with rfl | rfl
  · exact hchar _ (by omega)
  · exact hchar _ (by omega)

end Sql

open Sql

/-! ## Values without a type -/

namespace Value

mutual

/-- The same value with all texts in it empty: what two values share that differ in nothing but
the contents of their texts. -/
def withoutTexts : Value → Value
  | text _ => text ""
  | array items => array (withoutTextsAll items)
  | value => value

def withoutTextsAll : List Value → List Value
  | [] => []
  | item :: items => item.withoutTexts :: withoutTextsAll items

end

@[simp] theorem withoutTextsAll_eq_map (items : List Value) :
    withoutTextsAll items = items.map withoutTexts := by
  induction items with
  | nil => rfl
  | cons item items ih => simp [withoutTextsAll, ih]

theorem induct_items {P : Value → Prop} (single : ∀ v, (∀ items, v ≠ array items) → P v)
    (items : ∀ items, (∀ item ∈ items, P item) → P (array items)) (v : Value) : P v :=
  match v with
  | array members => items members fun item _ => induct_items single items item
  | null => single _ nofun
  | bool _ => single _ nofun
  | smallint _ => single _ nofun
  | integer _ => single _ nofun
  | bigint _ => single _ nofun
  | real _ => single _ nofun
  | double _ => single _ nofun
  | text _ => single _ nofun
  | bytes _ => single _ nofun
  | uuid _ => single _ nofun
  | decimal _ => single _ nofun
  | dateTime _ => single _ nofun
  | offsetDateTime _ => single _ nofun
  | date _ => single _ nofun
  | time _ => single _ nofun

theorem alikeOutside_binaryLiteral (x : Binary .binary64) :
    AlikeOutside (binaryLiteral x) (binaryLiteral x) := by
  cases x with
  | nan => exact ⟨by decide, rfl⟩
  | infinite negative => cases negative <;> exact ⟨by decide, rfl⟩
  | finite x => exact .unquoted (unquoted_finite x)

/-- Emptying the texts of a value changes its literal only inside of quotes. -/
theorem alikeOutside_literal (v : Value) : AlikeOutside v.literal v.withoutTexts.literal := by
  induction v using induct_items with
  | single v h =>
    cases v with
    | null => exact .unquoted (s := "NULL") (by decide)
    | bool b => cases b <;> exact .unquoted (by decide)
    | smallint n => exact .unquoted (unquoted_ofInt _)
    | integer n => exact .unquoted (unquoted_ofInt _)
    | bigint n => exact .unquoted (unquoted_ofInt _)
    | real x => exact alikeOutside_binaryLiteral x.widen
    | double x => exact alikeOutside_binaryLiteral x
    | text s => exact .enclose s ""
    | bytes bs =>
      -- The mark of the digits stands behind the quote, so it is quoted with them.
      have hliteral : (bytes bs).literal =
          "BYTEA E" ++ "'" ++ ("\\\\x" ++ String.ofList (bs.flatMap byteDigits)) ++ "'" := by
        refine String.toList_injective ?_
        simp [literal, bytesLiteral]
      have hdigits : Unquoted ("\\\\x" ++ String.ofList (bs.flatMap byteDigits)) :=
        Unquoted.append (by decide) (unquoted_byteDigits bs)
      change AlikeOutside (bytes bs).literal (bytes bs).literal
      rw [hliteral]
      exact .labelled "BYTEA E" (by decide) hdigits
    | uuid u => exact .between (unquoted_uuid u)
    | decimal d => exact .unquoted (unquoted_decimal d)
    | dateTime t => exact .labelled "TIMESTAMP " (by decide) (unquoted_dateTime t)
    | offsetDateTime t => exact .labelled "TIMESTAMPTZ " (by decide) (unquoted_offsetDateTime t)
    | date d => exact .labelled "DATE " (by decide) (unquoted_date d)
    | time t => exact .labelled "TIME " (by decide) (unquoted_timeOfDay t)
    | array items => exact absurd rfl (h items)
  | items items ih =>
    have hitems := AlikeOutside.intercalate ih
    have hbrackets := ((AlikeOutside.unquoted (s := "ARRAY[") (by decide)).append hitems).append
      (.unquoted (s := "]") (by decide))
    simpa [literal, withoutTexts, Function.comp_def] using hbrackets

end Value

/-! ## Values of a type -/

namespace LiteralStyle

def label : LiteralStyle → String
  | plain => ""
  | labelled label => label ++ " "
  | bits => "B"

theorem literal_eq (style : LiteralStyle) (s : String) :
    style.literal s = style.label ++ Value.quote s := by
  cases style with
  | plain => exact String.empty_append.symm
  | labelled label => rfl
  | bits => rfl

end LiteralStyle

namespace Descriptor

/-- All that the type adds to a literal is free of quotes: labels, and the name of an array. -/
def Worded : Descriptor → Prop
  | scalar _ _ style => Unquoted style.label
  | array storeType _ element => Unquoted storeType ∧ element.Worded

/-- Emptying the texts of a value changes its literal as any type only inside of quotes, also where
the value is not of that type. -/
theorem alikeOutside_literal {d : Descriptor} (h : d.Worded) (v : Value) :
    AlikeOutside (d.literal v) (d.literal v.withoutTexts) := by
  have hnull : AlikeOutside "NULL" "NULL" := .unquoted (by decide)
  induction d generalizing v with
  | scalar storeType size style =>
    cases v with
    | null => exact hnull
    | text s =>
      rw [Value.withoutTexts, literal, literal, style.literal_eq, style.literal_eq]
      exact (AlikeOutside.unquoted h).append (.enclose s "")
    | _ => exact Value.alikeOutside_literal _
  | array storeType size element ih =>
    cases v with
    | null => exact hnull
    | array items =>
      obtain ⟨hname, helement⟩ := h
      have hitems : AlikeOutside (String.intercalate "," (items.map fun item => element.literal item))
          (String.intercalate "," (items.map fun item => element.literal item.withoutTexts)) :=
        .intercalate fun item _ => ih helement item
      have hcast := (((AlikeOutside.unquoted (s := "ARRAY[") (by decide)).append hitems).append
        (.unquoted (s := "]::") (by decide))).append (.unquoted hname)
      simpa [literal, Value.withoutTexts, Function.comp_def] using hcast
    | _ => exact Value.alikeOutside_literal _

end Descriptor

theorem Builtin.unquoted_label : ∀ b ∈ all, Unquoted b.style.label := by decide +kernel

theorem ScalarName.worded {cs : List Char} {d : Descriptor} (h : ScalarName cs d) :
    Unquoted d.storeType ∧ d.Worded := by
  have hname {b : Builtin} (hb : b ∈ Builtin.all) : Unquoted b.name := by
    intro c hc
    exact opened?_of_isNameChar
      (List.all_eq_true.1 (Builtin.names_all b hb b.name List.mem_cons_self).1 c hc)
  cases h with
  | builtin hb => exact ⟨hname hb, Builtin.unquoted_label _ hb⟩
  | sized hb =>
    exact ⟨(((hname hb).append (by decide)).append (unquoted_ofNat _)).append (by decide),
      Builtin.unquoted_label _ hb⟩

theorem TypeName.worded {cs : List Char} {d : Descriptor} (h : TypeName cs d) : d.Worded := by
  cases h with
  | scalar h => exact h.worded.2
  | marked hgap h => exact ⟨h.worded.1.append (by decide), h.worded.2⟩
  | bracketed h hstart hgap => exact ⟨h.worded.1.append (by decide), h.worded.2⟩

theorem Value.alikeOutside_literalAs (storeType : String) (v : Value) :
    AlikeOutside (v.literalAs storeType) (v.withoutTexts.literalAs storeType) := by
  unfold Value.literalAs
  split
  · next d hd =>
    have hfound : StoreName.descriptor? (StoreName.key storeType) = some d := by
      simpa [TypeQuery.resolve] using hd
    have hname := (StoreName.descriptor?_eq_some_iff (StoreName.trimmed_key storeType)).1 hfound
    exact Descriptor.alikeOutside_literal hname.worded v
  · exact v.alikeOutside_literal

namespace Render

theorem exists_literal (storeType : Option String) (v : Value) {memo : Memo} (h : memo.Sound) :
    ∃ s, (literal v storeType memo).result = .ok s ∧
      ∃ t, (literal v.withoutTexts storeType).result = .ok t ∧ AlikeOutside s t := by
  rw [((literal v storeType).run_eq h).2.1]
  cases storeType with
  | none => exact ⟨_, rfl, _, rfl, v.alikeOutside_literal⟩
  | some storeType =>
    exact ⟨_, Statement.result_literal v storeType, _, Statement.result_literal _ storeType,
      v.alikeOutside_literalAs storeType⟩

/-- Two values that differ in nothing but the contents of their texts have literals that end outside
of quotes and are the same there, for any type or none and whatever was asked before. -/
theorem literal_contains_texts (asked later : List TypeQuery) (storeType : Option String)
    {v w : Value} (h : v.withoutTexts = w.withoutTexts) :
    ∃ s t, (literal v storeType (Memo.after asked)).result = .ok s ∧
      (literal w storeType (Memo.after later)).result = .ok t ∧
      (scanQuotes s).inside = false ∧ (scanQuotes t).inside = false ∧
      (scanQuotes s).outside = (scanQuotes t).outside := by
  obtain ⟨s, hs, common, hcommon, hv⟩ := exists_literal storeType v (Memo.sound_after asked)
  obtain ⟨t, ht, other, hother, hw⟩ := exists_literal storeType w (Memo.sound_after later)
  -- Both are compared with the literal of the value that they share.
  have hsame : common = other := by
    rw [h, hother] at hcommon
    exact (Except.ok.inj hcommon).symm
  have halike : AlikeOutside s t := hv.trans (hsame ▸ hw.symm)
  exact ⟨s, t, hs, ht, halike.ended, halike.symm.ended, congrArg QuoteScan.outside halike.alike⟩

/-- Bit strings in an array, where one text of each value looks like the end of a literal. -/
theorem literal_contains_texts_bits :
    let v := Value.array [.text "01'::bit, '", .array [.text "]::bit[]"], .null, .smallint 1]
    let w := Value.array [.text "", .array [.text "'; --"], .null, .smallint 1]
    ∃ s t, (literal v (some "_VarBit (8)") (Memo.after [])).result = .ok s ∧
      (literal w (some "_VarBit (8)") (Memo.after [{ storeName := some "_varbit(8)" }])).result =
        .ok t ∧
      (scanQuotes s).inside = false ∧ (scanQuotes t).inside = false ∧
      (scanQuotes s).outside = (scanQuotes t).outside :=
  literal_contains_texts [] [{ storeName := some "_varbit(8)" }] (some "_VarBit (8)") rfl

end Render

end SchemaDdl
