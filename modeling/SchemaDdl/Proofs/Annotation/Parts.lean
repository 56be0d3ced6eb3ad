import SchemaDdl.Annotation.View
import SchemaDdl.Proofs.Text.Trim

/-!
# Values made of parts

The value of a parent clause or of an extension is a row of parts with commas
between them. What was put together is taken apart again, and a parent clause
that is given as a list of its parts says the same as their text.
-/

namespace SchemaDdl.Annotation

/-- A text that can be a part: there is something in it, but no comma, and no white space around. -/
structure IsPart (s : String) : Prop where
  ne_empty : s ≠ ""
  trimmed : Text.Trimmed s.toList
  comma : ',' ∉ s.toList

instance (s : String) : Decidable (IsPart s) :=
  decidable_of_iff (s ≠ "" ∧ Text.Trimmed s.toList ∧ ',' ∉ s.toList)
    ⟨fun ⟨hne, htrimmed, hcomma⟩ => ⟨hne, htrimmed, hcomma⟩,
      fun h => ⟨h.ne_empty, h.trimmed, h.comma⟩⟩

def joined (parts : List String) : String := String.intercalate "," parts

/-! ## Texts of parts -/

theorem commaParts_of_notMem {part : String} (h : ',' ∉ part.toList) :
    commaParts part = [Text.trimmed part] := by
  rw [commaParts, Text.split_eq_singleton h]
  rfl

theorem commaParts_append {part : String} (h : ',' ∉ part.toList) (rest : String) :
    commaParts (part ++ "," ++ rest) = Text.trimmed part :: commaParts rest := by
  have hchars : (part ++ "," ++ rest).toList = part.toList ++ ',' :: rest.toList := by simp
  rw [commaParts, hchars, Text.split_append h]
  rfl

theorem commaParts_joined {parts : List String} (hne : parts ≠ [])
    (h : ∀ part ∈ parts, ',' ∉ part.toList) :
    commaParts (joined parts) = parts.map Text.trimmed := by
  induction parts with
  | nil => exact absurd rfl hne
  | cons first rest ih =>
    obtain ⟨hfirst, hrest⟩ := List.forall_mem_cons.1 h
    cases rest with
    | nil => exact commaParts_of_notMem hfirst
    | cons second rest =>
      rw [joined, String.intercalate_cons_cons, commaParts_append hfirst, List.map_cons,
        ← ih (List.cons_ne_nil _ _) hrest, joined]

/-! ## Parts that may be absent

An absent part stands as the empty text.
-/

theorem getD_eq_empty_or_isPart {part : Option String} (h : ∀ s ∈ part, IsPart s) :
    part.getD "" = "" ∨ IsPart (part.getD "") := by
  cases part with
  | none => exact Or.inl rfl
  | some s => exact Or.inr (h s rfl)

theorem IsPart.present? {s : String} (h : IsPart s) : present? s = some s :=
  if_neg h.ne_empty

theorem present?_getD {part : Option String} (h : ∀ s ∈ part, IsPart s) :
    present? (part.getD "") = part := by
  cases part with
  | none => rfl
  | some s => exact (h s rfl).present?

theorem comma_notMem {part : String} (h : part = "" ∨ IsPart part) : ',' ∉ part.toList := by
  rcases h with rfl | h
  · exact List.not_mem_nil
  · exact h.comma

theorem trimmed_eq_self {part : String} (h : part = "" ∨ IsPart part) :
    Text.trimmed part = part := by
  rcases h with rfl | h
  · rfl
  · have htrim := Text.trim_spaces_around h.trimmed Text.spaces_nil Text.spaces_nil
    rw [List.nil_append, List.append_nil] at htrim
    rw [Text.trimmed, htrim, String.ofList_toList]

theorem commaParts_joined_eq_self {parts : List String} (hne : parts ≠ [])
    (h : ∀ part ∈ parts, part = "" ∨ IsPart part) : commaParts (joined parts) = parts := by
  have htrimmed : ∀ part ∈ parts, Text.trimmed part = part := fun part hpart =>
    trimmed_eq_self (h part hpart)
  rw [commaParts_joined hne fun part hpart => comma_notMem (h part hpart),
    List.map_congr_left htrimmed, List.map_id']

/-! ## Reading the values -/

theorem readInterleave_text (s : String) :
    readInterleave (.text s) = (interleaveOfParts (commaParts s)).map some := rfl

theorem readInterleave_texts (parts : List String) :
    readInterleave (.array (parts.map .text)) =
      (interleaveOfParts (parts.map Text.trimmed)).map some := by
  have hparts : interleaveParts (.array (parts.map .text)) = .ok (parts.map Text.trimmed) := by
    rw [interleaveParts]
    induction parts with
    | nil => rfl
    | cons first rest ih =>
      rw [List.map_cons, List.mapM_cons, ih]
      rfl
  change (interleaveParts _ >>= fun parts => _) = _
  rw [hparts]
  rfl

/-- A list of parts says what their text says. The empty list has no part, and the empty text one
that is absent. -/
theorem readInterleave_texts_eq_text {parts : List String}
    (h : ∀ part ∈ parts, ',' ∉ part.toList) :
    readInterleave (.array (parts.map .text)) = readInterleave (.text (joined parts)) := by
  rw [readInterleave_texts, readInterleave_text]
  cases parts with
  | nil => rfl
  | cons first rest => rw [commaParts_joined (List.cons_ne_nil _ _) h]

theorem interleaveOfParts_isPart {schema : Option String} {table : String} {columns : List String}
    (hschema : ∀ s ∈ schema, IsPart s) (htable : IsPart table)
    (hcolumns : ∀ c ∈ columns, IsPart c) :
    interleaveOfParts (schema.getD "" :: table :: columns) = .ok ⟨schema, table, columns⟩ := by
  have hkept : columns.filter (· ≠ "") = columns :=
    List.filter_eq_self.2 fun c hc => decide_eq_true (hcolumns c hc).ne_empty
  simp only [interleaveOfParts, List.getD_cons_succ, List.getD_cons_zero, htable.present?,
    List.headD_cons, present?_getD hschema, List.drop_succ_cons, List.drop_zero, hkept]

/-- What was put together from parts is read back: of a parent clause from its text and from the
list of its parts alike, of an extension with the name in the key for an absent one. The two forms
of a parent clause agree also where they have no meaning. -/
theorem read_joined :
    (∀ (schema : Option String) (table : String) (columns : List String),
      (∀ s ∈ schema, IsPart s) → IsPart table → (∀ c ∈ columns, IsPart c) →
        readInterleave (.text (joined (schema.getD "" :: table :: columns))) =
            .ok (some ⟨schema, table, columns⟩) ∧
          readInterleave (.array ((schema.getD "" :: table :: columns).map .text)) =
            .ok (some ⟨schema, table, columns⟩)) ∧
      (∀ parts : List String, (∀ part ∈ parts, ',' ∉ part.toList) →
        readInterleave (.array (parts.map .text)) = readInterleave (.text (joined parts))) ∧
      ∀ (key : String) (schema name version : Option String),
        (∀ s ∈ schema, IsPart s) → (∀ s ∈ name, IsPart s) → (∀ s ∈ version, IsPart s) →
          readExtension key (.text (joined [schema.getD "", name.getD "", version.getD ""])) =
            .ok ⟨schema, name.getD key, version⟩ := by
  refine ⟨?_, fun parts hparts => readInterleave_texts_eq_text hparts, ?_⟩
  · intro schema table columns hschema htable hcolumns
    have hparts : ∀ part ∈ schema.getD "" :: table :: columns, part = "" ∨ IsPart part := by
      refine List.forall_mem_cons.2 ⟨getD_eq_empty_or_isPart hschema, ?_⟩
      exact List.forall_mem_cons.2 ⟨Or.inr htable, fun c hc => Or.inr (hcolumns c hc)⟩
    have htext : readInterleave (.text (joined (schema.getD "" :: table :: columns))) =
        .ok (some ⟨schema, table, columns⟩) := by
      rw [readInterleave_text, commaParts_joined_eq_self (List.cons_ne_nil _ _) hparts,
        interleaveOfParts_isPart hschema htable hcolumns]
      rfl
    refine ⟨htext, ?_⟩
    rw [readInterleave_texts_eq_text fun part hpart => comma_notMem (hparts part hpart), htext]
  · intro key schema name version hschema hname hversion
    have hparts : ∀ part ∈ [schema.getD "", name.getD "", version.getD ""],
        part = "" ∨ IsPart part := by
      intro part hpart
      simp only [List.mem_cons, List.not_mem_nil, or_false] at hpart
      rcases hpart with rfl | rfl | rfl
      · exact getD_eq_empty_or_isPart hschema
      · exact getD_eq_empty_or_isPart hname
      · exact getD_eq_empty_or_isPart hversion
    rw [readExtension, commaParts_joined_eq_self (List.cons_ne_nil _ _) hparts]
    change Except.ok (Extension.mk (present? (schema.getD ""))
      ((present? (name.getD "")).getD key) (present? (version.getD ""))) = _
    rw [present?_getD hschema, present?_getD hname, present?_getD hversion]

theorem read_joined_orders :
    readInterleave (.text ",orders,region,order id") =
        .ok (some ⟨none, "orders", ["region", "order id"]⟩) ∧
      readInterleave (.array [.text "", .text "orders", .text "region", .text "order id"]) =
        .ok (some ⟨none, "orders", ["region", "order id"]⟩) ∧
      readInterleave (.array [.text "app", .text " "]) = readInterleave (.text "app, ") ∧
      readExtension "postgis" (.text "ext,,3.4") = .ok ⟨some "ext", "postgis", some "3.4"⟩ := by
  obtain ⟨hinterleave, hlist, hextension⟩ := read_joined
  have hpart := hinterleave none "orders" ["region", "order id"] (by decide) (by decide) (by decide)
  have hblank := hlist ["app", " "] (by decide)
  have hversion := hextension "postgis" (some "ext") none (some "3.4") (by decide) (by decide)
    (by decide)
  exact ⟨hpart.1, hpart.2, hblank, hversion⟩

end SchemaDdl.Annotation
