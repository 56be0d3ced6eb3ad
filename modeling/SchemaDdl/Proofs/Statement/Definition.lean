import SchemaDdl.Proofs.Alteration
import SchemaDdl.Proofs.Creation

/-!
# Definitions of columns

A column of a new table and a column that is added to a table are defined by
the same words. Its type may be a serial one there, and a computed column and
an identity have no default of their own.
-/

namespace SchemaDdl

open Render Statement

namespace Column

def head (column : Column) (storeType : String) : String :=
  Identifier.quote column.name ++ " " ++ storeType ++
    column.computedSql.elim "" (fun computed => " GENERATED ALWAYS AS (" ++ computed ++ ") STORED") ++
    if column.nullable then "" else " NOT NULL"

def defaultText (column : Column) (strategy : GenerationStrategy) (storeType : String) : String :=
  if column.computedSql.isSome = true ∨ strategy.isIdentity = true then ""
  else (Alteration.newDefault? column none storeType).elim "" (" DEFAULT " ++ ·)

/-- The definition of a column whose type is resolved. -/
def definition (column : Column) (strategy : GenerationStrategy) (storeType : String) : String :=
  let written := serialStoreType strategy storeType
  column.head written ++ column.defaultText strategy written ++
    if strategy.isIdentity then " " ++ identityClause strategy else ""

end Column

namespace Statement

theorem serialStoreType_of_isIdentity {strategy : GenerationStrategy}
    (h : strategy.isIdentity = true) (storeType : String) :
    serialStoreType strategy storeType = storeType := by
  refine if_neg ?_
  rintro rfl
  cases h

theorem serialType?_eq (storeType : String) :
    serialType? storeType =
      (IntegerWidth.ofStoreType? storeType).map IntegerWidth.serialType := by
  unfold serialType? IntegerWidth.ofStoreType?
  split <;> simp_all [IntegerWidth.serialType]

theorem serialStoreType_serial (storeType : String) :
    serialStoreType .serial storeType =
      (IntegerWidth.ofStoreType? storeType).elim storeType IntegerWidth.serialType := by
  rw [serialStoreType, if_pos rfl, serialType?_eq]
  cases IntegerWidth.ofStoreType? storeType <;> rfl

theorem writes_columnDefinitionOf (column : Column) (hname : Identifier.Valid column.name)
    (storeType : String) :
    (columnDefinitionOf column storeType).Writes ()
      (column.head storeType ++ column.defaultText .none storeType) := by
  have hclause := (silent_defaultClause _ _ storeType).writes
    (result_defaultClause column none storeType)
  refine ((writes_appendName (ObjectName.valid_of_name.2 hname)).then ((writes_append _).then
    ((writes_append _).then ((writes_optionally fun _ _ => writes_append _).then
    ((writes_onlyIf fun _ => writes_append _).then
    (writes_onlyIf fun _ => hclause.then (writes_append _))))))).congr ?_
  rw [Column.head, Column.defaultText]
  cases column.computedSql <;> cases column.nullable <;>
    simp [GenerationStrategy.isIdentity, ObjectName.quoted, String.append_assoc]

theorem valid_of_succeeds_columnDefinition {g : Generator} {version : Version} {schema : String}
    (hg : g.dialect = .postgres version schema) {table : ObjectName} {column : Column}
    {model : Option Model} (h : (columnDefinition g table column model).Succeeds) :
    Identifier.Valid column.name := by
  rw [columnDefinition, hg] at h
  simp only [succeeds_ofResult_bind, succeeds_then] at h
  obtain ⟨view, -, -, -, htyped⟩ := h
  obtain ⟨storeType, -, hdefined⟩ := succeeds_bind_iff.1 htyped
  split at hdefined
  · have hbare := succeeds_columnDefinitionOf.1 (succeeds_then.1 hdefined).1
    exact hbare
  · exact succeeds_columnDefinitionOf.1 hdefined

theorem exists_writes_columnDefinition {g : Generator} {version : Version} {schema : String}
    (hg : g.dialect = .postgres version schema) {table : ObjectName} {column : Column}
    {model : Option Model} (h : (columnDefinition g table column model).Succeeds) :
    ∃ view storeType, AnnotationView.ofBag column.annotations = .ok view ∧
      column.resolvedType? table model = some storeType ∧
      (columnDefinition g table column model).Writes ()
        (column.definition view.strategy storeType) := by
  have hname := valid_of_succeeds_columnDefinition hg h
  obtain ⟨view, hview, hcomputed, hidentity, htyped⟩ := (succeeds_columnDefinition hg hname).1 h
  obtain ⟨storeType, htype⟩ := exists_resolvedType?_iff.2 htyped
  refine ⟨view, storeType, hview, htype, ?_⟩
  have hdemand {p : Prop} [Decidable p] {bound : Version} {feature : String}
      (hp : p → version.atLeast bound) :
      (onlyIf p (ofResult (version.demand bound feature))).Writes () "" :=
    (writes_onlyIf fun h => writes_ofResult (Version.demand_eq_ok_iff.2 (hp h))).congr (ite_self "")
  have htyped := (silent_columnType table column model).writes (columnType_eq_ok_iff.2 htype)
  rw [columnDefinition, hg]
  refine (writes_ofResult hview).silently ((hdemand hcomputed).silently
    ((hdemand hidentity).silently (htyped.silently ?_)))
  cases hstrategy : view.strategy.isIdentity with
  | true =>
    -- The default is taken away before the definition is written.
    let bare : Column := { column with defaultValue := none, defaultSql := none }
    have hbare : bare.defaultText .none storeType = "" := by
      rw [Column.defaultText]
      split <;> rfl
    refine ((writes_columnDefinitionOf bare hname storeType).then (writes_append _)).congr ?_
    rw [hbare, Column.definition, serialStoreType_of_isIdentity hstrategy, Column.defaultText,
      if_pos (.inr hstrategy), if_pos hstrategy]
    rfl
  | false =>
    have hnone : GenerationStrategy.none.isIdentity = false := rfl
    have hdefinition : column.definition view.strategy storeType =
        column.head (serialStoreType view.strategy storeType) ++
          column.defaultText .none (serialStoreType view.strategy storeType) := by
      simp [Column.definition, Column.defaultText, hstrategy, hnone]
    rw [hdefinition]
    exact writes_columnDefinitionOf column hname _

/-- A column is added by one statement, and its comment, if it has one, by another. -/
theorem exists_sends_addColumn {g : Generator} {version : Version} {schema : String}
    (hg : g.dialect = .postgres version schema) {table : ObjectName} {column : Column}
    {model : Option Model} (hvalid : (Operation.addColumn table column).Valid)
    (hcolumn : isSystemColumn column.name = false)
    (h : (addColumn g table column model true).Succeeds) :
    ∃ view storeType, AnnotationView.ofBag column.annotations = .ok view ∧
      column.resolvedType? table model = some storeType ∧
      (addColumn g table column model true).Sends "" [⟨g.lines (
        ("ALTER TABLE " ++ table.quoted ++ " ADD " ++ column.definition view.strategy storeType) ::
          (view.comment.map (TableDefinition.columnComment table column.name)).toList), false⟩] := by
  obtain ⟨htable, hname⟩ := Requirement.valid_of_column hvalid
  obtain ⟨view, storeType, hview, htype, hdefined⟩ :=
    exists_writes_columnDefinition hg ((succeeds_addColumn hg htable hname).1 h hcolumn)
  refine ⟨view, storeType, hview, htype, ?_⟩
  have hcomment : (optionally view.comment fun comment => do
      let name ← ofResult table.delimit
      g.endLine
      commentOnColumn name column.name (some comment)).Writes ()
        (view.comment.elim "" fun comment => g.terminator ++ "\n" ++
          TableDefinition.columnComment table column.name comment) :=
    writes_optionally fun comment _ =>
      (writes_ofResult (ObjectName.delimit_eq_ok_iff.2 ⟨htable, rfl⟩)).silently
        ((writes_endLine g).then (writes_columnComment table hname comment))
  have hclause : (addColumnClause g table column model).Writes () _ :=
    (writes_append _).then ((writes_appendName htable).then ((writes_append _).then hdefined))
  rw [addColumn, hg]
  simp only [hcolumn, Bool.false_eq_true, if_false]
  refine (writes_ofResult hview).sends (hclause.sends (hcomment.sends
    ((sends_terminate g false ?_).congr ?_)))
  · simp only [String.append_assoc, String.empty_append]
    exact Text.isBlank_append_left (by decide) _
  · rw [Generator.lines_cons_eq]
    cases view.comment <;> simp [String.append_assoc]

end Statement

end SchemaDdl
