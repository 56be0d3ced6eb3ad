import SchemaDdl.Proofs.Composition
import SchemaDdl.Proofs.Statement.Batch

/-!
# Altering a table

Only annotations of a table can change. The statements that are sent for a
change are data here; carried out one after the other, they turn what the old
annotations say of the table into what the new ones say.
-/

namespace SchemaDdl

open Statement

structure TableState where
  unlogged : Bool
  parameters : String → Option String
  comment : Option String

def AnnotationView.tableState (view : AnnotationView) : TableState :=
  ⟨view.unlogged, view.storage.get?, view.comment⟩

inductive TableAction where
  | logging (unlogged : Bool)
  | set (pairs : List (String × String))
  | reset (names : List String)
  | comment (text : Option String)

namespace TableAction

open StorageParameters

def sql (table : String) : TableAction → String
  | logging unlogged =>
    "ALTER TABLE " ++ table ++ if unlogged then " SET UNLOGGED" else " SET LOGGED"
  | set pairs => "ALTER TABLE " ++ table ++ " SET (" ++ pairsText pairs ++ ")"
  | reset names => "ALTER TABLE " ++ table ++ " RESET (" ++ String.intercalate ", " names ++ ")"
  | comment text => commentOnTable table text

def replay (state : TableState) : TableAction → TableState
  | logging unlogged => { state with unlogged }
  | set pairs => { state with parameters := assigned state.parameters pairs }
  | reset names => { state with parameters := unassigned state.parameters names }
  | comment text => { state with comment := text }

/-- The parameters are set before the ones that are gone are reset. -/
def between (new old : AnnotationView) : List TableAction :=
  let changed := changedFrom new.storage old.storage
  let removed := removedFrom new.storage old.storage
  (if new.unlogged = old.unlogged then [] else [logging new.unlogged]) ++
    (if changed = [] then [] else [set changed]) ++
    (if removed = [] then [] else [reset removed]) ++
    if new.comment = old.comment then [] else [comment new.comment]

theorem map_sql_between (table : String) (new old : AnnotationView) :
    (between new old).map (sql table) = tableChanges table new old := by
  have hpart {p : Prop} [Decidable p] (action : TableAction) :
      (if p then [] else [action]).map (sql table) = if p then [] else [action.sql table] := by
    split <;> rfl
  simp only [between, tableChanges, List.map_append, hpart, List.isEmpty_iff]
  rfl

theorem foldl_replay_append {first second : List TableAction} {a b c : TableState}
    (hfirst : first.foldl replay a = b) (hsecond : second.foldl replay b = c) :
    (first ++ second).foldl replay a = c := by
  rw [List.foldl_append, hfirst, hsecond]

theorem foldl_replay_unless {p : Prop} [Decidable p] {a b : TableState} {action : TableAction}
    (hidle : p → a = b) (hnext : replay a action = b) :
    (if p then [] else [action]).foldl replay a = b := by
  split
  · next h => exact hidle h
  · exact hnext

theorem replay_between (new old : AnnotationView) :
    (between new old).foldl replay old.tableState = new.tableState := by
  have hdiff := isDiff_changedFrom_removedFrom new.storage old.storage
  have hparameters (text : Option String) :=
    congrArg (TableState.mk new.unlogged · text) hdiff.replay
  -- One statement at a time; where there is none, it would not have changed anything.
  refine foldl_replay_append (foldl_replay_append (foldl_replay_append
    (foldl_replay_unless ?_ rfl) (foldl_replay_unless ?_ rfl)) (foldl_replay_unless ?_ rfl))
    (foldl_replay_unless ?_ ?_)
  · intro hunlogged
    rw [replay, hunlogged]
    rfl
  · intro hchanged
    rw [hchanged]
    rfl
  · intro hremoved
    rw [hremoved]
    rfl
  · intro hcomment
    unfold AnnotationView.tableState
    rw [hcomment]
    exact hparameters old.comment
  · exact hparameters new.comment

end TableAction

namespace Generator

/-- Between the annotations of a table that can be read, the storage parameters have a difference
that leads from the old ones to the new ones. An alteration of the table sends just the statements
with that difference, and carried out in this order they turn the old table into the new one. -/
theorem generateWith_alterTable {annotations old : AnnotationBag} {view oldView : AnnotationView}
    (hview : AnnotationView.ofBag annotations = .ok view)
    (hold : AnnotationView.ofBag old = .ok oldView) :
    StorageParameters.IsDiff view.storage oldView.storage
        (StorageParameters.changedFrom view.storage oldView.storage)
        (StorageParameters.removedFrom view.storage oldView.storage) ∧
      (TableAction.between view oldView).foldl TableAction.replay oldView.tableState =
        view.tableState ∧
      ∀ (terminator : String) (version : Version) (schema : String) (asked : List TypeQuery)
        (model : Option Model) (table : ObjectName),
        let g : Generator := ⟨terminator, .postgres version schema⟩
        (Operation.alterTable table annotations old).validate = .ok () →
          (g.generateWith (.after asked) model [.alterTable table annotations old]).1 =
            .ok (g.batched ((TableAction.between view oldView).map
              (TableAction.sql table.quoted))) := by
  refine ⟨StorageParameters.isDiff_changedFrom_removedFrom _ _,
    TableAction.replay_between view oldView, ?_⟩
  intro terminator version schema asked model table g hvalid
  have htable := Requirement.valid_of_object (Operation.validate_eq_ok_iff.1 hvalid)
  have hg : g.dialect = .postgres version schema := rfl
  rw [TableAction.map_sql_between]
  exact generateWith_eq_of_sends (Memo.sound_after asked) hvalid
    (sends_alterTable hg htable hview hold)

/-- One parameter gets another value, one is new, one is reset, and one only changes its place. -/
theorem generateWith_alterTable_parameters :
    let g : Generator := ⟨";", .postgres ⟨14, 0⟩ "public"⟩
    let table : ObjectName := { name := "orders" }
    let annotations : AnnotationBag := .ofList [
      ("Postgres:StorageParameter:parallel_workers", .integer 4),
      ("Postgres:StorageParameter:autovacuum_enabled", .bool false),
      ("Postgres:StorageParameter:user_catalog_table", .bool true)]
    let old : AnnotationBag := .ofList [
      ("Postgres:StorageParameter:autovacuum_enabled", .bool false),
      ("Postgres:StorageParameter:fillfactor", .integer 70),
      ("Postgres:StorageParameter:parallel_workers", .integer 2)]
    ∃ view oldView, AnnotationView.ofBag annotations = .ok view ∧
      AnnotationView.ofBag old = .ok oldView ∧
      StorageParameters.IsDiff view.storage oldView.storage
        (StorageParameters.changedFrom view.storage oldView.storage)
        (StorageParameters.removedFrom view.storage oldView.storage) ∧
      (TableAction.between view oldView).foldl TableAction.replay oldView.tableState =
        view.tableState ∧
      (g.generateWith (.after []) none [.alterTable table annotations old]).1 =
        .ok (g.batched ((TableAction.between view oldView).map
          (TableAction.sql table.quoted))) := by
  intro g table annotations old
  have hok : (AnnotationView.ofBag annotations).isOk = true := by decide +kernel
  have holdOk : (AnnotationView.ofBag old).isOk = true := by decide +kernel
  have hvalid : (Operation.alterTable table annotations old).Valid := by decide +kernel
  obtain ⟨view, hview⟩ := Result.exists_eq_ok hok
  obtain ⟨oldView, hold⟩ := Result.exists_eq_ok holdOk
  obtain ⟨hdiff, hreplay, hsent⟩ := generateWith_alterTable hview hold
  exact ⟨view, oldView, hview, hold, hdiff, hreplay,
    hsent ";" ⟨14, 0⟩ "public" [] none table (Operation.validate_eq_ok_iff.2 hvalid)⟩

end Generator

end SchemaDdl
