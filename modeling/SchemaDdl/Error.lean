import SchemaDdl.Numeral

/-!
# Errors

Every failure that reaches a caller is one of these kinds. A kind fixes the
beginning of the message and the exit code; the text says what is wrong.
-/

namespace SchemaDdl

inductive DdlError where
  | config (text : String)
  | invalidArgument (operation text : String)
  | typeNotFound (subject : String)
  | unsupported (text : String)
  | io (text : String)
  | yaml
  | json
  deriving DecidableEq, Repr, Inhabited

namespace DdlError

def message : DdlError → String
  | config text => "Configuration error: " ++ text
  | invalidArgument operation text => "Invalid argument for " ++ operation ++ ": " ++ text
  | typeNotFound subject => "No type mapping found for " ++ subject
  | unsupported text => "Unsupported operation: " ++ text
  | io text => "IO error: " ++ text
  | yaml => "YAML error"
  | json => "JSON error"

def exitCode : DdlError → Nat
  | config _ => 1
  | invalidArgument _ _ => 2
  | typeNotFound _ => 3
  | unsupported _ => 4
  | json => 5
  | io _ => 7
  | yaml => 1

/-- The underlying causes of an error, nearest first. -/
def causes : DdlError → List String
  | io text => [text]
  | _ => []

/-- One line for each cause, numbered from `depth`. -/
def causeLines : Nat → List String → String
  | _, [] => ""
  | depth, cause :: rest =>
    "\nCaused by:\n  " ++ Numeral.ofNat depth ++ ": " ++ cause ++ causeLines (depth + 1) rest

def detailed (e : DdlError) : String :=
  "Error: " ++ e.message ++ "\n" ++ causeLines 1 e.causes

end DdlError

abbrev Result (α : Type) := Except DdlError α

namespace Result

variable {ε α β : Type}

theorem bind_eq_ok_iff {result : Except ε α} {f : α → Except ε β} {b : β} :
    (result >>= f) = .ok b ↔ ∃ a, result = .ok a ∧ f a = .ok b := by
  cases result with
  | error e => simp [bind, Except.bind]
  | ok a => simp [bind, Except.bind]

theorem then_eq_ok_iff {result : Result Unit} {f : Unit → Result β} {b : β} :
    (result >>= f) = .ok b ↔ result = .ok () ∧ f () = .ok b :=
  bind_eq_ok_iff.trans ⟨fun ⟨_, h⟩ => h, fun h => ⟨(), h⟩⟩

theorem pure_eq_ok_iff {a b : α} : (pure a : Except ε α) = .ok b ↔ b = a := by
  simp [pure, Except.pure, eq_comm]

theorem exists_eq_ok {result : Result α} (h : result.isOk = true) : ∃ a, result = .ok a := by
  cases result with
  | error e => cases h
  | ok a => exact ⟨a, rfl⟩

/-- A step for each item of a list succeeds if every single one does. -/
theorem exists_mapM_iff {f : α → Except ε β} {as : List α} :
    (∃ bs, as.mapM f = .ok bs) ↔ ∀ a ∈ as, ∃ b, f a = .ok b := by
  induction as with
  | nil => simp [pure_eq_ok_iff]
  | cons a as ih =>
    simp only [List.mapM_cons, bind_eq_ok_iff, pure_eq_ok_iff, List.forall_mem_cons, ← ih]
    constructor
    · rintro ⟨_, b, hb, bs, hbs, -⟩
      exact ⟨⟨b, hb⟩, bs, hbs⟩
    · rintro ⟨⟨b, hb⟩, bs, hbs⟩
      exact ⟨b :: bs, b, hb, bs, hbs, rfl⟩

theorem exists_of_mem_mapM {f : α → Result β} {as : List α} {bs : List β} {b : β}
    (h : as.mapM f = .ok bs) (hb : b ∈ bs) : ∃ a ∈ as, f a = .ok b := by
  induction as generalizing bs with
  | nil =>
    rw [List.mapM_nil, pure_eq_ok_iff] at h
    simp [h] at hb
  | cons a as ih =>
    simp only [List.mapM_cons, bind_eq_ok_iff, pure_eq_ok_iff] at h
    obtain ⟨first, hfirst, rest, hrest, rfl⟩ := h
    rcases List.mem_cons.1 hb with rfl | hb
    · exact ⟨a, List.mem_cons_self, hfirst⟩
    · obtain ⟨a', ha', hf⟩ := ih hrest hb
      exact ⟨a', List.mem_cons_of_mem a ha', hf⟩

theorem exists_of_mapM_error {f : α → Result β} {as : List α} {e : DdlError}
    (h : as.mapM f = .error e) : ∃ a ∈ as, f a = .error e := by
  induction as with
  | nil => cases h
  | cons a as ih =>
    rw [List.mapM_cons] at h
    cases ha : f a with
    | error e' =>
      rw [ha] at h
      cases h
      exact ⟨a, List.mem_cons_self, ha⟩
    | ok b =>
      cases has : as.mapM f with
      | error e' =>
        rw [ha, has] at h
        cases h
        obtain ⟨a', ha', hf⟩ := ih has
        exact ⟨a', List.mem_cons_of_mem a ha', hf⟩
      | ok bs =>
        rw [ha, has] at h
        cases h

end Result

end SchemaDdl
