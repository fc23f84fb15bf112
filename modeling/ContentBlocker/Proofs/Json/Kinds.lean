import ContentBlocker.Json.Basic

/-!
# Kinds of values

What a value is, without the readings that find it out, and what it has under a key.
-/

namespace ContentBlocker.Json

/-! ## Kinds -/

def IsObject (v : Json) : Prop := ∃ fields, v = .obj fields

def IsInteger (v : Json) : Prop := ∃ n, v = .int n

def IsText (v : Json) : Prop := ∃ s, v = .str s

def IsBool (v : Json) : Prop := ∃ b, v = .bool b

def IsArray (v : Json) : Prop := ∃ items, v = .arr items

/-- An array of values of one kind; one without any is of every kind. -/
def IsArrayOf (kind : Json → Prop) (v : Json) : Prop :=
  ∃ items, v = .arr items ∧ ∀ item ∈ items, kind item

/-- One of some words. -/
def IsWordOf (words : List String) (v : Json) : Prop := ∃ word ∈ words, v = .str word

variable {v : Json}

theorem isSome_obj? : v.obj?.isSome = true ↔ v.IsObject := by
  cases v <;> simp [obj?, IsObject]

theorem isSome_int? : v.int?.isSome = true ↔ v.IsInteger := by
  cases v <;> simp [int?, IsInteger]

theorem isSome_str? : v.str?.isSome = true ↔ v.IsText := by
  cases v <;> simp [str?, IsText]

theorem isSome_bool? : v.bool?.isSome = true ↔ v.IsBool := by
  cases v <;> simp [bool?, IsBool]

theorem isSome_arr? : v.arr?.isSome = true ↔ v.IsArray := by
  cases v <;> simp [arr?, IsArray]

theorem obj_of_obj? {fields : Fields} (read : v.obj? = some fields) : v = .obj fields := by
  cases v <;> cases read
  rfl

theorem int_of_int? {n : Int} (read : v.int? = some n) : v = .int n := by
  cases v <;> cases read
  rfl

theorem str_of_str? {s : Text} (read : v.str? = some s) : v = .str s := by
  cases v <;> cases read
  rfl

theorem str?_eq_some {s : Text} : v.str? = some s ↔ v = .str s :=
  ⟨str_of_str?, congrArg str?⟩

theorem bool_of_bool? {b : Bool} (read : v.bool? = some b) : v = .bool b := by
  cases v <;> cases read
  rfl

theorem arr_of_arr? {items : List Json} (read : v.arr? = some items) : v = .arr items := by
  cases v <;> cases read
  rfl

/-! ## Fields -/

/-- What a value has under a key; only an object has anything. -/
def get? (v : Json) (key : Text) : Option Json := v.obj?.bind fun fields => fields.get? key

theorem get?_obj (fields : Fields) (key : Text) : (obj fields).get? key = fields.get? key := rfl

/-- A value with a field is an object. -/
theorem obj_of_get? {key : Text} {a : Json} (here : v.get? key = some a) :
    ∃ fields : Fields, v = .obj fields ∧ fields.get? key = some a := by
  obtain ⟨fields, read, found⟩ := Option.bind_eq_some_iff.1 here
  exact ⟨fields, obj_of_obj? read, found⟩

/-- What a value holds under a key.  An object without the key holds null there, and so does a value
that is no object. -/
def field (v : Json) (key : Text) : Json :=
  match v with
  | .obj fields => (Table.get? fields key).getD .null
  | _ => .null

theorem field_eq_str {fields : Fields} {key s : Text} :
    (Json.obj fields).field key = .str s ↔ fields.get? key = some (.str s) := by
  unfold field
  cases h : Table.get? fields key <;> simp [h]

theorem str?_field (fields : Fields) (key : Text) :
    ((obj fields).field key).str? = (fields.get? key).bind str? := by
  have held : (obj fields).field key = (fields.get? key).getD .null := rfl
  rw [held]
  cases fields.get? key <;> rfl

/-- A value that holds something is an object. -/
theorem isObject_of_field (key : Text) (held : v.field key ≠ .null) : v.IsObject := by
  cases v with
  | obj fields => exact ⟨fields, rfl⟩
  | null | bool | int | float | str | arr => exact absurd rfl held

end ContentBlocker.Json
