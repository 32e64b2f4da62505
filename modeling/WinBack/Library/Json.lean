import Mathlib.Algebra.Ring.Nat

/-! JSON values as JavaScript holds them. -/

namespace WinBack.Library

/-- A JSON value. An object keeps one entry for each key. -/
inductive Json where
  | null
  | bool (value : Bool)
  | num (value : Rat)
  | str (value : String)
  | arr (items : List Json)
  | obj (fields : List (String × Json))
  deriving Inhabited, Repr

namespace Json

section Equality

mutual

def decEq : (first second : Json) → Decidable (first = second)
  | .null, .null => .isTrue rfl
  | .bool one, .bool other => decidable_of_iff (one = other) (by simp)
  | .num one, .num other => decidable_of_iff (one = other) (by simp)
  | .str one, .str other => decidable_of_iff (one = other) (by simp)
  | .arr one, .arr other =>
    match decItems one other with
    | .isTrue same => .isTrue (congrArg arr same)
    | .isFalse apart => .isFalse fun same => apart (arr.inj same)
  | .obj one, .obj other =>
    match decFields one other with
    | .isTrue same => .isTrue (congrArg obj same)
    | .isFalse apart => .isFalse fun same => apart (obj.inj same)
  | .null, .bool _ | .null, .num _ | .null, .str _ | .null, .arr _ | .null, .obj _
  | .bool _, .null | .bool _, .num _ | .bool _, .str _ | .bool _, .arr _ | .bool _, .obj _
  | .num _, .null | .num _, .bool _ | .num _, .str _ | .num _, .arr _ | .num _, .obj _
  | .str _, .null | .str _, .bool _ | .str _, .num _ | .str _, .arr _ | .str _, .obj _
  | .arr _, .null | .arr _, .bool _ | .arr _, .num _ | .arr _, .str _ | .arr _, .obj _
  | .obj _, .null | .obj _, .bool _ | .obj _, .num _ | .obj _, .str _ | .obj _, .arr _ => .isFalse nofun

def decItems : (first second : List Json) → Decidable (first = second)
  | [], [] => .isTrue rfl
  | [], _ :: _ | _ :: _, [] => .isFalse nofun
  | one :: rest, other :: more =>
    match decEq one other, decItems rest more with
    | .isTrue same, .isTrue later => .isTrue (same ▸ later ▸ rfl)
    | .isFalse apart, _ => .isFalse fun same => apart (List.cons.inj same).1
    | _, .isFalse apart => .isFalse fun same => apart (List.cons.inj same).2

def decFields : (first second : List (String × Json)) → Decidable (first = second)
  | [], [] => .isTrue rfl
  | [], _ :: _ | _ :: _, [] => .isFalse nofun
  | (name, one) :: rest, (key, other) :: more =>
    match decEq one other, decFields rest more with
    | .isTrue same, .isTrue later => decidable_of_iff (name = key) (by simp [same, later])
    | .isFalse apart, _ => .isFalse fun same => apart (Prod.mk.inj (List.cons.inj same).1).2
    | _, .isFalse apart => .isFalse fun same => apart (List.cons.inj same).2

end

instance : DecidableEq Json := decEq

end Equality

/-- A field of an object; `none` stands for `undefined`. -/
def get? (value : Json) (key : String) : Option Json :=
  match value with
  | .obj fields => (fields.find? fun field => field.1 == key).map Prod.snd
  | _ => none

@[simp] theorem get?_nil (key : String) : (obj []).get? key = none := rfl

theorem get?_cons (name : String) (value : Json) (rest : List (String × Json)) (key : String) :
    (obj ((name, value) :: rest)).get? key = if name = key then some value else (obj rest).get? key := by
  by_cases same : name = key <;> simp [get?, same]

end Json

/-- `text.length`: the number of UTF-16 code units. -/
def utf16Length (text : String) : Nat :=
  (text.toList.map fun char => if char.val < 0x10000 then 1 else 2).sum

/-- `text.slice(0, limit)` for a cut between two characters. -/
def utf16Prefix (limit : Nat) (text : String) : String :=
  String.ofList (go limit text.toList)
where
  go : Nat → List Char → List Char
    | _, [] => []
    | room, char :: rest =>
      let width := if char.val < 0x10000 then 1 else 2
      if width ≤ room then char :: go (room - width) rest else []

end WinBack.Library
