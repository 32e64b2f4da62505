import WinBack.Library.Json

/-! Validation of JSON values. A shape accepts a value, possibly filling in
defaults and dropping unknown keys, or rejects it with issues whose paths lead to
what is wrong. The input `none` is `undefined`. -/

namespace WinBack.Library

inductive IssueCode where
  | invalidType (expected received : String)
  | tooSmall (origin : String) (minimum : Nat) (unit : String)
  | tooBig (origin : String) (maximum : Nat) (unit : String)
  | invalidValue (options : List String)
  | unrecognizedKeys (keys : List String)
  | invalidUnion
  | custom (message : String)
  deriving DecidableEq, Repr

structure Issue where
  path : List String
  code : IssueCode
  deriving DecidableEq, Repr

/-- `typeof` with arrays and null told apart. -/
def parsedType : Option Json → String
  | none => "undefined"
  | some .null => "null"
  | some (.bool _) => "boolean"
  | some (.num _) => "number"
  | some (.str _) => "string"
  | some (.arr _) => "array"
  | some (.obj _) => "object"

def quoted (text : String) : String := "\"" ++ text ++ "\""

def IssueCode.message : IssueCode → String
  | .invalidType expected received => s!"Invalid input: expected {expected}, received {received}"
  | .tooSmall origin minimum unit => s!"Too small: expected {origin} to have >={minimum} {unit}"
  | .tooBig origin maximum unit => s!"Too big: expected {origin} to have <={maximum} {unit}"
  | .invalidValue options =>
    "Invalid option: expected one of " ++ "|".intercalate (options.map quoted)
  | .unrecognizedKeys keys =>
    (if keys.length = 1 then "Unrecognized key: " else "Unrecognized keys: ") ++
      ", ".intercalate (keys.map quoted)
  | .invalidUnion => "Invalid input"
  | .custom message => message

/-- The issue of a part, seen from the whole. -/
def Issue.under (key : String) (issue : Issue) : Issue := { issue with path := key :: issue.path }

abbrev Shape := Option Json → Except (List Issue) (Option Json)

inductive UnknownKeys where
  | strip | strict | loose
  deriving DecidableEq, Repr

namespace Shape

def invalidType (expected : String) (input : Option Json) : Except (List Issue) (Option Json) :=
  .error [⟨[], .invalidType expected (parsedType input)⟩]

/-- `z.string().min(minimum).max(maximum)`. -/
def string (minimum : Nat := 0) (maximum : Option Nat := none) : Shape
  | some (.str text) =>
    let short := if utf16Length text < minimum then
      [(⟨[], .tooSmall "string" minimum "characters"⟩ : Issue)] else []
    let long := maximum.elim [] fun most =>
      if most < utf16Length text then [(⟨[], .tooBig "string" most "characters"⟩ : Issue)] else []
    if short ++ long = [] then .ok (some (.str text)) else .error (short ++ long)
  | input => invalidType "string" input

def number : Shape
  | some (.num value) => .ok (some (.num value))
  | input => invalidType "number" input

def oneOf (options : List String) : Shape
  | some (.str text) =>
    if text ∈ options then .ok (some (.str text)) else .error [⟨[], .invalidValue options⟩]
  | _ => .error [⟨[], .invalidValue options⟩]

def optional (shape : Shape) : Shape
  | none => .ok none
  | input => shape input

def nullable (shape : Shape) : Shape
  | some .null => .ok (some .null)
  | input => shape input

def withDefault (shape : Shape) (value : Json) : Shape
  | none => .ok (some value)
  | input => shape input

/-- A check on what a shape accepted. -/
def check (shape : Shape) (holds : Json → Bool) (message : String) : Shape := fun input => do
  let output ← shape input
  if output.all holds then return output else throw [⟨[], .custom message⟩]

/-- `z.number().int()`: a safe integer. -/
def int : Shape :=
  number.check (fun
    | .num value => value.den == 1 && decide (value.num.natAbs < 2 ^ 53)
    | _ => false) "Invalid input: expected int, received number"

/-- The first shape that accepts. -/
def union (shapes : List Shape) : Shape := fun input =>
  match shapes.findSome? fun shape => (shape input).toOption with
  | some output => .ok output
  | none => .error [⟨[], .invalidUnion⟩]

/-- The results of the parts of a whole: all outputs, or the issues of every part. -/
def collect : List (String × Except (List Issue) (Option Json)) →
    Except (List Issue) (List (String × Json))
  | [] => .ok []
  | (key, result) :: rest =>
    match result, collect rest with
    | .ok output, .ok outputs => .ok ((output.map fun value => (key, value)).toList ++ outputs)
    | .ok _, .error later => .error later
    | .error issues, .ok _ => .error (issues.map (Issue.under key))
    | .error issues, .error later => .error (issues.map (Issue.under key) ++ later)

def array (item : Shape) (maximum : Option Nat := none) : Shape
  | some (.arr items) =>
    let long := maximum.elim [] fun most =>
      if most < items.length then [(⟨[], .tooBig "array" most "items"⟩ : Issue)] else []
    match collect (items.zipIdx.map fun (value, index) => (toString index, item (some value))), long with
    | .ok outputs, [] => .ok (some (.arr (outputs.map Prod.snd)))
    | .ok _, long => .error long
    | .error issues, long => .error (issues ++ long)
  | input => invalidType "array" input

/-- `z.object(fields)`, with its treatment of keys that are not fields. -/
def object (fields : List (String × Shape)) (unknown : UnknownKeys := .strip) : Shape
  | some (.obj entries) =>
    let extra := entries.filter fun entry => !fields.any fun field => field.1 == entry.1
    let surplus := if unknown = .strict ∧ extra ≠ [] then
      [(⟨[], .unrecognizedKeys (extra.map Prod.fst)⟩ : Issue)] else []
    match collect (fields.map fun field => (field.1, field.2 ((Json.obj entries).get? field.1))), surplus with
    | .ok outputs, [] => .ok (some (.obj (outputs ++ if unknown = .loose then extra else [])))
    | .ok _, surplus => .error surplus
    | .error issues, surplus => .error (issues ++ surplus)
  | input => invalidType "object" input

theorem collect_error {results : List (String × Except (List Issue) (Option Json))} {key : String}
    {issues : List Issue} (member : (key, .error issues) ∈ results) :
    ∃ all, collect results = .error all ∧ ∀ issue ∈ issues, issue.under key ∈ all := by
  induction results with
  | nil => cases member
  | cons head rest ih =>
    rcases List.mem_cons.mp member with rfl | later
    · cases rests : collect rest with
      | ok outputs => exact ⟨_, by simp [collect, rests], fun issue present => List.mem_map_of_mem present⟩
      | error others =>
        refine ⟨_, by simp only [collect, rests]; rfl, fun issue present => ?_⟩
        exact List.mem_append_left _ (List.mem_map_of_mem present)
    · obtain ⟨all, failed, named⟩ := ih later
      obtain ⟨name, result⟩ := head
      cases result with
      | ok output => exact ⟨all, by simp [collect, failed], named⟩
      | error others =>
        refine ⟨_, by simp only [collect, failed]; rfl, fun issue present => ?_⟩
        exact List.mem_append_right _ (named issue present)

/-- An object whose field is rejected is rejected, and its issues name the field. -/
theorem object_error {fields : List (String × Shape)} {unknown : UnknownKeys} {key : String}
    {shape : Shape} {entries : List (String × Json)} {issues : List Issue} (member : (key, shape) ∈ fields)
    (rejected : shape ((Json.obj entries).get? key) = .error issues) :
    ∃ all, object fields unknown (some (.obj entries)) = .error all ∧
      ∀ issue ∈ issues, issue.under key ∈ all := by
  have listed : (key, Except.error issues) ∈
      fields.map fun field => (field.1, field.2 ((Json.obj entries).get? field.1)) :=
    List.mem_map.mpr ⟨(key, shape), member, congrArg (Prod.mk key) rejected⟩
  obtain ⟨all, failed, named⟩ := collect_error listed
  refine ⟨_, by simp only [object, failed]; rfl, fun issue present => ?_⟩
  exact List.mem_append_left _ (named issue present)

/-- A required string field is missing. -/
theorem object_missing_string {fields : List (String × Shape)} {unknown : UnknownKeys} {key : String}
    {minimum : Nat} {maximum : Option Nat} {entries : List (String × Json)}
    (member : (key, string minimum maximum) ∈ fields) (absent : (Json.obj entries).get? key = none) :
    ∃ all, object fields unknown (some (.obj entries)) = .error all ∧
      ⟨[key], .invalidType "string" "undefined"⟩ ∈ all := by
  have rejected : string minimum maximum ((Json.obj entries).get? key) =
      .error [⟨[], .invalidType "string" "undefined"⟩] := by
    rw [absent]
    rfl
  obtain ⟨all, failed, named⟩ := object_error member rejected
  exact ⟨all, failed, named ⟨[], .invalidType "string" "undefined"⟩ (by simp)⟩

theorem get?_collect_absent {results : List (String × Except (List Issue) (Option Json))} {outputs : List (String × Json)}
    {key : String} (collected : collect results = .ok outputs) (absent : key ∉ results.map Prod.fst) :
    (Json.obj outputs).get? key = none := by
  induction results generalizing outputs with
  | nil =>
    cases collected
    rfl
  | cons head rest ih =>
    obtain ⟨name, result⟩ := head
    rw [List.map_cons, List.mem_cons, not_or] at absent
    cases rests : collect rest with
    | error issues => cases result <;> simp [collect, rests] at collected
    | ok others =>
      cases result with
      | error issues => simp [collect, rests] at collected
      | ok value =>
        simp only [collect, rests, Except.ok.injEq] at collected
        subst collected
        cases value with
        | none => exact ih rests absent.2
        | some value => exact (Json.get?_cons name value others key).trans ((if_neg (Ne.symm absent.1)).trans (ih rests absent.2))

/-- What an accepted whole has for a part is what the part gave. -/
theorem get?_collect {results : List (String × Except (List Issue) (Option Json))} {outputs : List (String × Json)}
    {key : String} {output : Option Json} (collected : collect results = .ok outputs)
    (distinct : (results.map Prod.fst).Nodup) (member : (key, .ok output) ∈ results) :
    (Json.obj outputs).get? key = output := by
  induction results generalizing outputs with
  | nil => cases member
  | cons head rest ih =>
    obtain ⟨name, result⟩ := head
    obtain ⟨apart, later⟩ := List.nodup_cons.mp distinct
    cases result with
    | error issues =>
      cases rests : collect rest <;> simp [collect, rests] at collected
    | ok value =>
      cases rests : collect rest with
      | error issues => simp [collect, rests] at collected
      | ok others =>
        simp only [collect, rests, Except.ok.injEq] at collected
        subst collected
        rcases List.mem_cons.mp member with here | there
        · cases here
          have absent : (Json.obj others).get? key = none := get?_collect_absent rests apart
          cases output with
          | none => exact absent
          | some value => exact (Json.get?_cons key value others key).trans (if_pos rfl)
        · have differ : name ≠ key := fun same => apart (same ▸ List.mem_map.mpr ⟨_, there, rfl⟩)
          have found := ih rests later there
          cases value with
          | none => exact found
          | some value => exact ((Json.get?_cons name value others key).trans (if_neg differ)).trans found

/-- Where unknown keys are not kept, an accepted object has for a field what its shape gave. -/
theorem object_get? {fields : List (String × Shape)} {unknown : UnknownKeys} {input : Option Json} {output : Json}
    {key : String} {shape : Shape} (accepted : object fields unknown input = .ok (some output)) (closed : unknown ≠ .loose)
    (distinct : (fields.map Prod.fst).Nodup) (member : (key, shape) ∈ fields) :
    ∃ entries, input = some (.obj entries) ∧ shape ((Json.obj entries).get? key) = .ok (output.get? key) := by
  unfold object at accepted
  split at accepted
  · rename_i entries
    dsimp only at accepted
    split at accepted
    · rename_i outputs collected _
      rw [if_neg closed, List.append_nil] at accepted
      cases accepted
      have listed : (key, shape ((Json.obj entries).get? key)) ∈
          fields.map fun field => (field.1, field.2 ((Json.obj entries).get? field.1)) :=
        List.mem_map.mpr ⟨(key, shape), member, rfl⟩
      refine ⟨entries, rfl, ?_⟩
      cases given : shape ((Json.obj entries).get? key) with
      | error issues =>
        rw [given] at listed
        obtain ⟨all, failed, _⟩ := collect_error listed
        rw [collected] at failed
        cases failed
      | ok value =>
        rw [given] at listed
        have names : (fields.map fun field => (field.1, field.2 ((Json.obj entries).get? field.1))).map Prod.fst =
            fields.map Prod.fst := by
          rw [List.map_map]
          rfl
        rw [get?_collect collected (names ▸ distinct) listed]
    · cases accepted
    · cases accepted
  · cases accepted

/-- A string that is accepted is kept. -/
theorem string_eq_ok {minimum : Nat} {maximum : Option Nat} {input output : Option Json}
    (accepted : string minimum maximum input = .ok output) : output = input ∧ ∃ text, input = some (.str text) := by
  unfold string at accepted
  split at accepted
  · rename_i text
    refine ⟨?_, text, rfl⟩
    dsimp only at accepted
    generalize (_ ++ _ : List Issue) = issues at accepted
    by_cases fits : issues = []
    · rw [if_pos fits] at accepted
      exact (Except.ok.inj accepted).symm
    · rw [if_neg fits] at accepted
      cases accepted
  · cases accepted

end Shape

end WinBack.Library
