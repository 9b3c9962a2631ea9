import WebPilot.Tool.Catalog

/-!
# The schema that is submitted

A submitted schema has a type and a mapping of properties.  Completing a schema leaves every field
as it is, apart from properties that are no mapping, which give way to an empty one; a type and
properties that are missing are added at the end (`Tool.completeSchema_completes`).  A schema that
is complete is left alone (`Tool.Complete.completeSchema`).
-/

namespace WebPilot

set_option autoImplicit false

/-! ## Fields -/

namespace Fields

variable {name other here : String} {value old : Json} {fields rest : Fields}

theorem get?_cons :
    get? ((here, value) :: rest) name = if name = here then some value else get? rest name := by
  by_cases same : name = here
  · simp [get?, same]
  · have apart : (name == here) = false := beq_eq_false_iff_ne.mpr same
    simp only [get?, List.lookup_cons, apart, if_neg same]

theorem has_cons : has ((here, value) :: rest) name = (here == name || rest.has name) := rfl

theorem names_cons : names ((here, value) :: rest) = here :: rest.names := rfl

theorem isSome_get? : (fields.get? name).isSome = fields.has name := by
  induction fields with
  | nil => rfl
  | cons field rest ih =>
      obtain ⟨here, value⟩ := field
      rw [get?_cons, has_cons, ← ih]
      by_cases same : name = here
      · simp [same]
      · simp [same, Ne.symm same]

theorem get?_eq_none_iff : fields.get? name = none ↔ fields.has name = false := by
  rw [← Option.not_isSome_iff_eq_none, isSome_get?, Bool.not_eq_true]

/-- A name that was given a value has it, and the others keep theirs. -/
theorem get?_put :
    (put name value fields).get? other =
      if other = name then some value else fields.get? other := by
  induction fields with
  | nil => exact get?_cons
  | cons field rest ih =>
      obtain ⟨here, old⟩ := field
      by_cases place : here = name
      · rw [put, if_pos place, get?_cons, get?_cons, place]
        split <;> rfl
      · rw [put, if_neg place, get?_cons, get?_cons, ih]
        by_cases same : other = here
        · rw [if_pos same, if_pos same, if_neg (same ▸ place)]
        · rw [if_neg same, if_neg same]

/-- A name that was given a value keeps its place, or comes last. -/
theorem names_put :
    (put name value fields).names =
      if fields.has name then fields.names else fields.names ++ [name] := by
  induction fields with
  | nil => rfl
  | cons field rest ih =>
      obtain ⟨here, old⟩ := field
      by_cases place : here = name
      · rw [put, if_pos place, names_cons, names_cons, has_cons, beq_iff_eq.mpr place]
        simp
      · rw [put, if_neg place, names_cons, names_cons, has_cons, ih,
          beq_eq_false_iff_ne.mpr place, Bool.false_or]
        split <;> rfl

end Fields

namespace Tool

/-- The schema has a type and a mapping of properties. -/
structure Complete (fields : Fields) : Prop where
  typed : fields.has "type" = true
  mapped : ∃ inner, fields.get? "properties" = some (.object inner)

/-- A complete schema is left alone. -/
theorem Complete.completeSchema {fields : Fields} (complete : Complete fields) :
    completeSchema (some fields) = fields := by
  obtain ⟨inner, mapped⟩ := complete.mapped
  simp [Tool.completeSchema, complete.typed, mapped]

/-! ## The two completions -/

/-- The schema with a type. -/
def withType (fields : Fields) : Fields :=
  if fields.has "type" then fields else fields.put "type" (.text "object")

/-- The schema with a mapping of properties. -/
def withProperties (fields : Fields) : Fields :=
  match fields.get? "properties" with
  | some (.object _) => fields
  | _ => fields.put "properties" (.object [])

theorem completeSchema_eq (schema : Option Fields) :
    completeSchema schema = withProperties (withType (schema.getD [])) := rfl

/-- The mapping that a value is, or an empty one. -/
def mappingOf : Option Json → Fields
  | some (.object inner) => inner
  | _ => []

section Completions

variable (fields : Fields) (name : String)

theorem get?_withType :
    (withType fields).get? name =
      if name = "type" then some ((fields.get? "type").getD (.text "object"))
      else fields.get? name := by
  unfold withType
  split
  · rename_i typed
    by_cases same : name = "type"
    · obtain ⟨value, there⟩ := Option.isSome_iff_exists.mp (Fields.isSome_get?.trans typed)
      simp [same, there]
    · rw [if_neg same]
  · rename_i untyped
    have missing : fields.get? "type" = none :=
      Fields.get?_eq_none_iff.mpr (eq_false_of_ne_true untyped)
    rw [Fields.get?_put, missing, Option.getD_none]

theorem names_withType :
    (withType fields).names = fields.names ++ ["type"].filter (!fields.has ·) := by
  unfold withType
  cases typed : fields.has "type" with
  | true => simp [typed]
  | false => simp [typed, Fields.names_put]

theorem get?_withProperties :
    (withProperties fields).get? name =
      if name = "properties" then some (.object (mappingOf (fields.get? "properties")))
      else fields.get? name := by
  unfold withProperties
  split
  · rename_i inner mapped
    by_cases same : name = "properties"
    · simp [same, mapped, mappingOf]
    · rw [if_neg same]
  · rename_i other
    have empty : mappingOf (fields.get? "properties") = [] := by
      unfold mappingOf
      split
      · exact absurd ‹_› (other _)
      · rfl
    rw [Fields.get?_put, empty]

theorem names_withProperties :
    (withProperties fields).names = fields.names ++ ["properties"].filter (!fields.has ·) := by
  unfold withProperties
  split
  · rename_i inner mapped
    have there : fields.has "properties" = true := by rw [← Fields.isSome_get?, mapped]; rfl
    simp [there]
  · rw [Fields.names_put]
    cases there : fields.has "properties" <;> simp [there]

end Completions

/-! ## Completing a schema -/

variable (schema : Option Fields)

/-- **The fields of a completed schema**: the type that was given, or that of an object; the
properties that were given, if they are a mapping; and whatever else was given. -/
theorem get?_completeSchema (name : String) :
    (completeSchema schema).get? name =
      if name = "properties" then
        some (.object (mappingOf ((schema.getD []).get? "properties")))
      else if name = "type" then some (((schema.getD []).get? "type").getD (.text "object"))
      else (schema.getD []).get? name := by
  rw [completeSchema_eq, get?_withProperties, get?_withType, get?_withType]
  rfl

/-- The names of a completed schema are those given, and behind them those that were missing. -/
theorem names_completeSchema :
    (completeSchema schema).names =
      (schema.getD []).names ++ ["type", "properties"].filter (!(schema.getD []).has ·) := by
  have same : (withType (schema.getD [])).has "properties" = (schema.getD []).has "properties" := by
    rw [← Fields.isSome_get?, get?_withType, ← Fields.isSome_get?]
    rfl
  rw [completeSchema_eq, names_withProperties, names_withType, List.append_assoc]
  simp only [List.filter_cons, List.filter_nil, same]
  split <;> rfl

/-- What becomes of a schema that is submitted. -/
structure Completes (given completed : Fields) : Prop where
  complete : Complete completed
  /-- A field keeps its value, unless it is properties that are no mapping. -/
  keeps : ∀ name value, given.get? name = some value →
    (name = "properties" → ∃ inner, value = .object inner) → completed.get? name = some value
  /-- A type that is missing is that of an object. -/
  types : given.get? "type" = none → completed.get? "type" = some (.text "object")
  /-- Properties that are missing or no mapping are an empty one. -/
  maps : (∀ inner, given.get? "properties" ≠ some (.object inner)) →
    completed.get? "properties" = some (.object [])
  /-- All names keep their places, and only these two are ever added. -/
  names : completed.names = given.names ++ ["type", "properties"].filter (!given.has ·)
  fixed : completeSchema (some completed) = completed

theorem complete_completeSchema : Complete (completeSchema schema) where
  typed := by
    rw [← Fields.isSome_get?, get?_completeSchema]
    rfl
  mapped := ⟨_, get?_completeSchema schema "properties"⟩

/-- **Completing a schema completes it.** -/
theorem completeSchema_completes : Completes (schema.getD []) (completeSchema schema) where
  complete := complete_completeSchema schema
  keeps name value given mapped := by
    rw [get?_completeSchema]
    by_cases properties : name = "properties"
    · subst properties
      obtain ⟨inner, rfl⟩ := mapped rfl
      rw [if_pos rfl, given]
      rfl
    · rw [if_neg properties]
      by_cases type : name = "type"
      · subst type
        rw [if_pos rfl, given]
        rfl
      · rw [if_neg type, given]
  types untyped := by
    rw [get?_completeSchema, untyped]
    rfl
  maps other := by
    rw [get?_completeSchema, if_pos rfl]
    cases given : (schema.getD []).get? "properties" with
    | none => rfl
    | some value =>
        cases value with
        | object inner => exact absurd given (other inner)
        | _ => rfl
  names := names_completeSchema schema
  fixed := (complete_completeSchema schema).completeSchema

/-! ## Schemas of objects -/

/-- The schema declares an object and a mapping of properties. -/
structure DeclaresObject (fields : Fields) : Prop where
  type : fields.get? "type" = some (.text "object")
  mapped : ∃ inner, fields.get? "properties" = some (.object inner)

/-- The schema says of its type that it is an object, or says nothing of it. -/
def AdmitsObject (schema : Option Fields) : Prop :=
  ∀ type, (schema.getD []).get? "type" = some type → type = .text "object"

/-- A type is given to a schema that has none, and to no other. -/
theorem declaresObject_completeSchema_iff :
    DeclaresObject (completeSchema schema) ↔ AdmitsObject schema := by
  have given := get?_completeSchema schema "type"
  constructor
  · intro declares type here
    have same := given.symm.trans declares.type
    rw [here] at same
    exact Option.some.inj same
  · intro admits
    refine ⟨?_, (complete_completeSchema schema).mapped⟩
    rw [given]
    cases here : (schema.getD []).get? "type" with
    | none => rfl
    | some type => rw [admits type here]; rfl

end Tool

end WebPilot
