import WebPilot.Proofs.Session.Execution
import WebPilot.Proofs.Tool.Schema
import WebPilot.Toolbox.Input

/-!
# One list of tools for the executor and the model

A catalog keeps the first tool of each name (`find?_distinctTools`), so its names are those of the
backend without repetitions, and looking a tool up in it is looking it up in the backend's list.
What is submitted to the model is this list, tool by tool (`Catalog.getElem?_definitions`), and the
mark up to which the service may keep it stands at the last one.  **The executor and the model see
the same tools in the same order** (`Catalog.ofTools_agrees`).

Completing a schema gives it a type only if it has none.  A tool that says of its input that it is
no object, or does not say what it is, is submitted as it is (`nullType_submitted`); **a submitted
schema declares an object exactly if the tool says so, or says nothing of a type**, as the built-in
tools do (`Catalog.definitions_declare`).
-/

namespace WebPilot

set_option autoImplicit false

/-! ## The first tools -/

variable {tools : List Tool} {seen : List String} {name : String}

/-- The names of the first tools are the names that are not taken, without repetitions. -/
theorem names_distinctTools (seen : List String) (tools : List Tool) :
    (distinctTools seen tools).map Tool.name =
      ((tools.map Tool.name).filter (!seen.contains ·)).eraseDups := by
  induction tools generalizing seen with
  | nil => rfl
  | cons tool tools ih =>
      unfold distinctTools
      cases taken : seen.contains tool.name with
      | true => simp only [if_true, List.map_cons, List.filter_cons, taken, Bool.not_true,
          Bool.false_eq_true, if_false, ih]
      | false =>
          have others (other : String) : (!(tool.name :: seen).contains other) =
              (!(other == tool.name) && !seen.contains other) := by
            rw [List.contains_cons, Bool.not_or]
          simp only [taken, Bool.false_eq_true, if_false, List.map_cons, List.filter_cons,
            Bool.not_false, if_true, List.eraseDups_cons, List.filter_filter, ih, others]

/-- Among the first tools, a name that is not taken is found where it is first found at all. -/
theorem find?_distinctTools (free : name ∉ seen) :
    (distinctTools seen tools).find? (·.name == name) = tools.find? (·.name == name) := by
  induction tools generalizing seen with
  | nil => rfl
  | cons tool tools ih =>
      unfold distinctTools
      by_cases here : tool.name = name
      · have untaken : ¬ seen.contains tool.name = true := by simpa [here] using free
        rw [if_neg untaken, List.find?_cons_of_pos (by simpa using here),
          List.find?_cons_of_pos (by simpa using here)]
      · rw [List.find?_cons_of_neg (by simpa using here)]
        split
        · exact ih free
        · rw [List.find?_cons_of_neg (by simpa using here)]
          exact ih (by simp [free, Ne.symm here])

/-- A tool that was kept is the first of its name. -/
theorem find?_of_mem_distinctTools {tool : Tool} (kept : tool ∈ distinctTools seen tools) :
    tool.name ∉ seen ∧ tools.find? (·.name == tool.name) = some tool := by
  induction tools generalizing seen with
  | nil => cases kept
  | cons first tools ih =>
      unfold distinctTools at kept
      split at kept
      · rename_i taken
        obtain ⟨free, found⟩ := ih kept
        have other : first.name ≠ tool.name := by
          rintro same
          exact free (same ▸ List.contains_iff_mem.mp taken)
        rw [List.find?_cons_of_neg (by simpa using other)]
        exact ⟨free, found⟩
      · rename_i untaken
        rcases List.mem_cons.mp kept with rfl | later
        · exact ⟨fun taken => untaken (List.contains_iff_mem.mpr taken), by simp⟩
        · obtain ⟨free, found⟩ := ih later
          obtain ⟨other, free⟩ := not_or.mp (mt List.mem_cons.mpr free)
          rw [List.find?_cons_of_neg (by simpa using Ne.symm other)]
          exact ⟨free, found⟩

namespace Catalog

theorem names_ofTools (tools : List Tool) :
    (ofTools tools).names = (tools.map Tool.name).eraseDups := by
  have free : (tools.map Tool.name).filter (!([] : List String).contains ·) = tools.map Tool.name :=
    List.filter_eq_self.mpr fun _ _ => rfl
  rw [names, ofTools, names_distinctTools, free]

theorem get?_ofTools (tools : List Tool) (name : String) :
    (ofTools tools).get? name = tools.find? (·.name == name) :=
  find?_distinctTools List.not_mem_nil

/-- A tool of the catalog is the one that is found under its name. -/
theorem get?_of_mem {tool : Tool} (kept : tool ∈ (ofTools tools).tools) :
    (ofTools tools).get? tool.name = some tool := by
  rw [get?_ofTools]
  exact (find?_of_mem_distinctTools kept).2

theorem get?_eq_none_iff :
    (ofTools tools).get? name = none ↔ ∀ tool ∈ tools, tool.name ≠ name := by
  simp [get?_ofTools]

end Catalog

/-- Executing a call fails for want of the tool exactly if the catalog does not have it. -/
theorem Session.execute_toolNotFound_iff (session : Session) (tool : String) (arguments : Fields)
    (recorded : Bool) (s : Surroundings) (w : World) :
    (session.execute tool arguments recorded s w).1 = .error (.toolNotFound tool) ↔
      session.catalog.get? tool = none := by
  cases known : session.catalog.get? tool with
  | none =>
      refine iff_of_true ?_ rfl
      simp only [execute, known]
      rfl
  | some found =>
      refine iff_of_false ?_ nofun
      have met : (session.receive w.events tool arguments).outcome tool arguments ≠
          .error (.toolNotFound tool) := by
        simp only [receive, knows, known, Option.isSome_some, if_true]
        cases (session.backend.call w.events tool arguments).2 <;> simp [Reception.outcome]
      cases recorded with
      | false => rwa [execute_unrecorded]
      | true =>
          rcases run : session.execute tool arguments true s w with ⟨outcome, w'⟩
          obtain ⟨-, rfl | ⟨failure, rfl, other⟩⟩ :
            session.Executes w [⟨"", tool, arguments⟩] w' ∧ _ := execute_spec run
          · exact met
          · rintro ⟨⟩
            cases other

namespace Catalog

/-! ## What is submitted -/

/-- Marking the last tool changes no other. -/
theorem getElem?_markLast (submitted : List ToolDefinition) (i : Nat) :
    (markLast submitted)[i]? = submitted[i]?.map fun d =>
      if i + 1 = submitted.length then { d with cacheMark := some {} } else d := by
  fun_induction markLast submitted generalizing i with
  | case1 => rfl
  | case2 d => cases i <;> simp
  | case3 d rest some_ ih =>
      cases i with
      | zero =>
          simp only [List.getElem?_cons_zero, Option.map_some, List.length_cons, Nat.zero_add]
          have more : ¬ 1 = rest.length + 1 := by
            have filled := List.length_pos_iff.mpr some_
            omega
          rw [if_neg more]
      | succ i => simp [ih]

/-- **What is submitted of a catalog**: its tools, one by one and in order, with the mark at the
last one if it is wanted. -/
theorem getElem?_definitions (catalog : Catalog) (cached : Bool) (i : Nat) :
    (catalog.definitions cached)[i]? = catalog.tools[i]?.map fun tool =>
      { tool.define_ with
        cacheMark := if cached = true ∧ i + 1 = catalog.size then some {} else none } := by
  cases cached with
  | false =>
      simp only [definitions, Bool.false_eq_true, if_false, List.getElem?_map, false_and]
      rfl
  | true =>
      simp only [definitions, if_true, getElem?_markLast, List.getElem?_map, List.length_map,
        Option.map_map, true_and, size]
      congr 1
      funext tool
      simp only [Function.comp]
      split <;> rfl

/-- What does not look at the mark sees the tools as they are. -/
theorem map_definitions {α : Type} (f : ToolDefinition → α)
    (blind : ∀ d mark, f { d with cacheMark := mark } = f d) (catalog : Catalog) (cached : Bool) :
    (catalog.definitions cached).map f = catalog.tools.map fun tool => f tool.define_ := by
  refine List.ext_getElem? fun i => ?_
  simp only [List.getElem?_map, getElem?_definitions, Option.map_map, Function.comp_def, blind]

theorem map_name_definitions (catalog : Catalog) (cached : Bool) :
    (catalog.definitions cached).map ToolDefinition.name = catalog.names :=
  map_definitions ToolDefinition.name (fun _ _ => rfl) catalog cached

end Catalog

namespace Tool

theorem describe_ne (tool : Tool) : tool.describe ≠ "" := by
  unfold describe
  split
  · intro empty
    exact absurd (String.append_eq_empty_iff.mp empty).1 (by decide)
  · rename_i described
    simpa using described

/-- The definition presents the tool to the model: under its name, with a description that is not
empty, and with a schema that is complete. -/
structure Presented (tool : Tool) (d : ToolDefinition) : Prop where
  name : d.name = tool.name
  described : d.description ≠ ""
  /-- A description of its own is kept. -/
  description : tool.description ≠ "" → d.description = tool.description
  schema : Completes (tool.inputSchema.getD []) d.inputSchema

theorem presented (tool : Tool) (mark : Option CacheMark) :
    tool.Presented { tool.define_ with cacheMark := mark } where
  name := rfl
  described := tool.describe_ne
  description own := if_neg (by simpa using own)
  schema := completeSchema_completes tool.inputSchema

end Tool

/-- **The executor and the model see the same tools.**  The names of a catalog are those of the
backend's tools without repetitions, in the order in which they first occur.  A name is looked up as
the first tool of that name, and executing a call fails for want of the tool exactly if no tool has
the name.  What is submitted has the names of the catalog in their order; every definition presents
the tool that is found under its name; and the mark, if it is wanted, stands at the last one and
nowhere else. -/
theorem Catalog.ofTools_agrees (tools : List Tool) :
    (ofTools tools).names = (tools.map Tool.name).eraseDups ∧
    (∀ name, (ofTools tools).get? name = tools.find? (·.name == name) ∧
      ((ofTools tools).get? name = none ↔ ∀ tool ∈ tools, tool.name ≠ name) ∧
      ∀ backend room arguments recorded s w,
        (Session.execute ⟨backend, ofTools tools, room⟩ name arguments recorded s w).1 =
            .error (.toolNotFound name) ↔ ∀ tool ∈ tools, tool.name ≠ name) ∧
    ∀ cached, ((ofTools tools).definitions cached).map ToolDefinition.name = (ofTools tools).names ∧
      ∀ i d, ((ofTools tools).definitions cached)[i]? = some d →
        (∃ tool, (ofTools tools).get? d.name = some tool ∧ tool.Presented d) ∧
        (d.cacheMark.isSome ↔
          cached = true ∧ i + 1 = ((ofTools tools).definitions cached).length) := by
  refine ⟨names_ofTools tools, fun name => ⟨get?_ofTools tools name, get?_eq_none_iff, ?_⟩,
    fun cached => ⟨map_name_definitions _ cached, fun i d there => ?_⟩⟩
  · intro backend room arguments recorded s w
    rw [Session.execute_toolNotFound_iff, get?_eq_none_iff]
  · rw [getElem?_definitions] at there
    obtain ⟨tool, kept, rfl⟩ := Option.map_eq_some_iff.mp there
    refine ⟨⟨tool, get?_of_mem (List.mem_of_getElem? kept), tool.presented _⟩, ?_⟩
    have size : ((ofTools tools).definitions cached).length = (ofTools tools).size := by
      simpa [names, Catalog.size] using congrArg List.length (map_name_definitions _ cached)
    rw [size]
    split <;> simp_all

/-! ## What is declared of the input -/

/-- The schemas of the built-in tools declare objects. -/
theorem BuiltinTool.declaresObject_inputSchema (tool : BuiltinTool) :
    Tool.DeclaresObject tool.inputSchema := by
  cases tool <;> exact ⟨rfl, _, rfl⟩

theorem BuiltinTool.admitsObject_toTool (tool : BuiltinTool) :
    Tool.AdmitsObject tool.toTool.inputSchema :=
  fun _ here => Option.some.inj (here.symm.trans tool.declaresObject_inputSchema.type)

/-- **When submitted schemas declare objects.**  Every definition has a mapping of properties, and
the type that the tool found under its name gives, or that of an object if it gives none.  So its
schema declares an object exactly if the tool's admits one, and all do exactly if the schemas of all
tools in the catalog admit one; those of the built-in tools do. -/
theorem Catalog.definitions_declare (tools : List Tool) (cached : Bool) :
    (∀ d ∈ (ofTools tools).definitions cached, ∃ tool, (ofTools tools).get? d.name = some tool ∧
      (∃ inner, d.inputSchema.get? "properties" = some (.object inner)) ∧
      d.inputSchema.get? "type" =
        some (((tool.inputSchema.getD []).get? "type").getD (.text "object")) ∧
      (Tool.DeclaresObject d.inputSchema ↔ Tool.AdmitsObject tool.inputSchema)) ∧
    ((∀ d ∈ (ofTools tools).definitions cached, Tool.DeclaresObject d.inputSchema) ↔
      ∀ tool ∈ (ofTools tools).tools, Tool.AdmitsObject tool.inputSchema) ∧
    ((∀ tool ∈ tools, ∃ builtin : BuiltinTool, tool = builtin.toTool) →
      ∀ tool ∈ (ofTools tools).tools, Tool.AdmitsObject tool.inputSchema) := by
  refine ⟨?_, ?_, ?_⟩
  · intro d submitted
    obtain ⟨i, there⟩ := List.mem_iff_getElem?.mp submitted
    rw [getElem?_definitions] at there
    obtain ⟨tool, kept, rfl⟩ := Option.map_eq_some_iff.mp there
    exact ⟨tool, get?_of_mem (List.mem_of_getElem? kept),
      (Tool.complete_completeSchema tool.inputSchema).mapped,
      Tool.get?_completeSchema tool.inputSchema "type", Tool.declaresObject_completeSchema_iff _⟩
  · have schemas :=
      map_definitions ToolDefinition.inputSchema (fun _ _ => rfl) (ofTools tools) cached
    rw [← List.forall_mem_map, schemas, List.forall_mem_map]
    exact forall₂_congr fun tool _ => Tool.declaresObject_completeSchema_iff tool.inputSchema
  · intro offered tool kept
    have found := (find?_of_mem_distinctTools kept).2
    obtain ⟨builtin, rfl⟩ := offered tool (List.mem_of_find?_eq_some found)
    exact builtin.admitsObject_toTool

/-- A tool that does not say of which type its input is. -/
def untypedLook : Tool where
  name := "look"
  inputSchema := some [("type", .null)]

/-- **A type that is null is submitted as it is**, and so the schema declares no object. -/
theorem nullType_submitted :
    (Catalog.ofTools [untypedLook]).definitions =
        [⟨"look", "Use this tool to look", [("type", .null), ("properties", .object [])],
          some {}⟩] ∧
      ∃ d ∈ (Catalog.ofTools [untypedLook]).definitions, ¬ Tool.DeclaresObject d.inputSchema := by
  refine ⟨rfl, _, List.mem_cons_self, fun declares => ?_⟩
  cases declares.type

end WebPilot
