import TurningGood.Foundation.Dict

/-!
# The tool registry

`ToolRegistry` maps the name of a tool to the tool itself.  Registering a
second tool under a name replaces the first one, and a whole family of tools
is removed by the text that its names start with.
-/

namespace TurningGood.Tools

open TurningGood.Foundation

universe u

/-- What the registry reads of a tool. -/
class BaseTool (Tool : Type u) where
  name : Tool → String

/-- `str.startswith` on the characters of two texts. -/
def startsWith (text start : String) : Bool := start.toList.isPrefixOf text.toList

theorem startsWith_iff (text start : String) : startsWith text start = true ↔
      start.toList <+: text.toList := by
  simp [startsWith]

theorem startsWith_append (start rest : String) :
    startsWith (start ++ rest) start = true := by
  rw [startsWith_iff, String.toList_append]
  exact List.prefix_append _ _

/-- The registered tools by name. -/
structure ToolRegistry (Tool : Type u) where
  tools : Dict String Tool

namespace ToolRegistry

variable {Tool : Type u}

/-- `register`: a tool replaces the tool registered under its name. -/
def register [BaseTool Tool] (registry : ToolRegistry Tool) (tool : Tool) : ToolRegistry Tool where
  tools := registry.tools.insert (BaseTool.name tool) tool

/-- `get`: read a tool by name. -/
def get? (registry : ToolRegistry Tool) (name : String) : Option Tool := registry.tools.get? name

/-- The names that `unregister_prefix` removes. -/
def namesWithPrefix (registry : ToolRegistry Tool) (start : String) : List String :=
  registry.tools.keys.filter (startsWith · start)

/-- `unregister_prefix`: the removed names and the remaining registry. -/
def unregisterPrefix (registry : ToolRegistry Tool) (start : String) :
    List String × ToolRegistry Tool :=
  (registry.namesWithPrefix start,
    { tools :=
        registry.tools.filter fun name _ => !startsWith name start })

theorem get?_register [BaseTool Tool] (registry : ToolRegistry Tool) (tool : Tool) (name : String) :
    (registry.register tool).get? name =
      if name = BaseTool.name tool then some tool
      else registry.get? name :=
  Dict.get?_insert registry.tools _ _ tool

theorem get?_unregisterPrefix (registry : ToolRegistry Tool) (start name : String) :
    (registry.unregisterPrefix start).2.get? name =
      if startsWith name start = true then none
      else registry.get? name := by
  simp only [get?, unregisterPrefix, Dict.get?_filter]
  by_cases removed : startsWith name start = true
  · cases registry.tools.get? name <;> simp [removed]
  · cases registry.tools.get? name <;> simp [removed]

theorem get?_foldl_register [BaseTool Tool] (tools : List Tool)
    (distinct : (tools.map BaseTool.name).Nodup)
    (registry : ToolRegistry Tool) (name : String) (tool : Tool) :
    (tools.foldl register registry).get? name = some tool ↔
      (tool ∈ tools ∧ name = BaseTool.name tool) ∨ (name ∉ tools.map BaseTool.name ∧
          registry.get? name = some tool) := by
  induction tools generalizing registry with
  | nil => simp
  | cons head rest induction =>
    simp only [List.map_cons, List.nodup_cons] at distinct
    rw [List.foldl_cons, induction distinct.2, get?_register]
    by_cases same : name = BaseTool.name head
    · have absent : name ∉ rest.map BaseTool.name :=
        same ▸ distinct.1
      have notLater :
          ¬ (tool ∈ rest ∧ name = BaseTool.name tool) := by
        rintro ⟨member, named⟩
        exact absent (named ▸ List.mem_map_of_mem (f := BaseTool.name) member)
      constructor
      · rintro (later | ⟨_, found⟩)
        · exact absurd later notLater
        · rw [if_pos same, Option.some.injEq] at found
          subst found
          exact Or.inl ⟨List.mem_cons_self, same⟩
      · rintro (⟨member, named⟩ | ⟨missing, _⟩)
        · rcases List.mem_cons.mp member with rfl | later
          · exact Or.inr ⟨absent, if_pos same⟩
          · exact absurd ⟨later, named⟩ notLater
        · exact absurd (same ▸ List.mem_cons_self) missing
    · simp only [List.map_cons, List.mem_cons, not_or, same, not_false_eq_true, true_and]
      constructor
      · rintro (⟨member, named⟩ | kept)
        · exact Or.inl ⟨Or.inr member, named⟩
        · exact Or.inr kept
      · rintro (⟨rfl | member, named⟩ | kept)
        · exact absurd named same
        · exact Or.inl ⟨member, named⟩
        · exact Or.inr kept

end ToolRegistry

end TurningGood.Tools
