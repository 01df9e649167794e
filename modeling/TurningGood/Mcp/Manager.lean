import TurningGood.Foundation.Machine
import TurningGood.Tools.ToolRegistry

/-!
# MCP catalogs and the tools registered for them

Every connected MCP server publishes a catalog of tools.  `McpManager`
registers the enabled ones under `mcp_<server>_<tool>` and, when a newer
catalog of a server arrives, first removes whatever is registered under the
prefix `mcp_<server>_`.  The registry itself does not know which server a
tool belongs to.

The module shows what the names have to satisfy for this to be sound.  When
no tool of another server lies under the prefix of the applied server, the
application leaves the tools of the other servers alone, and the registered
MCP tools are exactly the enabled tools of the latest catalogs.  A server
name that extends another one, such as `a_b` next to `a`, breaks it.
-/

namespace TurningGood.Mcp

open TurningGood.Foundation
open TurningGood.Tools

/-! ## Catalogs and adapters -/

/-- The kinds of `McpCapability`. -/
inductive McpKind where
  | tool
  | resource
  | resourceTemplate
  | «prompt»
deriving DecidableEq

/--
`McpCapability`: one capability of a server.  The JSON documents of its
metadata stay texts, since nothing here looks inside them.
-/
structure McpCapability where
  serverName : String
  kind : McpKind
  name : String
  description : String
  metadata : Dict String String
deriving DecidableEq

/-- `McpCatalog`: what one server offers. -/
structure McpCatalog where
  tools : List McpCapability
  resources : List McpCapability
  resourceTemplates : List McpCapability
  prompts : List McpCapability
deriving DecidableEq

/-- The registered name of a remote tool. -/
def wrappedName (server tool : String) : String := "mcp_" ++ server ++ "_" ++ tool

/-- `_tool_prefix`: the text in front of all tools of a server. -/
def toolPrefix (server : String) : String := "mcp_" ++ server ++ "_"

theorem wrappedName_eq (server tool : String) :
    wrappedName server tool = toolPrefix server ++ tool := rfl

theorem wrappedName_startsWith (server tool : String) :
    startsWith (wrappedName server tool) (toolPrefix server) = true :=
  startsWith_append _ _

theorem wrappedName_injective (server : String) :
    Function.Injective (wrappedName server) := by
  intro left right equal
  exact (String.append_right_inj (toolPrefix server)).mp equal

/-- `McpToolAdapter`: a remote tool as a local tool. -/
structure McpToolAdapter where
  serverName : String
  remoteName : String
  name : String
  description : String
  inputSchema : String
  annotations : String
deriving DecidableEq

/-- `McpToolAdapter.__init__`. -/
def McpToolAdapter.ofCapability (capability : McpCapability) : McpToolAdapter where
  serverName := capability.serverName
  remoteName := capability.name
  name := wrappedName capability.serverName capability.name
  description :=
    if capability.description = "" then
      "MCP " ++ capability.serverName ++ " 工具：" ++ capability.name
    else
      capability.description
  inputSchema := (capability.metadata.get? "input_schema").getD
      "\x7b\"type\": \"object\", \"properties\": \x7b\x7d\x7d"
  annotations := (capability.metadata.get? "annotations").getD "\x7b\x7d"

@[simp]
theorem McpToolAdapter.ofCapability_name (capability : McpCapability) :
    (McpToolAdapter.ofCapability capability).name =
      wrappedName capability.serverName capability.name := rfl

@[simp]
theorem McpToolAdapter.ofCapability_serverName (capability : McpCapability) :
    (McpToolAdapter.ofCapability capability).serverName =
      capability.serverName := rfl

/-- A tool of the runtime: built in, or an adapter for a remote tool. -/
inductive RuntimeTool where
  | local (name : String)
  | mcp (adapter : McpToolAdapter)
deriving DecidableEq

instance : BaseTool RuntimeTool where
  name
    | .local name => name
    | .mcp adapter => adapter.name

@[simp]
theorem baseTool_name_mcp (adapter : McpToolAdapter) :
    BaseTool.name (RuntimeTool.mcp adapter) = adapter.name := rfl

/-- The fields of `McpServerSettings` that registration reads. -/
structure McpServerSettings where
  enabledTools : List String
deriving DecidableEq

/-- `McpManager` after `start_background` has handed it the registry. -/
structure McpManager where
  servers : Dict String McpServerSettings
  registry : ToolRegistry RuntimeTool
  catalogs : Dict String McpCatalog

/-- The last capability of each name, `{capability.name: capability}`. -/
def availableTools (catalog : McpCatalog) : Dict String McpCapability :=
  catalog.tools.foldl (fun available capability =>
      available.insert capability.name capability)
    Dict.empty

/-- The test of the loop in `_register_enabled_tools`. -/
def isEnabled (server : McpServerSettings) (name rawName : String) : Bool :=
  server.enabledTools.contains rawName || server.enabledTools.contains (wrappedName name rawName)

/-- `_register_enabled_tools`. -/
def registerEnabledTools (server : McpServerSettings) (name : String)
    (catalog : McpCatalog) (registry : ToolRegistry RuntimeTool) :
    ToolRegistry RuntimeTool :=
  if server.enabledTools.isEmpty then
    registry
  else
    (availableTools catalog).entries.foldl (fun registry entry =>
        if isEnabled server name entry.1 then
          registry.register (.mcp (McpToolAdapter.ofCapability entry.2))
        else
          registry)
      registry

/-- `_apply_catalog`; the settings lookup fails for an unknown server. -/
def McpManager.applyCatalog (manager : McpManager) (name : String) (catalog : McpCatalog) :
    Option McpManager :=
  match manager.servers.get? name with
  | none => none
  | some server =>
    let cleared :=
      (manager.registry.unregisterPrefix (toolPrefix name)).2
    some
      { manager with
        registry := registerEnabledTools server name catalog cleared
        catalogs := manager.catalogs.insert name catalog }

/-! ## What a server's catalog enables -/

/-- The adapters of the enabled tools of one catalog. -/
def enabledAdapters (server : McpServerSettings) (name : String)
    (catalog : McpCatalog) : List McpToolAdapter :=
  ((availableTools catalog).entries.filter fun entry => isEnabled server name entry.1).map
      fun entry => McpToolAdapter.ofCapability entry.2

/-- A catalog whose tools all name the server that published it. -/
def McpCatalog.PublishedBy (catalog : McpCatalog) (name : String) : Prop :=
  ∀ capability ∈ catalog.tools, capability.serverName = name

variable {catalog : McpCatalog}

theorem availableTools_entry {rawName : String} {capability : McpCapability}
    (member : (rawName, capability) ∈ (availableTools catalog).entries) :
    capability ∈ catalog.tools ∧ capability.name = rawName := by
  have general :
      ∀ (tools : List McpCapability) (available : Dict String McpCapability),
        (∀ key value, available.get? key = some value → value ∈ catalog.tools ∧ value.name = key) →
        (∀ capability ∈ tools, capability ∈ catalog.tools) →
        ∀ key value, (tools.foldl (fun available capability =>
              available.insert capability.name capability)
            available).get? key = some value →
          value ∈ catalog.tools ∧ value.name = key := by
    intro tools
    induction tools with
    | nil => exact fun _ collected _ => collected
    | cons head rest induction =>
      intro available collected included
      refine induction _ ?_ (fun capability member =>
          included capability (List.mem_cons_of_mem head member))
      intro key value found
      rw [Dict.get?_insert] at found
      split_ifs at found with same
      · rw [Option.some.injEq] at found
        subst found
        exact ⟨included head List.mem_cons_self, same.symm⟩
      · exact collected key value found
  rw [Dict.mem_entries_iff] at member
  exact general catalog.tools Dict.empty (by simp) (by simp)
    rawName capability member

theorem enabledAdapters_owner {server : McpServerSettings} {name : String}
    (published : catalog.PublishedBy name) {adapter : McpToolAdapter}
    (member : adapter ∈ enabledAdapters server name catalog) :
    adapter.serverName = name ∧
      startsWith adapter.name (toolPrefix name) = true := by
  simp only [enabledAdapters, List.mem_map, List.mem_filter, Prod.exists] at member
  rcases member with ⟨rawName, capability, ⟨entry, _⟩, rfl⟩
  have owner :=
    published capability (availableTools_entry entry).1
  subst owner
  exact ⟨rfl, wrappedName_startsWith _ _⟩

theorem enabledAdapters_nodup (server : McpServerSettings) (name : String)
    (published : catalog.PublishedBy name) :
    ((enabledAdapters server name catalog).map McpToolAdapter.name).Nodup := by
  have keys :
      (enabledAdapters server name catalog).map McpToolAdapter.name =
        (((availableTools catalog).entries.filter fun entry => isEnabled server name entry.1).map
            Prod.fst).map (wrappedName name) := by
    simp only [enabledAdapters, List.map_map]
    apply List.map_congr_left
    rintro ⟨rawName, capability⟩ member
    have found :=
      availableTools_entry (List.mem_of_mem_filter member)
    simp [published capability found.1, found.2]
  rw [keys]
  exact ((availableTools catalog).nodupKeys.sublist
      (List.filter_sublist.map Prod.fst)).map (wrappedName_injective name)

theorem registerEnabledTools_eq (server : McpServerSettings) (name : String)
    (catalog : McpCatalog) (registry : ToolRegistry RuntimeTool) :
    registerEnabledTools server name catalog registry = ((enabledAdapters server name catalog).map
        RuntimeTool.mcp).foldl ToolRegistry.register registry := by
  have disabled :
      server.enabledTools.isEmpty = true →
        enabledAdapters server name catalog = [] := by
    intro none
    rw [List.isEmpty_iff] at none
    simp [enabledAdapters, isEnabled, none]
  unfold registerEnabledTools
  split_ifs with none
  · rw [disabled none]
    rfl
  · simp only [enabledAdapters, List.foldl_map, List.foldl_filter]

theorem get?_applied (server : McpServerSettings) (name : String)
    (published : catalog.PublishedBy name)
    (registry : ToolRegistry RuntimeTool) (key : String) (tool : RuntimeTool) :
    (registerEnabledTools server name catalog
        (registry.unregisterPrefix (toolPrefix name)).2).get? key =
        some tool ↔
      (∃ adapter ∈ enabledAdapters server name catalog, tool = .mcp adapter ∧ key = adapter.name) ∨
      (startsWith key (toolPrefix name) = false ∧
        registry.get? key = some tool) := by
  have names :
      ((enabledAdapters server name catalog).map RuntimeTool.mcp).map BaseTool.name =
      (enabledAdapters server name catalog).map
        McpToolAdapter.name := by
    simp [List.map_map, Function.comp_def]
  rw [registerEnabledTools_eq, ToolRegistry.get?_foldl_register _
      (names ▸ enabledAdapters_nodup server name published),
    names, ToolRegistry.get?_unregisterPrefix]
  constructor
  · rintro (⟨member, named⟩ | ⟨_, found⟩)
    · rcases List.mem_map.mp member with ⟨adapter, enabled, rfl⟩
      exact Or.inl ⟨adapter, enabled, rfl, named⟩
    · split_ifs at found with removed
      exact Or.inr ⟨Bool.eq_false_iff.mpr removed, found⟩
  · rintro (⟨adapter, enabled, rfl, named⟩ | ⟨kept, found⟩)
    · exact Or.inl ⟨List.mem_map_of_mem enabled, named⟩
    · refine Or.inr ⟨?_, by simpa [kept] using found⟩
      intro member
      rcases List.mem_map.mp member with ⟨adapter, enabled, rfl⟩
      have under := (enabledAdapters_owner published enabled).2
      rw [kept] at under
      exact Bool.noConfusion under

/-! ## Runs of catalog applications -/

/-- A tool as the remote server lists it. -/
structure RemoteTool where
  name : String
  description : String
  metadata : Dict String String
deriving DecidableEq

/-- The tools of `McpClient.discover`, all carrying the client's server. -/
def discover (server : String) (listed : List RemoteTool) : McpCatalog where
  tools := listed.map fun tool =>
      { tool with
        serverName := server
        kind := .tool }
  resources := []
  resourceTemplates := []
  prompts := []

theorem discover_publishedBy (server : String) (listed : List RemoteTool) :
    (discover server listed).PublishedBy server := by
  intro capability member
  simp only [discover, List.mem_map] at member
  rcases member with ⟨tool, _, rfl⟩
  rfl

/--
A first connection, a reconnection and a `list_changed` notification of a
server all end in the same event: its worker hands over a catalog.
-/
structure CatalogEvent where
  server : String
  listed : List RemoteTool

/-- A registry that holds no MCP tool. -/
def OnlyLocalTools (registry : ToolRegistry RuntimeTool) : Prop :=
  ∀ key adapter, registry.get? key ≠ some (.mcp adapter)

theorem emptyRegistry_onlyLocal : OnlyLocalTools ⟨Dict.empty⟩ := by
  intro key adapter found
  simp [ToolRegistry.get?] at found

/-- The manager over runs of catalog events in any order. -/
def catalogMachine : Machine McpManager CatalogEvent where
  initial manager := OnlyLocalTools manager.registry ∧ manager.catalogs = Dict.empty
  step manager event := manager.applyCatalog event.server (discover event.server event.listed)

/-- The adapter belongs to an enabled tool of a server's latest catalog. -/
def McpManager.Enables (manager : McpManager) (adapter : McpToolAdapter) : Prop :=
  ∃ server catalog, manager.servers.get? adapter.serverName = some server ∧
      manager.catalogs.get? adapter.serverName = some catalog ∧
      adapter ∈ enabledAdapters server adapter.serverName catalog

/--
The registered MCP tools are exactly the enabled tools of the servers'
latest catalogs, each under its own name.
-/
def McpManager.RegistersEnabled (manager : McpManager) : Prop := ∀ key adapter,
    manager.registry.get? key = some (.mcp adapter) ↔ key = adapter.name ∧ manager.Enables adapter

/-- The tools of all servers but one are the same before and after. -/
def KeepsOtherServers (before after : McpManager) (server : String) : Prop :=
  ∀ key adapter, adapter.serverName ≠ server → (after.registry.get? key = some (.mcp adapter) ↔
      before.registry.get? key = some (.mcp adapter))

/-- No tool of another server lies under the prefix of this one. -/
def NoForeignTool (manager : McpManager) (event : CatalogEvent) : Prop :=
  ∀ key adapter, manager.registry.get? key = some (.mcp adapter) →
      adapter.serverName ≠ event.server → startsWith key (toolPrefix event.server) = false

variable {manager target : McpManager}

theorem applyCatalog_cases {name : String}
    (applied : manager.applyCatalog name catalog = some target) :
    ∃ server, manager.servers.get? name = some server ∧ target.servers = manager.servers ∧
      target.catalogs = manager.catalogs.insert name catalog ∧
      target.registry = registerEnabledTools server name catalog
          (manager.registry.unregisterPrefix (toolPrefix name)).2 := by
  unfold McpManager.applyCatalog at applied
  cases configured : manager.servers.get? name with
  | none => simp [configured] at applied
  | some server =>
    simp only [configured, Option.some.injEq] at applied
    subst applied
    exact ⟨server, rfl, rfl, rfl, rfl⟩

theorem catalogEvent_keepsOthers_iff {event : CatalogEvent}
    (stepped : catalogMachine.step manager event = some target) :
    KeepsOtherServers manager target event.server ↔
      NoForeignTool manager event := by
  rcases applyCatalog_cases stepped with ⟨server, _, _, _, registryEqual⟩
  have published := discover_publishedBy event.server event.listed
  constructor
  · intro keeps key adapter found foreign
    by_contra under
    have still := (keeps key adapter foreign).mpr found
    rw [registryEqual, get?_applied server _ published] at still
    rcases still with ⟨other, enabled, same, _⟩ | ⟨outside, _⟩
    · cases same
      exact foreign (enabledAdapters_owner published enabled).1
    · exact under outside
  · intro noForeign key adapter foreign
    rw [registryEqual, get?_applied server _ published]
    constructor
    · rintro (⟨other, enabled, same, _⟩ | ⟨_, found⟩)
      · cases same
        exact absurd (enabledAdapters_owner published enabled).1 foreign
      · exact found
    · intro found
      exact Or.inr ⟨noForeign key adapter found foreign, found⟩

theorem catalogEvent_registersEnabled {event : CatalogEvent} (exact : manager.RegistersEnabled)
    (noForeign : NoForeignTool manager event)
    (stepped : catalogMachine.step manager event = some target) :
    target.RegistersEnabled := by
  rcases applyCatalog_cases stepped with
    ⟨server, configured, serversEqual, catalogsEqual, registryEqual⟩
  have published := discover_publishedBy event.server event.listed
  have enables_iff (adapter : McpToolAdapter) :
      target.Enables adapter ↔
        if adapter.serverName = event.server then
          adapter ∈ enabledAdapters server event.server (discover event.server event.listed)
        else
          manager.Enables adapter := by
    unfold McpManager.Enables
    rw [serversEqual, catalogsEqual]
    split_ifs with own
    · simp [own, configured]
    · simp [Dict.get?_insert_of_ne manager.catalogs _ own]
  intro key adapter
  rw [registryEqual, get?_applied server _ published, enables_iff]
  constructor
  · rintro (⟨other, enabled, same, named⟩ | ⟨outside, found⟩)
    · cases same
      have owner := (enabledAdapters_owner published enabled).1
      exact ⟨named, by simpa [owner] using enabled⟩
    · rcases (exact key adapter).mp found with ⟨named, enabled⟩
      have foreign : adapter.serverName ≠ event.server := by
        intro own
        rcases enabled with ⟨_, catalog, _, _, member⟩
        have under : startsWith key (toolPrefix event.server) = true := by
          simp only [enabledAdapters, List.mem_map] at member
          rcases member with ⟨entry, _, rfl⟩
          rw [named, ← own]
          exact wrappedName_startsWith _ _
        exact Bool.noConfusion (outside.symm.trans under)
      exact ⟨named, by simpa [foreign] using enabled⟩
  · rintro ⟨named, enabled⟩
    by_cases own : adapter.serverName = event.server
    · exact Or.inl ⟨adapter, by simpa [own] using enabled, rfl, named⟩
    · have found := (exact key adapter).mpr
        ⟨named, by simpa [own] using enabled⟩
      exact Or.inr ⟨noForeign key adapter found own, found⟩

/--
In every run in which no catalog is applied while a tool of another server
lies under its server's prefix, the registered MCP tools are exactly the
enabled tools of the latest catalogs; and from each state of such a run a
catalog event leaves the tools of the other servers unchanged if and only if
it meets the same condition.
-/
theorem catalogRuns_registerEnabled
    {manager : McpManager}
    (reached : catalogMachine.Reaches NoForeignTool manager) :
    manager.RegistersEnabled ∧ ∀ event target, catalogMachine.step manager event = some target →
        (KeepsOtherServers manager target event.server ↔
          NoForeignTool manager event) := by
  refine ⟨?_, fun _ _ => catalogEvent_keepsOthers_iff⟩
  refine reached.invariant ?_ ?_
  · rintro state ⟨onlyLocal, noCatalog⟩ key adapter
    constructor
    · exact fun found => absurd found (onlyLocal key adapter)
    · rintro ⟨_, _, _, _, found, _⟩
      simp [noCatalog] at found
  · intro state event target _ exact noForeign stepped
    exact catalogEvent_registersEnabled exact noForeign stepped

/-! ## Two servers that share a prefix -/

/-- The servers `a` and `a_b`, each with the tool `t` enabled. -/
def nestedNames : McpManager where
  servers := (Dict.empty.insert "a" ⟨["t"]⟩).insert "a_b" ⟨["t"]⟩
  registry := ⟨Dict.empty⟩
  catalogs := Dict.empty

/-- A server that lists only the tool `t`. -/
def listsOneTool (server : String) : CatalogEvent where
  server := server
  listed := [⟨"t", "", Dict.empty⟩]

theorem nestedNames_initial : catalogMachine.initial nestedNames := ⟨emptyRegistry_onlyLocal, rfl⟩

/--
The tool of `a_b` is registered as `mcp_a_b_t`, under the prefix `mcp_a_` of
server `a`: the catalog of `a` removes it although it stays enabled.
-/
theorem nested_names_lose_tool : catalogMachine.initial nestedNames ∧
      ∃ before after, catalogMachine.run nestedNames [listsOneTool "a_b"] = some before ∧
          catalogMachine.step before (listsOneTool "a") = some after ∧
          ¬ KeepsOtherServers before after "a" ∧
          ¬ after.RegistersEnabled := by
  refine ⟨nestedNames_initial, _, _, rfl, rfl, ?_, ?_⟩
  · intro keeps
    have kept := keeps "mcp_a_b_t"
      ⟨"a_b", "t", "mcp_a_b_t", "MCP a_b 工具：t",
        "\x7b\"type\": \"object\", \"properties\": \x7b\x7d\x7d",
        "\x7b\x7d"⟩ (by decide)
    exact absurd (kept.mpr (by decide)) (by decide)
  · intro exact
    have registered := (exact "mcp_a_b_t"
      ⟨"a_b", "t", "mcp_a_b_t", "MCP a_b 工具：t",
        "\x7b\"type\": \"object\", \"properties\": \x7b\x7d\x7d",
        "\x7b\x7d"⟩).mpr
      ⟨rfl, _, _, rfl, rfl, by decide⟩
    exact absurd registered (by decide)

/-- The names `a` and `b` do not interfere. -/
def separateNames : McpManager where
  servers := (Dict.empty.insert "a" ⟨["t"]⟩).insert "b" ⟨["t"]⟩
  registry := ⟨Dict.empty⟩
  catalogs := Dict.empty

theorem separateNames_initial : catalogMachine.initial separateNames :=
  ⟨emptyRegistry_onlyLocal, rfl⟩

theorem separateNames_noForeign :
    NoForeignTool separateNames (listsOneTool "a") := by
  intro key adapter found
  exact absurd found (emptyRegistry_onlyLocal key adapter)

theorem separate_names_registerEnabled : ∃ manager,
      catalogMachine.step separateNames (listsOneTool "a") = some manager ∧
        manager.RegistersEnabled :=
  ⟨_, rfl, (catalogRuns_registerEnabled (.next (.start separateNames_initial)
        separateNames_noForeign rfl)).1⟩

end TurningGood.Mcp
