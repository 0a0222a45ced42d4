import NovaCommerce.Mcp.Tools

/-!
# The tool server

Every tool is registered behind one gate: a request is authorized by the registry, its arguments are parsed, and only then
does the handler run.

* `Server.authorized` : a registered tool body; `Server.request` : the paths to it; `Server.listTools` : what is listed;
* `request_ran` : a handler that ran was admitted; `mem_listTools` : what is listed is what is admitted.
-/

namespace NovaCommerce.Mcp

open Console

/-! ## The server -/

/-- A verified token; its principal is a claim that the verifier put there. -/
structure AccessToken where
  principal : Option Identity.Principal
  scopes : List String

/-- The server's settings, the input models, and the SDK's parse of the arguments it is sent. -/
structure Server (ν : Type) where
  platform : Platform ν
  writeScope : String := "nova.write"
  validate : (tool : Tool) → JsonObject → Except String tool.Input
  parse : (tool : Tool) → JsonObject → Except AppError JsonObject

/-- What a request did: the handlers that ran, the answer, and the tables afterwards. -/
structure Outcome (ν : Type) where
  ran : List Tool := []
  answer : Except AppError (Σ tool : Tool, tool.Output ν)
  tables : Tables

variable {ν : Type}

def refused (t : Tables) (kind : ErrorKind) (message : String) : Outcome ν :=
  { answer := .error { kind := kind, message := message }, tables := t }

/-- A failure as the client reads it. -/
def Failure.shown (f : Failure) (tool : Tool) : AppError :=
  if f.named then { f.error with message := tool.spec.name ++ ": " ++ f.error.message } else f.error

/-- The handler, run and reported. -/
def Server.dispatch (server : Server ν) (tool : Tool) (principal : Identity.Principal) (input : tool.Input) (t : Tables)
    (now : Time) : Outcome ν :=
  match handle server.platform t principal now tool input with
  | .ok (output, t') => { ran := [tool], answer := .ok ⟨tool, output⟩, tables := t' }
  | .error f => { ran := [tool], answer := .error (f.shown tool), tables := t }

/-- `_authorized_handler`: authorize, then parse, then run. -/
def Server.authorized (server : Server ν) (tool : Tool) (token : Option AccessToken) (arguments : JsonObject) (t : Tables)
    (now : Time) : Outcome ν :=
  match token with
  | none => refused t .mcpTokenInvalid "no verified bearer token is present on this request"
  | some token =>
    match token.principal with
    | none => refused t .mcpTokenInvalid "no verified bearer token is present on this request"
    | some principal =>
      match authorizeTool tool.spec.name principal token.scopes server.writeScope with
      | some denial => refused t denial.code (tool.spec.name ++ ": " ++ denial.reason)
      | none =>
        match server.validate tool arguments with
        | .error text =>
          refused t .agentToolInputInvalid ("invalid arguments for " ++ tool.spec.name ++ ": " ++ text)
        | .ok input => server.dispatch tool principal input t now

/-- How a request reaches a tool body: by the server's `call_tool`, or by the SDK's own. -/
inductive Path where
  | callTool
  | sdk
  deriving DecidableEq, Repr

/-- A request for a tool by name. -/
def Server.request (server : Server ν) (path : Path) (name : String) (token : Option AccessToken) (arguments : JsonObject)
    (t : Tables) (now : Time) : Outcome ν :=
  match toolNamed? name with
  | none =>
    match path with
    | .callTool => refused t .mcpToolNotExposed (name ++ ": tool is not exposed by this server")
    | .sdk => refused t .mcpToolNotExposed ("Unknown tool: " ++ name)
  | some tool =>
    match server.parse tool arguments with
    | .error x => { answer := .error x, tables := t }
    | .ok parsed => server.authorized tool token parsed t now

/-- `list_tools`. -/
def Server.listTools (server : Server ν) (token : Option AccessToken) : List Tool :=
  match token.bind fun token => token.principal.map fun principal => (principal, token.scopes) with
  | none => []
  | some (principal, scopes) => tools.filter fun tool =>
    decide (tool.spec.name ∈ authorizedToolNames principal scopes server.writeScope)

/-- What is listed is what is admitted. -/
theorem mem_listTools (server : Server ν) {tool : Tool} {principal : Identity.Principal} {scopes : List String} :
    tool ∈ server.listTools (some ⟨some principal, scopes⟩) ↔ Admits tool principal scopes server.writeScope := by
  unfold Server.listTools
  simp only [Option.bind_some, Option.map_some]
  rw [List.mem_filter, decide_eq_true_iff, mem_authorizedToolNames]
  exact and_iff_right (mem_tools tool)

/-! ## A handler runs only for those who are admitted -/

theorem authorized_ran {server : Server ν} {tool ran : Tool} {principal : Identity.Principal} {scopes : List String}
    {arguments : JsonObject} {t : Tables} {now : Time}
    (h : ran ∈ (server.authorized tool (some ⟨some principal, scopes⟩) arguments t now).ran) :
    ran = tool ∧ Admits tool principal scopes server.writeScope := by
  unfold Server.authorized at h
  dsimp only at h
  cases hdenial : authorizeTool tool.spec.name principal scopes server.writeScope with
  | some denial =>
    rw [hdenial] at h
    exact absurd h List.not_mem_nil
  | none =>
    rw [hdenial] at h
    dsimp only at h
    refine ⟨?_, hdenial⟩
    cases hinput : server.validate tool arguments with
    | error text =>
      rw [hinput] at h
      exact absurd h List.not_mem_nil
    | ok input =>
      rw [hinput] at h
      unfold Server.dispatch at h
      dsimp only at h
      split at h
      · exact List.mem_singleton.mp h
      · exact List.mem_singleton.mp h

theorem request_ran {server : Server ν} {path : Path} {name : String} {ran : Tool} {principal : Identity.Principal}
    {scopes : List String} {arguments : JsonObject} {t : Tables} {now : Time}
    (h : ran ∈ (server.request path name (some ⟨some principal, scopes⟩) arguments t now).ran) :
    Admits ran principal scopes server.writeScope := by
  unfold Server.request at h
  cases htool : toolNamed? name with
  | none =>
    rw [htool] at h
    cases path with
    | callTool => exact absurd h List.not_mem_nil
    | sdk => exact absurd h List.not_mem_nil
  | some tool =>
    rw [htool] at h
    dsimp only at h
    cases hparse : server.parse tool arguments with
    | error x =>
      rw [hparse] at h
      exact absurd h List.not_mem_nil
    | ok parsed =>
      rw [hparse] at h
      obtain ⟨rfl, hadmits⟩ := authorized_ran h
      exact hadmits

end NovaCommerce.Mcp
