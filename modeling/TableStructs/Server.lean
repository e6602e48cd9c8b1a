import TableStructs.Schema

/-!
Serving the tools to a client: messages in, messages out, each a JSON value. A message with an `id`
is a request and gets one response; others are notices and get none.
-/
namespace TableStructs.Server

open Tool (object)

/-- The name and the version by which the server goes. -/
def serverName : Text := "mcp-sql2go-tools".toText
def serverVersion : Text := "0.1.0".toText

/-- The version of the protocol that is offered to a client that asks for an unknown one. -/
def latestProtocol : Text := "2025-06-18".toText

/-- The versions of the protocol that clients may ask for. -/
def protocols : List Text :=
  ["2024-11-05".toText, "2025-03-26".toText, latestProtocol]

/-! ### Results -/

/-- What is answered to a client that begins a session. -/
def greeting (params : Json.Value) : Json.Value :=
  let version :=
    match params.get? "protocolVersion".toText with
    | some (.str v) => if protocols.contains v then v else latestProtocol
    | _ => latestProtocol
  object
    [("capabilities",
        object
          [("experimental", .obj []), ("tools", object [("listChanged", .bool false)])]),
      ("protocolVersion", .str version),
      ("serverInfo", object [("name", .str serverName), ("version", .str serverVersion)])]

/-- The descriptions of all tools. -/
def toolList : Json.Value := object [("tools", .arr (Tool.all.map Tool.describe))]

/-- The result of a call: one text, and whether it is an error of the call. -/
def callResult (text : Text) (isError : Bool) : Json.Value :=
  object
    [("content", .arr [object [("type", .str "text".toText), ("text", .str text)]]),
      ("isError", .bool isError)]

/-- Calls a tool with arguments that fit its description. -/
def callTool (c : Converter) (name : Text) (arguments : Json.Members) : Action Json.Value :=
  tryCatch (do return callResult (← Tool.call c name arguments).text false) fun f =>
    return callResult f.message true

/-- Calls a tool, whose arguments are checked first if it is known. -/
def checkedCall (c : Converter) (name : Text) (arguments : Json.Members) : Action Json.Value :=
  match (Tool.ofName? name).bind (·.complaint? arguments) with
  | some complaint =>
    return callResult ("Input validation error: ".toText ++ complaint) true
  | none => callTool c name arguments

/-! ### Requests -/

/-- A request that gets no result. -/
inductive Refusal
  | badParameters
  | unknownMethod

/-- The error of a request. -/
def Refusal.toJson : Refusal → Json.Value
  | badParameters =>
    object [("code", .int (-32602)), ("message", .str "Invalid request parameters".toText),
      ("data", .str [])]
  | unknownMethod => object [("code", .int (-32601)), ("message", .str "Method not found".toText)]

/-- The requests that clients may send but that this server does not serve. -/
def unserved : List String :=
  ["completion/complete", "logging/setLevel", "prompts/get", "prompts/list", "resources/list",
    "resources/read", "resources/subscribe", "resources/templates/list", "resources/unsubscribe"]

/-- The result of a request. -/
def respond (c : Converter) (method : Text) (params : Json.Value) :
    Action (Except Refusal Json.Value) :=
  if method = "initialize".toText then return .ok (greeting params)
  else if method = "ping".toText then return .ok (.obj [])
  else if method = "tools/list".toText then return .ok toolList
  else if method = "tools/call".toText then
    match params.get? "name".toText, (params.get? "arguments".toText).getD .null with
    | some (.str name), .obj arguments => return .ok (← checkedCall c name arguments)
    | some (.str name), .null => return .ok (← checkedCall c name [])
    | _, _ => return .error .badParameters
  else if unserved.any (·.toText = method) then return .error .unknownMethod
  else return .error .badParameters

/-- A response with its number. -/
def response (id : Json.Value) : Except Refusal Json.Value → Json.Value
  | .ok result => object [("jsonrpc", .str "2.0".toText), ("id", id), ("result", result)]
  | .error refusal =>
    object [("jsonrpc", .str "2.0".toText), ("id", id), ("error", refusal.toJson)]

/-- The response to a message, if it gets one. -/
def answer (c : Converter) (message : Json.Value) : Action (Option Json.Value) :=
  match message.get? "id".toText, message.get? "method".toText with
  | some id, some (.str method) => do
    let result ← respond c method ((message.get? "params".toText).getD .null)
    return some (response id result)
  | _, _ => return none

end TableStructs.Server
