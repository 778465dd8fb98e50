import ServiceGraph.Editor.Session
import ServiceGraph.Json.Basic

/-!
The messages of a session as JSON, in the form that editors of the language server protocol expect.
-/

namespace ServiceGraph.Editor

namespace Position

def json (p : Position) : Json :=
  .object [("line", .ofNat p.line), ("character", .ofNat p.character)]

end Position

namespace Range

def json (r : Range) : Json := .object [("start", r.start.json), ("end", r.stop.json)]

end Range

/-- The name under which the server reports. -/
def serverName : String := "decl-lsp"

def serverVersion : String := "0.1.0"

/-- What the server can do: whole-text synchronisation, hovers, and completion after an `@`. -/
def serverJson : Json :=
  .object
    [("capabilities", .object
      [("textDocumentSync", .ofNat 1), ("hoverProvider", .bool true),
       ("completionProvider", .object [("triggerCharacters", .ofStrings ["@"])])]),
     ("serverInfo", .object [("name", .string serverName), ("version", .string serverVersion)])]

/-- The number of a severity. -/
def severityNumber : Severity → Nat
  | .error => 1
  | .warning => 2

/-- The number of a kind of completion: a keyword for tags, an interface for names. -/
def completionNumber : CompletionKind → Nat
  | .tag => 14
  | .name => 8

namespace Problem

def json (p : Problem) : Json :=
  .object
    [("range", p.range.json), ("severity", .ofNat (severityNumber p.severity)),
     ("code", .string p.code.text), ("source", .string "decl"), ("message", .string p.message)]

end Problem

namespace Hover

def json (h : Hover) : Json :=
  .object
    [("contents", .object [("kind", .string "markdown"), ("value", .string h.text)]),
     ("range", h.range.json)]

end Hover

namespace Completion

def json (c : Completion) : Json :=
  .object
    [("label", .string c.label), ("kind", .ofNat (completionNumber c.kind)),
     ("detail", .string c.help)]

end Completion

namespace Answer

/-- The result of an answer; a failure has none. -/
def json? : Answer → Option Json
  | .nothing => some .null
  | .capabilities => some serverJson
  | .hover h => some h.json
  | .completions all => some (.array (all.map Completion.json))
  | .failure => none

end Answer

namespace Notification

def method : Notification → String
  | .ready => "window/logMessage"
  | .problems _ _ => "textDocument/publishDiagnostics"

def params : Notification → Json
  | .ready => .object [("type", .ofNat 3), ("message", .string "decl LSP ready")]
  | .problems address all =>
    .object [("uri", .string address), ("diagnostics", .array (all.map Problem.json))]

def json (n : Notification) : Json :=
  .object [("method", .string n.method), ("params", n.params)]

end Notification

end ServiceGraph.Editor
