import AppMend.Agent.Address
import AppMend.Agent.Completion
import AppMend.Agent.Config
import AppMend.Heal.Request

/-!
# Exchanges with the endpoint

What is sent to the endpoint for a request for new files, and what its reply means. How the text gets
there and back is not told here: an exchange is a function from what is sent to what comes of it.
-/

namespace AppMend

/-- What is sent to the endpoint. -/
structure ChatRequest where
  url : String
  /-- What the endpoint is shown, if anything. -/
  authorization : Option String
  body : Json.Value

/-- What came of it. -/
inductive ChatReply where
  /-- It took too long. -/
  | timedOut
  /-- It did not come about. -/
  | failed (detail : String)
  | replied (status : Nat) (body : String)
deriving DecidableEq, Inhabited

/-- A way to the endpoint. -/
abbrev Exchange := ChatRequest → ChatReply

/-- The way that leads nowhere. -/
def Exchange.unreachable : Exchange := fun r =>
  .failed ("error sending request for url (" ++ r.url ++ ")")

namespace ChatRequest

def systemPrompt : String := "\n".intercalate [
  "You repair React + TypeScript apps that failed automated verification.",
  "Return ONLY a JSON object of the form:",
  "\x7b\"files\": [\x7b\"path\": \"src/App.tsx\", \"content\": \"...\"\x7d], \"note\": \"one line on what changed\"\x7d",
  "Rules:",
  "- Return complete file contents, never diffs.",
  "- Only return files you changed.",
  "- Keep the default export of every component.",
  "- Import only from react, react-dom, lucide-react or files in the project."]

/-- A file within a prompt. -/
def fileText (f : File) : String :=
  let mark := String.ofList Completion.fenceMark
  s!"\n### {f.path}\n\n{mark}{f.language.name}\n{f.content}\n{mark}\n"

/-- The prompt for one attempt. -/
def userPrompt (r : RegenerationRequest) : String :=
  s!"## Original request\n\n{r.firstPrompt}\n\n## Attempt\n\n{r.attemptNumber}\n\n" ++
    s!"## Errors\n\n{r.errorContext}\n\n## Instructions\n\n{r.fixPrompt}\n" ++
    String.join (r.failedFiles.map fileText)

/-- Whether a text may stand in the head of what is sent. -/
def isHeadText (s : String) : Bool := s.toList.all fun c => c == '\t' || (' ' ≤ c && c != '\x7f')

/-- What is sent for a request, unless there is no such address or the key cannot be shown. -/
def of? (c : AgentConfig) (r : RegenerationRequest) : Option ChatRequest := do
  let address ← Address.read? c.completionsUrl.toList
  if !c.apiKey.all isHeadText then none
  else pure { url := address.text, authorization := c.apiKey.map ("Bearer " ++ ·), body := bodyOf c r }
where
  bodyOf (c : AgentConfig) (r : RegenerationRequest) : Json.Value := .object [("model", c.model),
    ("messages", .arr [
      .object [("role", "system"), ("content", systemPrompt)],
      .object [("role", "user"), ("content", userPrompt r)]]),
    ("temperature", match c.temperatureValue with
      | .finite s m e => .num (.float (.finite s m e))
      | _ => .null),
    ("max_tokens", .ofNat c.maxTokens)]

end ChatRequest

namespace ChatReply

/-- The words that go with a status. -/
def reasons : List (Nat × String) := [
  (100, "Continue"), (101, "Switching Protocols"), (102, "Processing"), (103, "Early Hints"),
  (200, "OK"), (201, "Created"), (202, "Accepted"), (203, "Non Authoritative Information"),
  (204, "No Content"), (205, "Reset Content"), (206, "Partial Content"), (207, "Multi-Status"),
  (208, "Already Reported"), (226, "IM Used"), (300, "Multiple Choices"),
  (301, "Moved Permanently"), (302, "Found"), (303, "See Other"), (304, "Not Modified"),
  (305, "Use Proxy"), (307, "Temporary Redirect"), (308, "Permanent Redirect"),
  (400, "Bad Request"), (401, "Unauthorized"), (402, "Payment Required"), (403, "Forbidden"),
  (404, "Not Found"), (405, "Method Not Allowed"), (406, "Not Acceptable"),
  (407, "Proxy Authentication Required"), (408, "Request Timeout"), (409, "Conflict"),
  (410, "Gone"), (411, "Length Required"), (412, "Precondition Failed"),
  (413, "Payload Too Large"), (414, "URI Too Long"), (415, "Unsupported Media Type"),
  (416, "Range Not Satisfiable"), (417, "Expectation Failed"), (418, "I'm a teapot"),
  (421, "Misdirected Request"), (422, "Unprocessable Entity"), (423, "Locked"),
  (424, "Failed Dependency"), (425, "Too Early"), (426, "Upgrade Required"),
  (428, "Precondition Required"), (429, "Too Many Requests"),
  (431, "Request Header Fields Too Large"), (451, "Unavailable For Legal Reasons"),
  (500, "Internal Server Error"), (501, "Not Implemented"), (502, "Bad Gateway"),
  (503, "Service Unavailable"), (504, "Gateway Timeout"), (505, "HTTP Version Not Supported"),
  (506, "Variant Also Negotiates"), (507, "Insufficient Storage"), (508, "Loop Detected"),
  (510, "Not Extended"), (511, "Network Authentication Required")]

/-- A status with its words. -/
def statusText (status : Nat) : String :=
  s!"{status} " ++ ((reasons.find? (·.1 == status)).map (·.2)).getD "<unknown status code>"

/-- The text that the model answered; nothing if there is none. -/
def contentOf (v : Json.Value) : String :=
  let first := ((v.field? "choices").bind Json.Value.arr?).bind List.head?
  let message := first.bind fun c => c.field? "message"
  ((message.bind fun m => m.field? "content").bind Json.Value.str?).getD ""

/-- The completion that a reply holds. -/
def completion (c : AgentConfig) : ChatReply → Except GeneratorError Completion
  | timedOut => .error (.timeout (c.requestTimeoutSecs * 1000))
  | failed detail => .error (.request detail)
  | replied status body =>
    if status < 200 ∨ 300 ≤ status then
      .error (.request s!"completion endpoint error ({statusText status}): {body}")
    else
      match Json.read body.toList with
      | .error _ => .error (.unusable "error decoding response body")
      | .ok v =>
        match Completion.parse (contentOf v) with
        | .ok r => .ok r
        | .error e => .error (.unusable e.message)

end ChatReply

/-- The completion that an endpoint gives to a request for new files. -/
def AgentConfig.complete (c : AgentConfig) (exchange : Exchange) (r : RegenerationRequest) :
    Except GeneratorError Completion :=
  match ChatRequest.of? c r with
  | some sent => (exchange sent).completion c
  | none => .error (.request "builder error")

end AppMend
