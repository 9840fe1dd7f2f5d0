import AppMend.Config.Environment
import AppMend.Number.Written

/-!
# Settings of the agent

Which endpoint answers requests for new files, and how it is asked. All of it comes from the
environment; a number that does not parse is passed over.
-/

namespace AppMend

open Number

structure AgentConfig where
  url : String := "http://localhost:8080/v1"
  model : String := "qwen2.5-coder-32b"
  /-- What the endpoint is to be shown, if anything. -/
  apiKey : Option String := none
  requestTimeoutSecs : Nat := 180
  temperature : Binary := Format.single.ofDecimal false 2 (-1)
  maxTokens : Nat := 8192
deriving DecidableEq, Inhabited

namespace AgentConfig

def ofEnvironment (env : Environment) : AgentConfig :=
  let d : AgentConfig := {}
  { url := (env "PREVIEW_AGENT_URL").getD d.url
    model := (env "PREVIEW_AGENT_MODEL").getD d.model
    apiKey := (env "PREVIEW_AGENT_API_KEY").filter (!·.isEmpty)
    requestTimeoutSecs :=
      ((env "PREVIEW_AGENT_TIMEOUT_SECS").bind (readNat? (Nat.pow 2 64))).getD d.requestTimeoutSecs
    temperature := ((env "PREVIEW_AGENT_TEMPERATURE").bind Format.single.ofText?).getD d.temperature
    maxTokens := ((env "PREVIEW_AGENT_MAX_TOKENS").bind (readNat? (Nat.pow 2 32))).getD d.maxTokens }

/-- A text without the slashes at its end. -/
def withoutSlashes (s : String) : String :=
  String.ofList (s.toList.reverse.dropWhile (· == '/')).reverse

/-- The address of the endpoint that completes chats. -/
def completionsUrl (c : AgentConfig) : String := withoutSlashes c.url ++ "/chat/completions"

/-- The temperature as it is shown. -/
def temperatureText (c : AgentConfig) : String := Layout.display.text .single c.temperature

/-- The temperature as a number of a document. -/
def temperatureValue (c : AgentConfig) : Binary := Format.double.convert c.temperature

end AgentConfig

end AppMend
