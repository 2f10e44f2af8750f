import PromptRail.Python

/-!
# The kind of a span (`tracing/classifier.py`)

Attributes that say what a span is come before the words of its name, and an unknown span is of the kind `other`.
-/

namespace PromptRail

namespace Tracing

open PyText (Text strip split)
open Python (Datum Record Interpreter getAny contains)

/-- `SpanKind`. -/
inductive SpanKind where
  | agent | tool | retrieval | llm | workflow | branch | other
deriving DecidableEq

/-- The text of a kind. -/
def SpanKind.value : SpanKind → String
  | .agent => "agent"
  | .tool => "tool"
  | .retrieval => "retrieval"
  | .llm => "llm"
  | .workflow => "workflow"
  | .branch => "branch"
  | .other => "other"

/-- `_CLASS_NAMES`. -/
def classNames : List SpanKind := [.agent, .tool, .retrieval, .llm, .workflow, .branch, .other]

/-- The operations of each kind. -/
def operations : List (SpanKind × List String) :=
  [(.llm, ["chat", "completion", "embeddings", "generate", "invoke"]), (.tool, ["execute_tool", "tool", "function_call"]),
    (.retrieval, ["retrieve", "search", "query"])]

/-- `_LLM_SYSTEMS`. -/
def llmSystems : List String :=
  ["anthropic", "azure.ai.inference", "bedrock", "cohere", "gemini", "gen_ai", "mistral", "ollama", "openai", "vertex_ai"]

/-- `_RETRIEVAL_SYSTEMS`. -/
def retrievalSystems : List String := ["chroma", "elasticsearch", "milvus", "pinecone", "qdrant", "redis", "vector", "weaviate"]

/-- The attributes that only a span of a kind has. -/
def kindKeys : List (SpanKind × List String) :=
  [(.llm, ["gen_ai.request.model", "gen_ai.response.model", "llm.model_name", "ai.model.id"]),
    (.tool, ["tool.name", "tool.call.id", "function.name", "gen_ai.tool.name"]),
    (.retrieval, ["retrieval.query", "retrieval.documents", "db.vector.query", "vector.top_k"]),
    (.agent, ["agent.name", "agent.id", "ai.agent.name"]),
    (.workflow, ["workflow.name", "workflow.id", "job.name", "task.name"]),
    (.branch, ["branch.name", "branch.id", "decision.branch"])]

/-- The words that name a kind. -/
def kindWords : List (SpanKind × List String) :=
  [(.agent, ["agent", "planner", "executor"]), (.tool, ["tool", "function"]),
    (.retrieval, ["retrieve", "retrieval", "rerank", "search"]),
    (.llm, ["llm", "chat", "completion", "embedding", "openai", "anthropic"]),
    (.workflow, ["workflow", "pipeline", "run"]), (.branch, ["branch", "route", "decision"])]

variable (env : Interpreter)

/-- `_text`: a value that does not print is no text. -/
def classifierText : Datum → Text
  | .none => []
  | d =>
    match d.toText env with
    | .ok t => env.lowerCase.lower (strip t)
    | .error _ => []

/-- The first kind of a table of which some text is found. -/
def kindOf (table : List (SpanKind × List String)) (found : String → Bool) : Option SpanKind :=
  (table.find? fun row => row.2.any found).map Prod.fst

/-- The kind that the system of a span says. -/
def systemKind (system : Text) : Option SpanKind :=
  if llmSystems.any (·.toList == system) || "openai".toList.isPrefixOf system then some .llm
  else if retrievalSystems.any (·.toList == system) then some .retrieval
  else none

/-- The words of a name. -/
def nameWords (name : Text) : List Text := split (name.map fun c => if c = '.' ∨ c = '_' ∨ c = '-' then ' ' else c)

/-- `classify_span`, of attributes and a name. -/
def classifySpan (attributes : Record) (name : Option Text) : SpanKind :=
  let explicit := classifierText env (getAny env attributes
    ["promptrail.span.type", "promptrail.span.kind", "promptrail.kind", "llm.span.kind", "span.kind"])
  let operation := classifierText env (getAny env attributes ["gen_ai.operation.name", "ai.operation.name", "llm.operation"])
  let system := classifierText env (getAny env attributes ["gen_ai.system", "llm.system", "db.system"])
  let words := nameWords (name.elim [] fun name => env.lowerCase.lower (strip name))
  ((classNames.find? fun kind => kind.value.toList == explicit).or <|
    (kindOf operations fun text => text.toList == operation).or <|
    (systemKind system).or <|
    (kindOf kindKeys fun key => contains attributes key).or <|
    kindOf kindWords fun word => words.contains word.toList).getD .other

end Tracing

end PromptRail
