import Workflow.Definition.Basic

/-!
# Definitions as documents

Definitions written back as documents. What is absent or empty is left out.
-/

namespace Workflow

open Encode

def Encode.float (name : String) (value : Option Float) : Entries Json :=
  optional name (value.map Json.float)

/-- Whole numbers of 32 and of 64 bits as fields. -/
def Encode.u32 (name : String) (value : Option UInt32) : Entries Json :=
  optional name (value.map fun n => Json.nat n.toNat)

def Encode.u64 (name : String) (value : Option UInt64) : Entries Json :=
  optional name (value.map fun n => Json.nat n.toNat)

def Encode.text (name : String) (value : Option String) : Entries Json :=
  optional name (value.map Json.str)

namespace InputRules

def toJson (r : InputRules) : Json :=
  .obj <| text "pattern" r.pattern ++ u64 "min_length" r.minLength ++ u64 "max_length" r.maxLength
    ++ float "minimum" r.minimum ++ float "maximum" r.maximum
    ++ optional "enum" (r.allowed.map Json.arr)

end InputRules

namespace InputSpec

def toJson (s : InputSpec) : Json :=
  .obj <| field "type" (.str s.type.name) ++ field "required" (.bool s.required)
    ++ optional "default" s.default ++ text "description" s.description
    ++ optional "validation" (s.rules.map InputRules.toJson) ++ optional "example" s.sample

end InputSpec

namespace OutputSpec

def toJson (s : OutputSpec) : Json :=
  .obj <| field "source" (.str s.source) ++ text "type" (s.type.map ValueType.name)
    ++ text "description" s.description

end OutputSpec

namespace CodeConfig

def toJson (c : CodeConfig) : Json :=
  .obj <| field "language" (.str c.language.name) ++ field "code" (.str c.code) ++
    u64 "timeout" c.timeout

end CodeConfig

namespace LlmConfig

def toJson (c : LlmConfig) : Json :=
  .obj <| field "model" (.str c.model) ++ field "prompt" (.str c.prompt)
    ++ text "system_prompt" c.systemPrompt ++ float "temperature" c.temperature
    ++ u32 "max_tokens" c.maxTokens ++ u64 "timeout" c.timeout

end LlmConfig

namespace HttpConfig

def toJson (c : HttpConfig) : Json :=
  .obj <| field "url" (.str c.url) ++ field "method" (.str c.method.name)
    ++ entries "headers" (c.headers.mapValues Json.str) ++ optional "body" c.body
    ++ u64 "timeout" c.timeout

end HttpConfig

namespace ConditionConfig

def toJson (c : ConditionConfig) : Json :=
  .obj <| field "condition" (.str c.condition) ++ text "true_step" c.trueStep ++
    text "false_step" c.falseStep

end ConditionConfig

namespace StepConfig

/-- The configuration as it is written; some kinds of steps have none. -/
def toJson? : StepConfig → Option Json
  | start | finish => none
  | code c => some c.toJson
  | llm c => some c.toJson
  | http c => some c.toJson
  | condition c => some c.toJson
  | reserved .null => none
  | reserved json => some json

end StepConfig

namespace ErrorHandling

def toJson (h : ErrorHandling) : Json :=
  .obj <| field "on_error" (.str h.onError.name) ++ u32 "retry_count" h.retryCount
    ++ text "fallback_step" h.fallbackStep

end ErrorHandling

namespace Step

def toJson (s : Step) : Json :=
  .obj <| field "id" (.str s.id) ++ field "type" (.str s.type.name) ++ text "name" s.name
    ++ text "description" s.description ++ list "depends_on" (s.dependsOn.map Json.str)
    ++ optional "config" s.config.toJson? ++ entries "outputs" (s.outputs.mapValues Json.str)
    ++ optional "error_handling" (s.errorHandling.map ErrorHandling.toJson)

end Step

namespace Metadata

def toJson (m : Metadata) : Json :=
  .obj <| field "name" (.str m.name) ++ field "description" (.str m.description)
    ++ field "version" (.str m.version) ++ text "author" m.author
    ++ list "tags" (m.tags.map Json.str)

end Metadata

namespace Definition

def toJson (d : Definition) : Json :=
  .obj [("metadata", d.metadata.toJson), ("inputs", .obj (d.inputs.mapValues InputSpec.toJson)),
    ("workflow", .obj [("steps", .arr (d.steps.map Step.toJson))]),
    ("outputs", .obj (d.outputs.mapValues OutputSpec.toJson))]

end Definition

end Workflow
