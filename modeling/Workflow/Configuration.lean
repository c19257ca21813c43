import Workflow.Decode.Basic

/-!
# Engine configuration

Every setting has a default, so an empty configuration is complete.
-/

namespace Workflow

open Decode (Field)

/-- Time limits of steps that set none of their own, in milliseconds. -/
structure Timeouts where
  code : UInt64
  http : UInt64
  llm : UInt64
  deriving DecidableEq

/-- Limits on the code of code steps. -/
structure SandboxLimits where
  maxCodeBytes : UInt64
  memoryLimit : UInt64
  loopLimit : UInt64
  recursionLimit : UInt64
  maxOutputBytes : UInt64
  deriving DecidableEq

/-- How text generation is reached. -/
structure LlmSettings where
  apiKeyVariable : String
  baseUrl : String
  defaultModel : String
  maxTokens : UInt32
  deriving DecidableEq

/-- The settings of an engine. -/
structure Configuration where
  /-- How many finished runs are kept. -/
  historyLimit : UInt64
  /-- The pause before a step is tried again, in milliseconds. -/
  retryDelay : UInt64
  maxResponseBytes : UInt64
  timeouts : Timeouts
  sandbox : SandboxLimits
  llm : LlmSettings
  deriving DecidableEq

def Timeouts.initial : Timeouts := ⟨30000, 30000, 120000⟩

def SandboxLimits.initial : SandboxLimits := ⟨65536, 33554432, 10000000, 512, 1048576⟩

def LlmSettings.initial : LlmSettings :=
  ⟨"ANTHROPIC_API_KEY", "https://api.anthropic.com", "claude-sonnet-4-20250514", 1024⟩

def Configuration.initial : Configuration := ⟨100, 0, 10485760, .initial, .initial, .initial⟩

def Timeouts.decoder : Decoder Timeouts :=
  Decode.record "TimeoutConfig" [
    .defaulted "code_ms" Decode.u64 fun v s => { s with code := v },
    .defaulted "http_ms" Decode.u64 fun v s => { s with http := v },
    .defaulted "llm_ms" Decode.u64 fun v s => { s with llm := v }
  ] .initial

def SandboxLimits.decoder : Decoder SandboxLimits :=
  Decode.record "SandboxLimits" [
    .defaulted "max_code_bytes" Decode.size fun v s => { s with maxCodeBytes := v },
    .defaulted "memory_limit_bytes" Decode.size fun v s => { s with memoryLimit := v },
    .defaulted "loop_iteration_limit" Decode.u64 fun v s => { s with loopLimit := v },
    .defaulted "recursion_limit" Decode.size fun v s => { s with recursionLimit := v },
    .defaulted "max_output_bytes" Decode.size fun v s => { s with maxOutputBytes := v }
  ] .initial

def LlmSettings.decoder : Decoder LlmSettings :=
  Decode.record "LlmSettings" [
    .defaulted "api_key_env" Decode.text fun v s => { s with apiKeyVariable := v },
    .defaulted "base_url" Decode.text fun v s => { s with baseUrl := v },
    .defaulted "default_model" Decode.text fun v s => { s with defaultModel := v },
    .defaulted "max_tokens" Decode.u32 fun v s => { s with maxTokens := v }
  ] .initial

def Configuration.decoder : Decoder Configuration :=
  Decode.record "EngineConfig" [
    .defaulted "history_limit" Decode.size fun v s => { s with historyLimit := v },
    .defaulted "retry_delay_ms" Decode.u64 fun v s => { s with retryDelay := v },
    .defaulted "max_http_response_bytes" Decode.size fun v s => { s with maxResponseBytes := v },
    .defaulted "timeouts" Timeouts.decoder fun v s => { s with timeouts := v },
    .defaulted "sandbox" SandboxLimits.decoder fun v s => { s with sandbox := v },
    .defaulted "llm" LlmSettings.decoder fun v s => { s with llm := v }
  ] .initial

def Timeouts.toJson (t : Timeouts) : Json :=
  .obj [("code_ms", .nat t.code.toNat), ("http_ms", .nat t.http.toNat),
    ("llm_ms", .nat t.llm.toNat)]

def SandboxLimits.toJson (l : SandboxLimits) : Json :=
  .obj [("max_code_bytes", .nat l.maxCodeBytes.toNat),
    ("memory_limit_bytes", .nat l.memoryLimit.toNat),
    ("loop_iteration_limit", .nat l.loopLimit.toNat),
    ("recursion_limit", .nat l.recursionLimit.toNat),
    ("max_output_bytes", .nat l.maxOutputBytes.toNat)]

def LlmSettings.toJson (s : LlmSettings) : Json :=
  .obj [("api_key_env", .str s.apiKeyVariable), ("base_url", .str s.baseUrl),
    ("default_model", .str s.defaultModel), ("max_tokens", .nat s.maxTokens.toNat)]

def Configuration.toJson (c : Configuration) : Json :=
  .obj [("history_limit", .nat c.historyLimit.toNat), ("retry_delay_ms", .nat c.retryDelay.toNat),
    ("max_http_response_bytes", .nat c.maxResponseBytes.toNat), ("timeouts", c.timeouts.toJson),
    ("sandbox", c.sandbox.toJson), ("llm", c.llm.toJson)]

end Workflow
