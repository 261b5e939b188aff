import RulePyramid.Json.Value

/-!
Telemetry: one record for each step in the life of a command, tied together by the number of the
request that it serves.
-/

namespace RulePyramid

inductive CommandLifecycle where
  | start
  | success
  | failure
  | superseded
  deriving DecidableEq

namespace CommandLifecycle

def name : CommandLifecycle → String
  | .start => "Start"
  | .success => "Success"
  | .failure => "Failure"
  | .superseded => "Superseded"

/-- The message under which a step is logged. -/
def message : CommandLifecycle → String
  | .start => "command_start"
  | .success => "command_success"
  | .failure => "command_failure"
  | .superseded => "command_superseded"

end CommandLifecycle

structure CommandTelemetry where
  request : Nat
  command : String
  lifecycle : CommandLifecycle
  errorReason : Option String := none
  /-- In milliseconds. -/
  duration : Option Nat := none
  deriving DecidableEq

namespace CommandTelemetry

def start (command : String) (request : Nat) : CommandTelemetry :=
  { request, command, lifecycle := .start }

def success (command : String) (request : Nat) (duration : Option Nat) : CommandTelemetry :=
  { request, command, lifecycle := .success, duration }

def failure (command : String) (request : Nat) (errorReason : Option String) : CommandTelemetry :=
  { request, command, lifecycle := .failure, errorReason }

/-- The response to a request came after a newer one was issued. -/
def superseded (command : String) (request : Nat) : CommandTelemetry :=
  { request, command, lifecycle := .superseded }

def toJson (t : CommandTelemetry) : Json := .object [
  ("request", .nat t.request),
  ("command", .string t.command),
  ("lifecycle", .string t.lifecycle.name),
  ("error_reason", .option .string t.errorReason),
  ("duration_ms", .option .nat t.duration)]

end CommandTelemetry

end RulePyramid
