import DataQuality.Suite.Spec
import DataQuality.Check.Encode

/-!
# Suites

A suite is an optionally named list of declared checks; a declared check has a description, a
level, its declared constraints and whether it stops at the first failure.  A declared check
becomes a check by adding its constraints in order, each through its specification, filter
and hint.
-/

namespace DataQuality

open Json

/-- A check as a suite declares it. -/
structure CheckConfig where
  description : String
  level : CheckLevel
  stopOnFailure : Bool := false
  constraints : List ConstraintConfig
  deriving Inhabited

/-- A declared list of checks. -/
structure SuiteConfig where
  name : Option String := none
  checks : List CheckConfig
  deriving Inhabited

namespace CheckConfig

/-- The check a declaration stands for. -/
def toCheck (c : CheckConfig) : Check :=
  let check := c.constraints.foldl ConstraintConfig.apply ⟨c.level, c.description, [], false⟩
  if c.stopOnFailure then check.stoppingOnFailure else check

/-- The document of a declared check. -/
def toJson (c : CheckConfig) : Json :=
  obj [("description", str c.description), ("level", str c.level.key),
    ("stop_on_failure", bool c.stopOnFailure),
    ("constraints", arr (c.constraints.map ConstraintConfig.toJson))]

/-- Reads a declared check. -/
def fromJson : Decoder CheckConfig := fun v => do
  return {
    description := ← get v "description" asString
    level := ← get v "level" CheckLevel.fromJson
    stopOnFailure := ← getD v "stop_on_failure" asBool false
    constraints := ← get v "constraints" (asList (ConstraintConfig.fromJson asFloat)) }

end CheckConfig

namespace SuiteConfig

/-- The checks a suite declares. -/
def toChecks (s : SuiteConfig) : List Check := s.checks.map CheckConfig.toCheck

/-- The document of a suite. -/
def toJson (s : SuiteConfig) : Json :=
  obj [("name", ofOption str s.name), ("checks", arr (s.checks.map CheckConfig.toJson))]

/-- Reads a suite. -/
def fromJson : Decoder SuiteConfig := fun v => do
  return { name := ← getOpt v "name" asString, checks := ← get v "checks" (asList CheckConfig.fromJson) }

end SuiteConfig

end DataQuality
