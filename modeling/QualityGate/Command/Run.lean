import QualityGate.Command.Check
import QualityGate.Command.Config
import QualityGate.Command.Init

/-!
Doing what the program is asked to do.

* `Invocation.run`: what it leaves behind.
* `Invocation.configPaths`, `Invocation.otherPaths`: the paths that it looks at.
-/

namespace QualityGate

namespace Invocation

/-- The paths where an invocation looks for a configuration. -/
def configPaths (i : Invocation) (s : Surroundings) : List Path :=
  match i.request with
  | .check choices => choices.config?.toList ++ s.configSources.candidates
  | .init _ _ => []
  | .validateConfig config => [config]
  | .showConfig config? _ => config?.toList ++ s.configSources.candidates

/-- The other paths that an invocation looks at. The configuration may name one of them. -/
def otherPaths (i : Invocation) (s : Surroundings) : List Path :=
  match i.request with
  | .check choices =>
    let report? := match checkConfig s i.common.noConfig choices with
      | .ok c => c.coverage.report
      | .error _ => none
    choices.paths ++ choices.output?.toList ++ report?.toList
  | .init output _ => [output]
  | .validateConfig _ | .showConfig _ _ => []

/-- What an invocation leaves behind. -/
def run (i : Invocation) (s : Surroundings) : Outcome :=
  match i.request with
  | .check choices => runCheck s i.common choices
  | .init output force => runInit s.files output force
  | .validateConfig config => runValidateConfig s.files config
  | .showConfig config? format => runShowConfig s i.common.noConfig config? format

end Invocation

end QualityGate
