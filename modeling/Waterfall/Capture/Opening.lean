import Waterfall.Analysis.Config

/-! # Opening the audio devices

Capture asks the default input for its configuration and opens a stream on it, and the monitor asks
the default output for its own. On a machine without a sound card each of these steps fails.
-/

namespace Waterfall.Capture

/-- A step of opening the audio devices. -/
inductive OpeningStep
  | inputConfig | inputStream | outputConfig
deriving DecidableEq, Repr, Inhabited

namespace OpeningStep

/-- What could not be done when a step failed. -/
def text : OpeningStep → String
  | inputConfig => "failed to get input config"
  | inputStream => "failed to build input stream"
  | outputConfig => "failed to get output config"

/-- Why a step fails on a machine without a sound card. -/
def missingDevice : OpeningStep → String
  | inputConfig | outputConfig =>
    "The requested device is no longer available. For example, it has been unplugged."
  | inputStream =>
    "A backend-specific error has occurred: ALSA function 'snd_pcm_open' failed with error " ++
      "'No such file or directory (2)'"

/-- The failure of a step on a machine without a sound card. -/
def failure (step : OpeningStep) : Failure := .audio s!"{step.text}: {step.missingDevice}"

end OpeningStep

/-- Why capture does not start on a machine without a sound card: the settings are checked first. -/
def failureWithoutDevice (config : AnalysisConfig) : Failure :=
  match config.validate with
  | .error rejection => rejection.toFailure
  | .ok () => OpeningStep.inputConfig.failure

end Waterfall.Capture
