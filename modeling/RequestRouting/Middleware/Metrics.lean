import RequestRouting.Execution

/-!
# Metrics

Counts each request when it comes in and its status when the handlers behind have ended.
-/

set_option autoImplicit false

namespace RequestRouting.Metrics

def run (meter : String) (advance : Step) : Step := fun e =>
  match advance (e.updateMeter meter fun m => m.enter e.context.pattern) with
  | (.panicked payload, after) => (.panicked payload, after)
  | (outcome, after) =>
    (outcome, after.updateMeter meter fun m => m.answer (after.statusOf outcome))

end RequestRouting.Metrics
