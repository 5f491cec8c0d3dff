import CsiDsp.BufUpdate
import CsiDsp.Firmware

set_option autoImplicit false

namespace CsiDsp

open KeyedWrites

def Reply.failed : Reply → Bool
  | .status .ok | .created _ => false
  | .status _ | .failure => true

-- The driver of an ISP after a configuration it has refused.
def rejectedHandler (id : Nat) : SispHandler := { zeroHandler id with status := .parmaInvalid }

def GeometryRejected (config : SispConfigPar) : Prop :=
  ispcBaseInfoUpdate zeroControlInfo config = some (zeroControlInfo, .parmaInvalid)

def VipreRejected (config : VipreConfigPar) : Prop := (vipreConfigure config).map Prod.snd = some false

section Parts

variable (pri : Nat) (dsp middle next : Dsp)

end Parts

section Kept

variable (param : Nat) (heap middle next : Heap)

theorem free_in_contents (dsp : Dsp) (blocks : List (Option Nat)) :
    (blocks.foldl freeInDsp dsp).heap = { dsp.heap with live := (blocks.foldl freeInDsp dsp).heap.live } := by
  induction blocks generalizing dsp with
  | nil => rfl
  | cons block rest ih =>
      rw [List.foldl_cons, ih]
      cases block <;> rfl

end Kept

section Algo

variable (pri : Nat) (dsp next : Dsp) (param : Nat) (message : AlgoConfigPar) (env : AlgoEnv) (reply : Reply)

end Algo

section Drivers

variable (pri : Nat) (dsp next : Dsp) (accepted : Bool)

theorem geometry_answer (config : SispConfigPar) (base : SispControlInfo) (ret : EhwErrorCode)
    (done : ispcBaseInfoUpdate zeroControlInfo config = some (base, ret)) :
    ret = .ok ∧ ¬ GeometryRejected config ∨ ret = .parmaInvalid ∧ base = zeroControlInfo ∧ GeometryRejected config := by
  rw [GeometryRejected, done]
  rw [ispcBaseInfoUpdate] at done
  split at done
  · cases done
    exact .inr ⟨rfl, rfl, rfl⟩
  · split at done
    · cases done
    · split at done
      · cases done
        exact .inr ⟨rfl, rfl, rfl⟩
      · split at done
        · cases done
        · cases done
          exact .inl ⟨rfl, by simp⟩

theorem isp_config_reply (config : SispConfigPar) (done : psIspConfigMessageHandler dsp pri config = some (next, accepted)) :
    accepted = true ∧ ¬ GeometryRejected config ∨ accepted = false ∧ maxIsp < config.id.toNat ∧ next = dsp ∨
      accepted = false ∧ config.id.toNat ≤ maxIsp ∧ GeometryRejected config ∧
        next = { dsp with isp := rejectedHandler config.id.toNat } := by
  simp only [psIspConfigMessageHandler, ispInitialize] at done
  by_cases high : config.id.toNat > maxIsp
  · simp only [if_pos high] at done
    cases done
    exact .inr (.inl ⟨rfl, high, rfl⟩)
  · simp only [if_neg high, Bool.true_eq_false, if_false] at done
    obtain ⟨⟨handler, ret⟩, configured, rest⟩ := Option.bind_eq_some_iff.mp done
    obtain ⟨⟨base, answer⟩, updated, last⟩ := Option.bind_eq_some_iff.mp configured
    rcases geometry_answer config base answer updated with ⟨rfl, fine⟩ | ⟨rfl, rfl, rejected⟩
    · cases last
      cases rest
      exact .inl ⟨rfl, fine⟩
    · cases last
      cases rest
      exact .inr (.inr ⟨rfl, Nat.le_of_not_lt high, rejected, rfl⟩)

end Drivers

section Handlers

variable (dsp next : Dsp) (id pri : Nat) (found : dspSearchTaskById dsp id = some pri) (reply : Reply)

include found

end Handlers

section Whole

variable (state next : NsDsp) (memory : Option (Nat → XrpCmdNs)) (reply : Reply)

end Whole

end CsiDsp
