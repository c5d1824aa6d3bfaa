import InjectionPlan.Host

/-! # Settings of a pass

    A pass needs to know the host, whether to warn of a contract that was chosen
    among several, and whether to spread the work over several workers.
-/

namespace InjectionPlan

/-- The settings of a pass. -/
structure Settings where
  /-- The framework to plan for. -/
  host : Host
  /-- Whether to warn of a contract chosen among several interfaces. -/
  warnsOnAmbiguity : Bool
  /-- Whether several workers share the types. -/
  parallel : Bool
deriving DecidableEq, Repr

namespace Settings

/-- The settings for a host, without warnings and with one worker. -/
def forHost (h : Host) : Settings := ⟨h, false, false⟩

/-- The settings to start from. -/
def default : Settings := forHost .microsoft

/-- One choice on the way to the wanted settings. -/
inductive Choice
  /-- Plan for this host. -/
  | host (h : Host)
  /-- Warn of contracts chosen among several. -/
  | warnOnAmbiguity
  /-- Spread the work. -/
  | parallel
deriving Repr

/-- The settings after a choice. -/
def choose (s : Settings) : Choice → Settings
  | .host h => { s with host := h }
  | .warnOnAmbiguity => { s with warnsOnAmbiguity := true }
  | .parallel => { s with parallel := true }

end Settings

end InjectionPlan
