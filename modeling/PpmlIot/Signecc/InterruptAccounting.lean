import PpmlIot.Signecc.Interrupts

/-!
# An account of the interrupts

A ledger beside a run counts, for each radio, the interrupts raised, those announced as possibly
lost and the times the radio was serviced.  Every interrupt is announced, or is followed by one
service of its own; so no interrupt is lost in silence, and no radio is serviced without cause.
-/

namespace PpmlIot.Signecc

open Library

variable {n : Nat}

/-- What was counted for each device. -/
structure Ledger (n : Nat) where
  raised : Fin n → Nat
  announced : Fin n → Nat
  serviced : Fin n → Nat
  /-- The interrupts announced since the last service. -/
  missed : Fin n → Nat

namespace Ledger

def blank (n : Nat) : Ledger n :=
  ⟨fun _ => 0, fun _ => 0, fun _ => 0, fun _ => 0⟩

def bump (count : Fin n → Nat) (dev : Fin n) : Fin n → Nat :=
  Function.update count dev (count dev + 1)

/-- An interrupt for which this text is printed. -/
def interrupt (ledger : Ledger n) (dev : Fin n) (text : String) : Ledger n :=
  if text = "" then
    { ledger with raised := bump ledger.raised dev }
  else
    { ledger with
      raised := bump ledger.raised dev
      announced := bump ledger.announced dev
      missed := bump ledger.missed dev }

def service (ledger : Ledger n) (dev : Fin n) : Ledger n :=
  { ledger with
    serviced := bump ledger.serviced dev
    missed := Function.update ledger.missed dev 0 }

/-- Count a step taken in a state. -/
def record (ledger : Ledger n) (state : RadioState n) : Label n → Ledger n
  | .interrupt dev => ledger.interrupt dev (eventCbText dev state)
  | .isr =>
      match state.phase.thread? with
      | some (.woken dev) => ledger.service dev
      | _ => ledger
  | _ => ledger

end Ledger

/-- A step of the node, counted. -/
def CountedStep (before after : RadioState n × Ledger n) : Prop :=
  ∃ label, Step label before.1 after.1 ∧ after.2 = before.2.record before.1 label

/-- The messages for a device that are on their way: at most one. -/
def onTheWay (dev : Fin n) (state : RadioState n) : Nat :=
  if state.phase.thread? = some (.woken dev) then 1 else 0

/-- Every interrupt is announced, serviced or on its way, and a pending one is on its way or was
announced since the last service. -/
structure Balanced (state : RadioState n) (ledger : Ledger n) : Prop where
  total : ∀ dev, ledger.raised dev =
    ledger.announced dev + ledger.serviced dev + onTheWay dev state
  pending_iff : ∀ dev, state.pending dev = true ↔
    state.phase.thread? = some (.woken dev) ∨ 0 < ledger.missed dev
  missed_le : ∀ dev, ledger.missed dev ≤ ledger.announced dev

theorem Ledger.bump_apply (count : Fin n → Nat) (dev other : Fin n) :
    Ledger.bump count dev other = count other + if other = dev then 1 else 0 := by
  by_cases same : other = dev
  · simp [Ledger.bump, same]
  · simp [Ledger.bump, same]

/-- A message is delivered to a blocked thread only, and is not announced then. -/
theorem eventCb_cases (dev : Fin n) (state : RadioState n) :
    (state.phase = .running .blocked ∧ eventCbText dev state = "" ∧
        (eventCb dev state).phase = .running (.woken dev)) ∨
      eventCbText dev state ≠ "" ∧ (eventCb dev state).phase = state.phase := by
  cases phase : state.phase with
  | running thread => cases thread <;> simp [eventCbText, eventCb, phase, msgSend]
  | initializing next le => simp [eventCbText, eventCb, phase, msgSend]
  | created thread => simp [eventCbText, eventCb, phase, msgSend]
  | failed => simp [eventCbText, eventCb, phase, msgSend]

theorem Balanced.interrupt {state : RadioState n} {ledger : Ledger n}
    (balanced : Balanced state ledger) (dev : Fin n) :
    Balanced (eventCb dev state) (ledger.interrupt dev (eventCbText dev state)) := by
  have pending (other : Fin n) : (eventCb dev state).pending other = true ↔
      other = dev ∨ state.pending other = true := by
    by_cases same : other = dev
    · simp [eventCb, same]
    · simp [eventCb, same]
  rcases eventCb_cases dev state with ⟨blocked, quiet, woken⟩ | ⟨announced, kept⟩
  · have before (other : Fin n) : onTheWay other state = 0 := by
      simp [onTheWay, blocked, Phase.thread?]
    have after (other : Fin n) : onTheWay other (eventCb dev state) =
        if other = dev then 1 else 0 := by
      simp [onTheWay, woken, Phase.thread?, eq_comm]
    rw [Ledger.interrupt, if_pos quiet]
    constructor
    · intro other
      have total := balanced.total other
      rw [before] at total
      dsimp only
      rw [after, Ledger.bump_apply, total, Nat.add_zero]
    · intro other
      have earlier := balanced.pending_iff other
      rw [pending, earlier, blocked, woken, Phase.thread?, Phase.thread?]
      simp [eq_comm]
    · exact balanced.missed_le
  · have way (other : Fin n) : onTheWay other (eventCb dev state) = onTheWay other state := by
      rw [onTheWay, onTheWay, kept]
    rw [Ledger.interrupt, if_neg announced]
    constructor
    · intro other
      dsimp only
      rw [way, Ledger.bump_apply, Ledger.bump_apply, balanced.total other]
      omega
    · intro other
      dsimp only
      rw [pending, kept, Ledger.bump_apply, balanced.pending_iff other]
      by_cases same : other = dev
      · simp [same]
      · simp [same]
    · intro other
      dsimp only
      rw [Ledger.bump_apply, Ledger.bump_apply]
      have := balanced.missed_le other
      omega

theorem Balanced.isr {state : RadioState n} {ledger : Ledger n} (balanced : Balanced state ledger)
    {dev : Fin n} (woken : state.phase.thread? = some (.woken dev)) :
    Balanced
      { phase := state.phase.setThread (.servicing dev)
        pending := Function.update state.pending dev false }
      (ledger.service dev) := by
  have before (other : Fin n) : onTheWay other state = if other = dev then 1 else 0 := by
    simp [onTheWay, woken, eq_comm]
  have servicing : (state.phase.setThread (.servicing dev)).thread? = some (.servicing dev) := by
    rw [Phase.thread?_setThread, woken, Option.map_some]
  constructor
  · intro other
    have total := balanced.total other
    rw [before] at total
    simp only [Ledger.service, onTheWay, servicing, Ledger.bump_apply, total]
    simp
    omega
  · intro other
    have earlier := balanced.pending_iff other
    rw [woken] at earlier
    by_cases same : other = dev
    · simp [Ledger.service, servicing, same]
    · simp [Ledger.service, servicing, same, earlier, Ne.symm same]
  · intro other
    have earlier := balanced.missed_le other
    by_cases same : other = dev
    · simp [Ledger.service, same]
    · simpa [Ledger.service, same] using earlier

/-- A step that leaves the pending interrupts and the messages as they are needs no entry. -/
theorem Balanced.of_same {before after : RadioState n} {ledger : Ledger n}
    (balanced : Balanced before ledger) (pending : after.pending = before.pending)
    (woken : ∀ dev, after.phase.thread? = some (.woken dev) ↔
      before.phase.thread? = some (.woken dev)) : Balanced after ledger where
  total dev := by
    have way : onTheWay dev after = onTheWay dev before := if_congr (woken dev) rfl rfl
    rw [way]
    exact balanced.total dev
  pending_iff dev := by
    rw [pending, woken]
    exact balanced.pending_iff dev
  missed_le := balanced.missed_le

/-- Every step of the counted node keeps the account balanced. -/
theorem balanced_step {before after : RadioState n × Ledger n} (step : CountedStep before after)
    (balanced : Balanced before.1 before.2) : Balanced after.1 after.2 := by
  obtain ⟨label, step, entry⟩ := step
  obtain ⟨state, ledger⟩ := before
  obtain ⟨later, ledger'⟩ := after
  dsimp only at step entry balanced ⊢
  rw [entry]
  cases step with
  | interrupt dev initialised => exact balanced.interrupt dev
  | @isr _ dev woken =>
      rw [Ledger.record, woken]
      exact balanced.isr woken
  | init lt => exact balanced.of_same rfl fun _ => Iff.rfl
  | threadCreate => exact balanced.of_same rfl fun _ => by simp [Phase.thread?]
  | threadCreateFails => exact balanced.of_same rfl fun _ => Iff.rfl
  | assignPid => exact balanced.of_same rfl fun _ => Iff.rfl
  | msgReceive ready => exact balanced.of_same rfl fun _ => by simp [ready]
  | recv servicing => exact balanced
  | isrReturns servicing => exact balanced.of_same rfl fun _ => by simp [servicing]

theorem balanced_reset : Balanced (resetState n) (Ledger.blank n) where
  total _ := rfl
  pending_iff dev := by simp [resetState, Ledger.blank, Phase.thread?]
  missed_le _ := Nat.le_refl 0

/-- In every run, each interrupt of a radio was announced as possibly lost, or was followed by one
service of the radio, or is the one whose message is on its way; and an interrupt that is lost was
announced since the radio was last serviced. -/
theorem interrupts_accounted (n : Nat) {state : RadioState n} {ledger : Ledger n}
    (run : Relation.ReflTransGen CountedStep (resetState n, Ledger.blank n) (state, ledger)) :
    (∀ dev, ledger.raised dev =
        ledger.announced dev + ledger.serviced dev + onTheWay dev state) ∧
      ∀ dev, state.pending dev = true → state.phase.thread? = some .blocked →
        0 < ledger.missed dev ∧ ledger.missed dev ≤ ledger.announced dev := by
  have balanced : Balanced state ledger :=
    @invariant_of_reachable _ _ (fun world => Balanced world.1 world.2)
      (fun _ _ => balanced_step) _ _ balanced_reset run
  refine ⟨balanced.total, ?_⟩
  intro dev pending blocked
  have cause := (balanced.pending_iff dev).mp pending
  rw [blocked] at cause
  refine ⟨?_, balanced.missed_le dev⟩
  simpa using cause

theorem CountedStep.of_step {label : Label n} {before after : RadioState n}
    (step : Step label before after) (ledger : Ledger n) :
    CountedStep (before, ledger) (after, ledger.record before label) :=
  ⟨label, step, rfl⟩

/-- One radio raises an interrupt before the thread waits, which is announced, and one after. -/
theorem two_interrupts_accounted :
    ∃ (state : RadioState 1) (ledger : Ledger 1),
      ledger.raised 0 = ledger.announced 0 + ledger.serviced 0 + onTheWay 0 state ∧
        ledger.raised 0 = 2 ∧ ledger.announced 0 = 1 := by
  have start : Relation.ReflTransGen CountedStep (resetState 1, Ledger.blank 1) _ :=
    .single (.of_step (.init Nat.one_pos) _)
  have early := start.tail (.of_step (.interrupt 0 (by exact Nat.one_pos)) _)
  have created := early.tail (.of_step .threadCreate _)
  have blocked := created.tail (.of_step (.msgReceive rfl) _)
  have running := blocked.tail (.of_step .assignPid _)
  have late := running.tail (.of_step (.interrupt 0 (by exact trivial)) _)
  exact ⟨_, _, (interrupts_accounted 1 late).1 0, rfl, rfl⟩

end PpmlIot.Signecc
