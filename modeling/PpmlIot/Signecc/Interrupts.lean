import Mathlib.Logic.Function.Basic
import Mathlib.Data.Nat.Init
import PpmlIot.Library.Runs

/-!
# Radio interrupts

The radios' interrupts reach the receiver thread as messages.  The thread initialises no message
queue, so a message arrives only while the thread is blocked in `msg_receive`; an interrupt raised
at any other time is lost unless a message that makes the thread service the same radio is already
on its way.  The steps below interleave start-up, the thread and interrupts of any number of radios.
-/

namespace PpmlIot.Signecc

open Library

inductive Thread (n : Nat)
  | ready
  | blocked
  /-- Woken by a message for a device whose `isr` has not started. -/
  | woken (dev : Fin n)
  /-- Inside the `isr` of a device, which may run `recv`. -/
  | servicing (dev : Fin n)
  deriving DecidableEq

inductive Phase (n : Nat)
  /-- The devices below `next` are initialised. -/
  | initializing (next : Nat) (le : next ≤ n)
  /-- The thread exists and `_recv_pid` is not yet assigned. -/
  | created (thread : Thread n)
  /-- `_recv_pid` is assigned and the shell runs. -/
  | running (thread : Thread n)
  /-- The thread could not be created and `main` has returned. -/
  | failed
  deriving DecidableEq

structure RadioState (n : Nat) where
  phase : Phase n
  /-- The devices whose interrupt was raised and not yet serviced. -/
  pending : Fin n → Bool

variable {n : Nat}

def Phase.initialised (dev : Fin n) : Phase n → Prop
  | .initializing next _ => dev < next
  | _ => True

/-- `msg_send` from an interrupt: the value returned and the phase afterwards. -/
def msgSend (dev : Fin n) : Phase n → Int × Phase n
  | .running .blocked => (1, .running (.woken dev))
  | .running thread => (0, .running thread)
  | phase => (-1, phase)

/-- `_event_cb` for `NETDEV_EVENT_ISR`, raised by a device. -/
def eventCb (dev : Fin n) (state : RadioState n) : RadioState n where
  phase := (msgSend dev state.phase).2
  pending := Function.update state.pending dev true

def eventCbText (dev : Fin n) (state : RadioState n) : String :=
  if (msgSend dev state.phase).1 ≤ 0 then "gnrc_netdev: possibly lost interrupt.\n" else ""

/-- Change the thread, before or after `_recv_pid` is assigned. -/
def Phase.setThread (thread : Thread n) : Phase n → Phase n
  | .created _ => .created thread
  | .running _ => .running thread
  | phase => phase

def Phase.thread? : Phase n → Option (Thread n)
  | .created thread => some thread
  | .running thread => some thread
  | _ => none

@[simp]
theorem Phase.thread?_setThread (thread : Thread n) (phase : Phase n) :
    (phase.setThread thread).thread? = phase.thread?.map fun _ => thread := by
  cases phase <;> rfl

inductive Label (n : Nat)
  | interrupt (dev : Fin n)
  | init
  | threadCreate
  | threadCreateFails
  | assignPid
  | msgReceive
  | isr
  | recv
  | isrReturns

/-- One step of `main`, of the thread or of a radio. -/
inductive Step : Label n → RadioState n → RadioState n → Prop
  | interrupt {state : RadioState n} (dev : Fin n) (initialised : state.phase.initialised dev) :
      Step (.interrupt dev) state (eventCb dev state)
  | init {next : Nat} {le : next ≤ n} {pending : Fin n → Bool} (lt : next < n) :
      Step .init ⟨.initializing next le, pending⟩ ⟨.initializing (next + 1) lt, pending⟩
  | threadCreate {pending : Fin n → Bool} :
      Step .threadCreate ⟨.initializing n (Nat.le_refl n), pending⟩ ⟨.created .ready, pending⟩
  | threadCreateFails {pending : Fin n → Bool} :
      Step .threadCreateFails ⟨.initializing n (Nat.le_refl n), pending⟩ ⟨.failed, pending⟩
  | assignPid {thread : Thread n} {pending : Fin n → Bool} :
      Step .assignPid ⟨.created thread, pending⟩ ⟨.running thread, pending⟩
  | msgReceive {state : RadioState n} (ready : state.phase.thread? = some .ready) :
      Step .msgReceive state { state with phase := state.phase.setThread .blocked }
  -- the `isr` reads the interrupt status when it starts
  | isr {state : RadioState n} {dev : Fin n} (woken : state.phase.thread? = some (.woken dev)) :
      Step .isr state
        { phase := state.phase.setThread (.servicing dev)
          pending := Function.update state.pending dev false }
  | recv {state : RadioState n} {dev : Fin n}
      (servicing : state.phase.thread? = some (.servicing dev)) : Step .recv state state
  | isrReturns {state : RadioState n} {dev : Fin n}
      (servicing : state.phase.thread? = some (.servicing dev)) :
      Step .isrReturns state { state with phase := state.phase.setThread .ready }

def resetState (n : Nat) : RadioState n where
  phase := .initializing 0 (Nat.zero_le n)
  pending _ := false

/-- An interrupt waits for service while the thread is blocked with no message on its way. -/
def Lost (state : RadioState n) : Prop :=
  (∃ dev, state.pending dev = true) ∧ state.phase.thread? = some .blocked

/-- An interrupt is raised while the thread can receive its message, or while a message for the same
device is on its way. -/
def Timely (state : RadioState n) : Label n → Prop
  | .interrupt dev => state.phase = .running .blocked ∨ state.phase = .running (.woken dev)
  | _ => True

def TimelyStep (before after : RadioState n) : Prop :=
  ∃ label, Step label before after ∧ Timely before label

def AnyStep (before after : RadioState n) : Prop :=
  ∃ label, Step label before after

theorem TimelyStep.anyStep {before after : RadioState n} :
    TimelyStep before after → AnyStep before after := by
  rintro ⟨label, step, _⟩
  exact ⟨label, step⟩

/-- A pending interrupt is one whose message has just woken the thread. -/
def PendingWoken (state : RadioState n) : Prop :=
  ∀ dev, state.pending dev = true → state.phase = .running (.woken dev)

theorem not_lost_of_pendingWoken {state : RadioState n} (invariant : PendingWoken state) :
    ¬ Lost state := by
  rintro ⟨⟨dev, pending⟩, blocked⟩
  rw [invariant dev pending, Phase.thread?] at blocked
  cases blocked

/-- Timely steps keep every pending interrupt on its way. -/
theorem pendingWoken_step {label : Label n} {before after : RadioState n}
    (step : Step label before after) (timely : Timely before label)
    (invariant : PendingWoken before) : PendingWoken after := by
  cases step with
  | interrupt dev initialised =>
      intro other pending
      rcases timely with blocked | woken
      · by_cases same : other = dev
        · rw [eventCb, blocked, same, msgSend]
        · have earlier : before.pending other = true := by
            simpa [eventCb, same] using pending
          have phase := invariant other earlier
          rw [blocked] at phase
          cases phase
      · have phase : (eventCb dev before).phase = .running (.woken dev) := by
          rw [eventCb, woken, msgSend]
          simp
        by_cases same : other = dev
        · rw [phase, same]
        · have earlier : before.pending other = true := by
            simpa [eventCb, same] using pending
          have other_phase := invariant other earlier
          rw [woken] at other_phase
          rw [phase, other_phase]
  | init lt =>
      intro other pending
      cases invariant other pending
  | threadCreate =>
      intro other pending
      cases invariant other pending
  | threadCreateFails =>
      intro other pending
      cases invariant other pending
  | assignPid =>
      intro other pending
      cases invariant other pending
  | msgReceive ready =>
      intro other pending
      rw [invariant other pending, Phase.thread?] at ready
      cases ready
  | @isr _ dev woken =>
      intro other pending
      by_cases same : other = dev
      · simp [same] at pending
      · have earlier : before.pending other = true := by
          simpa [same] using pending
        rw [invariant other earlier, Phase.thread?] at woken
        cases woken
        exact absurd rfl same
  | recv servicing => exact invariant
  | isrReturns servicing =>
      intro other pending
      rw [invariant other pending, Phase.thread?] at servicing
      cases servicing

theorem not_lost_of_timely {state : RadioState n}
    (run : Relation.ReflTransGen TimelyStep (resetState n) state) : ¬ Lost state := by
  apply not_lost_of_pendingWoken
  refine invariant_of_reachable ?_ ?_ run
  · rintro before after ⟨label, step, timely⟩ invariant
    exact pendingWoken_step step timely invariant
  · intro dev pending
    cases pending

/-- Before `_recv_pid` is assigned no message reaches the thread. -/
def CreatedIdle (state : RadioState n) : Prop :=
  ∀ thread, state.phase = .created thread → thread = .ready ∨ thread = .blocked

/-- Every step keeps the thread idle until `_recv_pid` is assigned. -/
theorem createdIdle_step {before after : RadioState n} (step : AnyStep before after)
    (invariant : CreatedIdle before) : CreatedIdle after := by
  obtain ⟨label, step⟩ := step
  cases step with
  | interrupt dev initialised =>
      intro thread phase
      apply invariant
      cases before_phase : before.phase with
      | running other => cases other <;> simp [eventCb, before_phase, msgSend] at phase
      | initializing next le => simp [eventCb, before_phase, msgSend] at phase
      | created other => simpa [eventCb, before_phase, msgSend] using phase
      | failed => simp [eventCb, before_phase, msgSend] at phase
  | init lt =>
      intro thread phase
      cases phase
  | threadCreate =>
      intro thread phase
      cases phase
      exact .inl rfl
  | threadCreateFails =>
      intro thread phase
      cases phase
  | assignPid =>
      intro thread phase
      cases phase
  | msgReceive ready =>
      intro thread phase
      cases before_phase : before.phase <;> simp [before_phase, Phase.setThread] at phase
      exact .inr phase.symm
  | @isr _ dev woken =>
      intro thread phase
      cases before_phase : before.phase with
      | created other =>
          rw [before_phase] at woken
          cases woken
          rcases invariant _ before_phase with same | same <;> cases same
      | running other => simp [before_phase, Phase.setThread] at phase
      | initializing next le => simp [before_phase, Phase.setThread] at phase
      | failed => simp [before_phase, Phase.setThread] at phase
  | recv servicing => exact invariant
  | @isrReturns _ dev servicing =>
      intro thread phase
      cases before_phase : before.phase <;> simp [before_phase, Phase.setThread] at phase
      exact .inl phase.symm

def CanLose (state : RadioState n) : Prop :=
  ∃ final, Relation.ReflTransGen AnyStep state final ∧ Lost final

theorem CanLose.of_step {label : Label n} {before after : RadioState n}
    (step : Step label before after) (later : CanLose after) : CanLose before := by
  obtain ⟨final, run, lost⟩ := later
  exact ⟨final, run.head ⟨label, step⟩, lost⟩

theorem canLose_of_ready {state : RadioState n} {dev : Fin n} (pending : state.pending dev = true)
    (ready : state.phase.thread? = some .ready) : CanLose state := by
  refine .of_step (.msgReceive ready) ⟨_, .refl, ⟨dev, pending⟩, ?_⟩
  simp [ready]

theorem canLose_of_servicing {state : RadioState n} {dev other : Fin n}
    (pending : state.pending dev = true)
    (servicing : state.phase.thread? = some (.servicing other)) : CanLose state := by
  refine .of_step (.isrReturns servicing) (canLose_of_ready pending ?_)
  simp [servicing]

theorem canLose_of_woken_other {state : RadioState n} {dev other : Fin n}
    (pending : state.pending dev = true) (different : dev ≠ other)
    (woken : state.phase.thread? = some (.woken other)) : CanLose state := by
  have still_pending : Function.update state.pending other false dev = true := by
    rwa [Function.update_of_ne different]
  have servicing :
      (state.phase.setThread (.servicing other)).thread? = some (.servicing other) := by
    rw [Phase.thread?_setThread, woken, Option.map_some]
  exact .of_step (.isr woken) (canLose_of_servicing still_pending servicing)

/-- Start-up completes with every interrupt raised in it still pending. -/
theorem canLose_of_initializing {next : Nat} (le : next ≤ n) {pending : Fin n → Bool} {dev : Fin n}
    (raised : pending dev = true) : CanLose ⟨.initializing next le, pending⟩ := by
  induction le using Nat.decreasingInduction with
  | self => exact .of_step .threadCreate (canLose_of_ready raised rfl)
  | of_succ next lt induction => exact .of_step (.init lt) induction

/-- A pending interrupt of a device whose `isr` is not on its way can be lost. -/
theorem canLose_of_stranded {state : RadioState n} {dev : Fin n}
    (pending : state.pending dev = true) (idle : CreatedIdle state)
    (alive : state.phase ≠ .failed) (stranded : state.phase ≠ .running (.woken dev)) :
    CanLose state := by
  cases phase : state.phase with
  | initializing next le =>
      obtain ⟨_, _⟩ := state
      cases phase
      exact canLose_of_initializing le pending
  | created thread =>
      rcases idle thread phase with rfl | rfl
      · exact canLose_of_ready pending (by rw [phase, Phase.thread?])
      · exact ⟨state, .refl, ⟨dev, pending⟩, by rw [phase, Phase.thread?]⟩
  | running thread =>
      have thread_eq : state.phase.thread? = some thread := by rw [phase, Phase.thread?]
      cases thread with
      | ready => exact canLose_of_ready pending thread_eq
      | blocked => exact ⟨state, .refl, ⟨dev, pending⟩, thread_eq⟩
      | servicing other => exact canLose_of_servicing pending thread_eq
      | woken other =>
          refine canLose_of_woken_other pending ?_ thread_eq
          rintro rfl
          exact stranded phase
  | failed => exact absurd phase alive

/-- The message of an untimely interrupt is not delivered and leaves the thread as it is. -/
theorem msgSend_of_untimely {state : RadioState n} {dev : Fin n}
    (untimely : ¬ Timely state (.interrupt dev)) :
    (msgSend dev state.phase).1 ≤ 0 ∧ (msgSend dev state.phase).2 = state.phase := by
  rw [Timely, not_or] at untimely
  cases phase : state.phase with
  | running thread =>
      cases thread with
      | blocked => exact absurd phase untimely.1
      | ready => exact ⟨Int.le_refl 0, rfl⟩
      | woken other => exact ⟨Int.le_refl 0, rfl⟩
      | servicing other => exact ⟨Int.le_refl 0, rfl⟩
  | initializing next le => exact ⟨Int.neg_nonpos_of_nonneg Int.one_nonneg, rfl⟩
  | created thread => exact ⟨Int.neg_nonpos_of_nonneg Int.one_nonneg, rfl⟩
  | failed => exact ⟨Int.neg_nonpos_of_nonneg Int.one_nonneg, rfl⟩

/-- An untimely interrupt is announced as possibly lost. -/
theorem eventCbText_of_untimely {state : RadioState n} {dev : Fin n}
    (untimely : ¬ Timely state (.interrupt dev)) :
    eventCbText dev state = "gnrc_netdev: possibly lost interrupt.\n" := by
  rw [eventCbText, if_pos (msgSend_of_untimely untimely).1]

/-- After an untimely interrupt some continuation of the run loses it. -/
theorem canLose_of_untimely {before after : RadioState n} {dev : Fin n}
    (idle : CreatedIdle before) (step : Step (.interrupt dev) before after)
    (untimely : ¬ Timely before (.interrupt dev)) (alive : before.phase ≠ .failed) :
    CanLose after := by
  have after_idle := createdIdle_step ⟨_, step⟩ idle
  cases step with
  | interrupt _ initialised =>
      have phase : (eventCb dev before).phase = before.phase := (msgSend_of_untimely untimely).2
      have pending : (eventCb dev before).pending dev = true := Function.update_self ..
      refine canLose_of_stranded pending after_idle ?_ ?_
      · rwa [phase]
      · rw [phase]
        exact fun woken => untimely (.inr woken)

/-- As long as every interrupt is timely no interrupt is lost, for any number of radios, and the
first untimely one can be lost unless the receiver thread could not be created. -/
theorem timely_interrupts_kept (n : Nat) :
    (∀ state : RadioState n, Relation.ReflTransGen TimelyStep (resetState n) state →
      ¬ Lost state) ∧
    ∀ (before after : RadioState n) (dev : Fin n),
      Relation.ReflTransGen TimelyStep (resetState n) before →
      Step (.interrupt dev) before after → ¬ Timely before (.interrupt dev) →
      before.phase ≠ .failed →
      ∃ state, Relation.ReflTransGen AnyStep after state ∧ Lost state := by
  refine ⟨fun state run => not_lost_of_timely run, ?_⟩
  intro before after dev run step untimely alive
  refine canLose_of_untimely ?_ step untimely alive
  refine invariant_of_reachable ?_ ?_ run
  · intro earlier later timely_step
    exact createdIdle_step timely_step.anyStep
  · intro thread phase
    cases phase

/-- The reply that `recv` sends from inside the `isr` ends with an interrupt of the same radio; its
message finds the thread busy, and the thread then waits for good. -/
theorem own_reply_interrupt_lost :
    ¬ ∀ state : RadioState 1, Relation.ReflTransGen AnyStep (resetState 1) state →
      ¬ Lost state := by
  intro never_lost
  have started : CanLose (⟨.running .blocked, fun _ => false⟩ : RadioState 1) := by
    refine .of_step (.interrupt 0 trivial) ?_
    refine .of_step (@Step.isr _ _ 0 rfl) ?_
    refine .of_step (@Step.recv _ _ 0 rfl) ?_
    refine .of_step (.interrupt 0 trivial) ?_
    exact @canLose_of_servicing _ _ 0 0 rfl rfl
  have reset : CanLose (resetState 1) := by
    refine .of_step (.init Nat.one_pos) ?_
    refine .of_step .threadCreate ?_
    refine .of_step (.msgReceive rfl) ?_
    exact .of_step .assignPid started
  obtain ⟨state, run, lost⟩ := reset
  exact never_lost state run lost

end PpmlIot.Signecc
