import Mathlib.Data.Finset.Prod
import Mathlib.Data.Fintype.Card
import PpmlIot.Library.Runs

/-!
# Parties over a medium

Parties that react to events and transmit over a shared medium.  The medium keeps every message
ever transmitted, in order, and any of them may arrive at any party: late, out of order, more than
once or never.  Two rules turn facts about one reaction into facts about every run: one traces each
message back to earlier ones, the other bounds the traffic when responses are not responded to.
-/

namespace Library

/-- The states of all parties, and everything transmitted so far in order. -/
structure World (Party State Message : Type*) where
  states : Party → State
  air : List Message

/-- An event at a party.  The source is the place in the air of the message that arrives with it;
an event without a source happens by itself. -/
structure Occurrence (Party Event : Type*) where
  party : Party
  event : Event
  source : Option Nat

structure Protocol (Party State Event Message : Type*) where
  /-- The state after an event, and the messages transmitted at it. -/
  react : Party → State → Event → State × List Message
  /-- The event is the arrival of the message. -/
  arrives : Event → Message → Prop
  /-- The event may happen by itself. -/
  spontaneous : Event → Prop

namespace Protocol

variable {Party State Event Message : Type*}

def reaction (protocol : Protocol Party State Event Message) (world : World Party State Message)
    (occurrence : Occurrence Party Event) : State × List Message :=
  protocol.react occurrence.party (world.states occurrence.party) occurrence.event

def next [DecidableEq Party] (protocol : Protocol Party State Event Message)
    (world : World Party State Message) (occurrence : Occurrence Party Event) :
    World Party State Message where
  states := Function.update world.states occurrence.party (protocol.reaction world occurrence).1
  air := world.air ++ (protocol.reaction world occurrence).2

@[simp]
theorem air_next [DecidableEq Party] (protocol : Protocol Party State Event Message)
    (world : World Party State Message) (occurrence : Occurrence Party Event) :
    (protocol.next world occurrence).air =
      world.air ++ (protocol.reaction world occurrence).2 := rfl

/-- Only what lies in the air arrives. -/
def Possible (protocol : Protocol Party State Event Message) (world : World Party State Message)
    (occurrence : Occurrence Party Event) : Prop :=
  match occurrence.source with
  | none => protocol.spontaneous occurrence.event
  | some index =>
      ∃ message, world.air[index]? = some message ∧ protocol.arrives occurrence.event message

theorem Possible.arrives {protocol : Protocol Party State Event Message}
    {world : World Party State Message} {occurrence : Occurrence Party Event}
    (possible : protocol.Possible world occurrence) {index : Nat}
    (source : occurrence.source = some index) :
    ∃ message, world.air[index]? = some message ∧ protocol.arrives occurrence.event message := by
  rwa [Possible, source] at possible

theorem Possible.spontaneous {protocol : Protocol Party State Event Message}
    {world : World Party State Message} {occurrence : Occurrence Party Event}
    (possible : protocol.Possible world occurrence) (source : occurrence.source = none) :
    protocol.spontaneous occurrence.event := by
  rwa [Possible, source] at possible

theorem Possible.spontaneous_or_arrives {protocol : Protocol Party State Event Message}
    {world : World Party State Message} {occurrence : Occurrence Party Event}
    (possible : protocol.Possible world occurrence) :
    protocol.spontaneous occurrence.event ∨
      ∃ message ∈ world.air, protocol.arrives occurrence.event message := by
  cases source : occurrence.source with
  | none => exact .inl (possible.spontaneous source)
  | some index =>
      obtain ⟨message, found, arrives⟩ := possible.arrives source
      exact .inr ⟨message, List.mem_of_getElem? found, arrives⟩

variable [DecidableEq Party]

/-- A run in which everything that happens is possible. -/
def Run (protocol : Protocol Party State Event Message) (start : World Party State Message)
    (occurrences : List (Occurrence Party Event)) : Prop :=
  ∀ step ∈ steps protocol.next start occurrences, protocol.Possible step.1 step.2

def after (protocol : Protocol Party State Event Message) (start : World Party State Message)
    (occurrences : List (Occurrence Party Event)) : World Party State Message :=
  occurrences.foldl protocol.next start

variable {protocol : Protocol Party State Event Message} {start : World Party State Message}

@[simp]
theorem after_nil : protocol.after start [] = start := rfl

@[simp]
theorem after_cons (occurrence : Occurrence Party Event)
    (occurrences : List (Occurrence Party Event)) :
    protocol.after start (occurrence :: occurrences) =
      protocol.after (protocol.next start occurrence) occurrences := rfl

theorem air_after_concat (protocol : Protocol Party State Event Message)
    (start : World Party State Message) (occurrences : List (Occurrence Party Event))
    (occurrence : Occurrence Party Event) :
    (protocol.after start (occurrences ++ [occurrence])).air =
      (protocol.after start occurrences).air ++
        (protocol.reaction (protocol.after start occurrences) occurrence).2 := by
  rw [after, List.foldl_concat, air_next, after]

/-- The air only grows. -/
theorem air_prefix (protocol : Protocol Party State Event Message)
    (start : World Party State Message) (occurrences : List (Occurrence Party Event)) :
    start.air <+: (protocol.after start occurrences).air := by
  induction occurrences generalizing start with
  | nil => exact List.prefix_rfl
  | cons occurrence occurrences induction =>
      exact (List.prefix_append start.air _).trans (induction (protocol.next start occurrence))

theorem air_prefix_of_step {occurrences : List (Occurrence Party Event)}
    {step : World Party State Message × Occurrence Party Event}
    (member : step ∈ steps protocol.next start occurrences) :
    step.1.air <+: (protocol.after start occurrences).air := by
  induction occurrences generalizing start with
  | nil => cases member
  | cons occurrence occurrences induction =>
      rw [steps_cons, List.mem_cons] at member
      rcases member with rfl | member
      · exact air_prefix protocol start (occurrence :: occurrences)
      · exact induction member

/-- A message stays at its place. -/
theorem getElem?_air_after (protocol : Protocol Party State Event Message)
    (occurrences : List (Occurrence Party Event)) {index : Nat} {message : Message}
    (found : start.air[index]? = some message) :
    (protocol.after start occurrences).air[index]? = some message := by
  obtain ⟨later, grown⟩ := air_prefix protocol start occurrences
  rw [← grown, List.getElem?_append_left (List.getElem?_eq_some_iff.mp found).1, found]

/-- What is in the air was there from the start or transmitted at a step of the run. -/
theorem mem_air_after {occurrences : List (Occurrence Party Event)} {message : Message}
    (member : message ∈ (protocol.after start occurrences).air) :
    message ∈ start.air ∨ ∃ step ∈ steps protocol.next start occurrences,
      message ∈ (protocol.reaction step.1 step.2).2 := by
  induction occurrences generalizing start with
  | nil => exact .inl member
  | cons occurrence occurrences induction =>
      rw [steps_cons]
      rcases induction member with earlier | ⟨step, step_mem, sent⟩
      · rcases List.mem_append.mp earlier with before | sent
        · exact .inl before
        · exact .inr ⟨_, List.mem_cons_self, sent⟩
      · exact .inr ⟨step, List.mem_cons_of_mem _ step_mem, sent⟩

/-- Each message in the air has a cause in what was transmitted before it. -/
def Justified (cause : List Message → Message → Prop) (air : List Message) : Prop :=
  ∀ front message back, air = front ++ message :: back → cause front message

section Justified

variable {cause : List Message → Message → Prop}

theorem justified_nil : Justified cause [] := by
  intro front message back empty
  exact absurd empty.symm (by simp)

theorem Justified.of_mem {air : List Message} (justified : Justified cause air)
    {message : Message} (member : message ∈ air) :
    ∃ front, front <+: air ∧ cause front message := by
  obtain ⟨front, back, split⟩ := List.append_of_mem member
  exact ⟨front, ⟨message :: back, split.symm⟩, justified front message back split⟩

theorem Justified.append {air more : List Message}
    (grows : ∀ front later message, cause front message → cause (front ++ later) message)
    (justified : Justified cause air) (caused : ∀ message ∈ more, cause air message) :
    Justified cause (air ++ more) := by
  intro front message back split
  rcases List.append_eq_append_iff.mp split with ⟨middle, rfl, rest⟩ | ⟨middle, rfl, rest⟩
  · exact grows air middle message (caused message (by simp [rest]))
  · cases middle with
    | nil =>
        rw [List.append_nil] at caused
        rw [List.nil_append] at rest
        exact caused message (rest ▸ List.mem_cons_self)
    | cons first middle =>
        obtain ⟨rfl, -⟩ := List.cons.inj rest
        exact justified front message middle rfl

end Justified

/-- What one reaction must respect for all messages to be justified: what parties keep and what
causes a message go on holding as the air grows, and a possible reaction keeps the one and respects
the other. -/
structure Traces (protocol : Protocol Party State Event Message)
    (keeps : List Message → State → Prop) (cause : List Message → Message → Prop) : Prop where
  keeps_grows : ∀ air later state, keeps air state → keeps (air ++ later) state
  cause_grows : ∀ air later message, cause air message → cause (air ++ later) message
  reacts : ∀ air party state event, Justified cause air → keeps air state →
    (protocol.spontaneous event ∨ ∃ message ∈ air, protocol.arrives event message) →
      keeps air (protocol.react party state event).1 ∧
        ∀ message ∈ (protocol.react party state event).2, cause air message

/-- What a run keeps about the parties and the air. -/
structure Traced (keeps : List Message → State → Prop) (cause : List Message → Message → Prop)
    (world : World Party State Message) : Prop where
  kept : ∀ party, keeps world.air (world.states party)
  justified : Justified cause world.air

theorem Traces.traced_next {keeps : List Message → State → Prop}
    {cause : List Message → Message → Prop} (traces : protocol.Traces keeps cause)
    {world : World Party State Message} {occurrence : Occurrence Party Event}
    (possible : protocol.Possible world occurrence) (traced : Traced keeps cause world) :
    Traced keeps cause (protocol.next world occurrence) := by
  obtain ⟨kept, caused⟩ := traces.reacts world.air occurrence.party _ occurrence.event
    traced.justified (traced.kept occurrence.party) possible.spontaneous_or_arrives
  constructor
  · intro party
    apply traces.keeps_grows
    by_cases same : party = occurrence.party
    · subst same
      simpa [next, reaction] using kept
    · simpa [next, Function.update_of_ne same] using traced.kept party
  · exact traced.justified.append traces.cause_grows caused

/-- Before each step of a run and at its end every message in the air has its cause before it. -/
theorem Traces.traced_of_run {keeps : List Message → State → Prop}
    {cause : List Message → Message → Prop} (traces : protocol.Traces keeps cause)
    {occurrences : List (Occurrence Party Event)} (initial : Traced keeps cause start)
    (run : protocol.Run start occurrences) :
    (∀ step ∈ steps protocol.next start occurrences, Traced keeps cause step.1) ∧
      Traced keeps cause (protocol.after start occurrences) :=
  invariant_of_possible (fun _ _ possible traced => traces.traced_next possible traced) initial run

/-- What one reaction must respect for traffic to die out: at most one message is transmitted, a
response exactly when a message arrived, and nothing in answer to a response. -/
structure Responsive (protocol : Protocol Party State Event Message) (response : Message → Bool)
    (world : World Party State Message) (occurrence : Occurrence Party Event) : Prop where
  one : (protocol.reaction world occurrence).2.length ≤ 1
  kind : ∀ message ∈ (protocol.reaction world occurrence).2,
    response message = occurrence.source.isSome
  last : ∀ index message, occurrence.source = some index → world.air[index]? = some message →
    response message = true → (protocol.reaction world occurrence).2 = []

/-- The place in the air of a message, and the party it arrives at. -/
def arrival (occurrence : Occurrence Party Event) : Option (Nat × Party) :=
  occurrence.source.map fun index => (index, occurrence.party)

/-- There is a message at this place, and it is no response. -/
def initiates (response : Message → Bool) (air : List Message) (index : Nat) : Bool :=
  air[index]?.any fun message => !response message

theorem countP_initiates (response : Message → Bool) (air : List Message) :
    (List.range air.length).countP (initiates response air) =
      air.countP fun message => !response message := by
  induction air with
  | nil => rfl
  | cons message air induction =>
      rw [List.length_cons, List.range_succ_eq_map, List.countP_cons, List.countP_cons,
        List.countP_map, ← induction]
      rfl

section Responsive

variable {response : Message → Bool}

theorem countP_initiators_le {occurrences : List (Occurrence Party Event)}
    (responsive : ∀ step ∈ steps protocol.next start occurrences,
      protocol.Responsive response step.1 step.2) :
    (protocol.after start occurrences).air.countP (fun message => !response message) ≤
      start.air.countP (fun message => !response message) +
        occurrences.countP fun occurrence => occurrence.source.isNone := by
  induction occurrences generalizing start with
  | nil => simp
  | cons occurrence occurrences induction =>
      rw [steps_cons, List.forall_mem_cons] at responsive
      obtain ⟨here, later⟩ := responsive
      have counted : (protocol.reaction start occurrence).2.countP (fun message =>
          !response message) ≤ if occurrence.source.isNone then 1 else 0 := by
        split
        · exact List.countP_le_length.trans here.one
        · rw [Nat.le_zero, List.countP_eq_zero]
          intro message member
          have kind := here.kind message member
          simp_all
      have rest := induction later
      rw [air_next, List.countP_append] at rest
      rw [after_cons, List.countP_cons]
      omega

/-- Each response is due to an arrival of a message that is none. -/
theorem countP_responses_le {occurrences : List (Occurrence Party Event)}
    (run : protocol.Run start occurrences)
    (responsive : ∀ step ∈ steps protocol.next start occurrences,
      protocol.Responsive response step.1 step.2) :
    let air := (protocol.after start occurrences).air
    air.countP response ≤ start.air.countP response +
      (occurrences.filterMap arrival).countP fun arrived => initiates response air arrived.1 := by
  induction occurrences generalizing start with
  | nil => simp
  | cons occurrence occurrences induction =>
      rw [Run, steps_cons, List.forall_mem_cons] at run
      rw [steps_cons, List.forall_mem_cons] at responsive
      obtain ⟨possible, run⟩ := run
      obtain ⟨here, later⟩ := responsive
      have rest := induction run later
      rw [air_next, List.countP_append] at rest
      rw [after_cons]
      dsimp only at possible rest ⊢
      cases source : occurrence.source with
      | none =>
          have silent : (protocol.reaction start occurrence).2.countP response = 0 := by
            rw [List.countP_eq_zero]
            intro message member
            simp [here.kind message member, source]
          rw [List.filterMap_cons_none (by simp [arrival, source])]
          omega
      | some index =>
          obtain ⟨message, found, -⟩ := possible.arrives source
          rw [List.filterMap_cons_some (b := (index, occurrence.party)) (by simp [arrival, source]),
            List.countP_cons]
          cases answers : response message with
          | true =>
              have silent : (protocol.reaction start occurrence).2 = [] :=
                here.last index message source found answers
              rw [silent, List.countP_nil, Nat.add_zero] at rest
              omega
          | false =>
              have grown := getElem?_air_after protocol (occurrence :: occurrences) found
              rw [after_cons] at grown
              have one : (protocol.reaction start occurrence).2.countP response ≤ 1 :=
                List.countP_le_length.trans here.one
              have initiated : initiates response
                  (protocol.after (protocol.next start occurrence) occurrences).air index := by
                simp [initiates, grown, answers]
              rw [if_pos initiated]
              omega

/-- If nothing arrives twice at one party, each event that happens by itself accounts for one
message and at most one response from each party. -/
theorem length_air_le [Fintype Party] {occurrences : List (Occurrence Party Event)}
    (silent : start.air = []) (run : protocol.Run start occurrences)
    (responsive : ∀ step ∈ steps protocol.next start occurrences,
      protocol.Responsive response step.1 step.2)
    (once : (occurrences.filterMap arrival).Nodup) :
    (protocol.after start occurrences).air.length ≤
      occurrences.countP (fun occurrence => occurrence.source.isNone) *
        (1 + Fintype.card Party) := by
  let air := (protocol.after start occurrences).air
  let due := (occurrences.filterMap arrival).filter fun arrived => initiates response air arrived.1
  let places := (List.range air.length).filter (initiates response air)
  have initiators : places.length ≤ occurrences.countP fun occurrence =>
      occurrence.source.isNone := by
    have bound := countP_initiators_le responsive
    rw [silent, List.countP_nil, Nat.zero_add] at bound
    rwa [← List.countP_eq_length_filter, countP_initiates]
  have within : due.toFinset ⊆ places.toFinset ×ˢ Finset.univ := by
    intro arrived member
    have initiated := (List.mem_filter.mp (List.mem_toFinset.mp member)).2
    have inside : arrived.1 < air.length := by
      by_contra outside
      simp [initiates, List.getElem?_eq_none (Nat.le_of_not_lt outside)] at initiated
    simp [places, initiated, inside]
  have responses : air.countP response ≤ places.length * Fintype.card Party := by
    have bound := countP_responses_le run responsive
    dsimp only at bound
    rw [silent, List.countP_nil, Nat.zero_add] at bound
    refine bound.trans ?_
    rw [List.countP_eq_length_filter]
    have cards := Finset.card_le_card within
    rw [Finset.card_product, List.toFinset_card_of_nodup (once.filter _),
      List.toFinset_card_of_nodup (List.nodup_range.filter _), Finset.card_univ] at cards
    exact cards
  have split := List.length_eq_countP_add_countP response (l := air)
  have initiated : air.countP (fun message => !response message) = places.length := by
    rw [← countP_initiates, List.countP_eq_length_filter]
  calc
    air.length = air.countP response + places.length := by
      rw [← initiated]
      simpa using split
    _ ≤ places.length * Fintype.card Party + places.length := Nat.add_le_add_right responses _
    _ = places.length * (1 + Fintype.card Party) := by
      rw [Nat.mul_add, Nat.mul_one, Nat.add_comm]
    _ ≤ _ := Nat.mul_le_mul_right _ initiators

end Responsive

end Protocol
end Library
