import Fluoride.BtHdr
import Fluoride.Runs

/-!
# Command flow control in the HCI layer

`hci/src/hci_layer.cc` sends commands to the controller under the controller's
flow control: every Command Complete and Command Status event carries
Num_HCI_Command_Packets, the number of commands the controller takes from then
on, and the layer keeps `command_credits` from it. Three threads share the
layer's state:

* a caller's `transmit_command` (`enqueue_command`) posts the command's task
  to the HCI thread and takes a credit when one is left, and queues the task on
  `command_queue` otherwise;
* the HCI thread runs the posted tasks in order: `event_command_ready` appends
  the command to `commands_pending_response` and hands it to
  `fragment_and_dispatch`;
* the HAL's thread calls `hci_event_received`: `filter_incoming_event` takes
  the answered command off `commands_pending_response` and calls
  `process_command_credits`, which sets the credits to the event's count minus
  the commands pending a response and posts queued tasks while credits last.

Each critical section is one step of the model and a run is any interleaving of
them. Over every run, commands reach `fragment_and_dispatch` in the order they
were transmitted (`dispatched_prefix_transmitted`), and every wait entry is
answered at most once (`answered_nodup`), after it was dispatched
(`answered_dispatched`), by an event with its opcode (`answers_opcode`). The
credits do not count tasks posted to the HCI thread that have not run yet:
between two credit-carrying events the layer dispatches at most the credits of
the first plus the tasks waiting when it arrived (`dispatched_le_credits`), and
it does reach that many (`overcommits`).
-/

namespace Fluoride.HciCommands

open ByteBuffer Runs

/-- `HCI_COMMAND_COMPLETE_EVT`. -/
def hciCommandCompleteEvt : UInt8 := 0x0E

/-- `HCI_COMMAND_STATUS_EVT`. -/
def hciCommandStatusEvt : UInt8 := 0x0F

/-- `HCI_VSE_SUBCODE_DEBUG_INFO_SUB_EVT`: firmware debug information, logged
and dropped. -/
def hciVseSubcodeDebugInfoSubEvt : UInt8 := 0x57

/-- `MSG_STACK_TO_HC_HCI_CMD`: the event field of an outgoing command. -/
def msgStackToHcHciCmd : Nat := 0x2000

/-- A `waiting_command_t`, the wait entry `transmit_command` allocates for a
command. `entry` tells allocations apart: the model numbers them in the order
`osi_calloc` made them. -/
structure WaitingCommand where
  entry : Nat
  opcode : Nat
  completeFuture : Bool
  completeCallback : Bool
  statusCallback : Bool
  command : BtHdr UInt8
deriving Repr, DecidableEq

/-- The layer's shared state: `command_credits`, `command_queue`, the
`event_command_ready` tasks posted to the HCI thread and not yet run (oldest
first), `commands_pending_response`, and the number of wait entries allocated. -/
structure HciLayer where
  commandCredits : Int
  commandQueue : List WaitingCommand
  hciThread : List WaitingCommand
  commandsPendingResponse : List WaitingCommand
  allocated : Nat
deriving Repr, DecidableEq

/-- The state `hci_module_start_up` leaves: one credit, since the controller
takes one command before its first event. -/
def HciLayer.startUp : HciLayer := ⟨1, [], [], [], 0⟩

/-- What one thread does in one critical section. -/
inductive Action
  /-- `transmit_command(command, complete_callback, status_callback, context)`;
  the flags say whether each callback is given. -/
  | transmitCommand (command : BtHdr UInt8) (completeCallback statusCallback : Bool)
  /-- `transmit_command_futured(command)`. -/
  | transmitCommandFutured (command : BtHdr UInt8)
  /-- The HCI thread runs its oldest posted task. -/
  | hciThreadRuns
  /-- `hci_event_received(packet)` on the HAL's thread. -/
  | hciEventReceived (packet : BtHdr UInt8)
deriving Repr, DecidableEq

/-- What the layer hands to the components around it. -/
inductive Output
  /-- `packet_fragmenter->fragment_and_dispatch(wait_entry->command)`. -/
  | fragmentAndDispatch (waiting : WaitingCommand)
  /-- The wait entry a Command Complete event takes off the list; its complete
  callback or future receives the event. -/
  | commandComplete (waiting : WaitingCommand) (event : BtHdr UInt8)
  /-- The wait entry a Command Status event takes off the list; its status
  callback receives the status. -/
  | commandStatus (waiting : WaitingCommand) (event : BtHdr UInt8)
  /-- `send_data_upwards`: an event that answers no command. -/
  | sendDataUpwards (packet : BtHdr UInt8)
deriving Repr, DecidableEq

/-- The one way a step fails: a `STREAM_TO_*` read past the end of an event's
buffer, which the source does not check. -/
inductive Failure
  | readOutsideEvent
deriving Repr, DecidableEq

/-- The byte at `index` of an event, read from `packet->data` on. -/
def eventByte (packet : BtHdr UInt8) (index : Nat) : Except Failure UInt8 :=
  match packet.data[index]? with
  | some byte => pure byte
  | none => throw .readOutsideEvent

/-- `STREAM_TO_UINT16` at `index` of an event. -/
def eventLe16 (packet : BtHdr UInt8) (index : Nat) : Except Failure Nat := do
  let low ← eventByte packet index
  let high ← eventByte packet (index + 1)
  pure (low.toNat + 256 * high.toNat)

/-- What `filter_incoming_event` reads of an event before it acts on it. -/
inductive CommandEvent
  | complete (credits opcode : Nat)
  | status (status : UInt8) (credits opcode : Nat)
  | debugInfo
  | other
deriving Repr, DecidableEq

/-- The reads of `filter_incoming_event`: the event code, then past the
parameter length a Command Complete's credits and opcode, or a Command
Status's status, credits and opcode. -/
def readEvent (packet : BtHdr UInt8) : Except Failure CommandEvent := do
  let eventCode ← eventByte packet 0
  if eventCode = hciCommandCompleteEvt then
    let credits ← eventByte packet 2
    let opcode ← eventLe16 packet 3
    pure (.complete credits.toNat opcode)
  else if eventCode = hciCommandStatusEvt then
    let status ← eventByte packet 2
    let credits ← eventByte packet 3
    let opcode ← eventLe16 packet 4
    pure (.status status credits.toNat opcode)
  else if eventCode = hciVseSubcodeDebugInfoSubEvt then
    pure .debugInfo
  else
    pure .other

/-- `transmit_command` and `transmit_command_futured`: a new wait entry with
the opcode read from the command and the given callbacks, and the command
marked as an outgoing command. -/
def newWaitEntry (layer : HciLayer) (command : BtHdr UInt8)
    (completeFuture completeCallback statusCallback : Bool) : WaitingCommand :=
  { entry := layer.allocated, opcode := readLe16 command.data command.offset,
    completeFuture, completeCallback, statusCallback,
    command := { command with event := msgStackToHcHciCmd } }

/-- `enqueue_command`: post the task to the HCI thread if a credit is left and
take it, queue the task otherwise. -/
def enqueueCommand (layer : HciLayer) (waiting : WaitingCommand) : HciLayer :=
  if 0 < layer.commandCredits then
    { layer with hciThread := layer.hciThread ++ [waiting],
                 commandCredits := layer.commandCredits - 1 }
  else
    { layer with commandQueue := layer.commandQueue ++ [waiting] }

/-- A wait entry allocated and enqueued: the body of both transmit functions. -/
def waitFor (layer : HciLayer) (command : BtHdr UInt8)
    (completeFuture completeCallback statusCallback : Bool) : HciLayer :=
  enqueueCommand { layer with allocated := layer.allocated + 1 }
    (newWaitEntry layer command completeFuture completeCallback statusCallback)

/-- `transmit_command`. -/
def transmitCommand (layer : HciLayer) (command : BtHdr UInt8)
    (completeCallback statusCallback : Bool) : HciLayer :=
  waitFor layer command false completeCallback statusCallback

/-- `transmit_command_futured`. -/
def transmitCommandFutured (layer : HciLayer) (command : BtHdr UInt8) : HciLayer :=
  waitFor layer command true false false

/-- `event_command_ready`: the command joins `commands_pending_response` and
is handed to the fragmenter. -/
def eventCommandReady (layer : HciLayer) (waiting : WaitingCommand) : HciLayer × List Output :=
  ({ layer with commandsPendingResponse := layer.commandsPendingResponse ++ [waiting] },
    [.fragmentAndDispatch waiting])

/-- The HCI thread runs its oldest posted task, if any. -/
def hciThreadRuns (layer : HciLayer) : HciLayer × List Output :=
  match layer.hciThread with
  | [] => (layer, [])
  | waiting :: rest => eventCommandReady { layer with hciThread := rest } waiting

/-- `get_waiting_command`: the first pending entry with the opcode, taken off
the list. -/
def getWaitingCommand (opcode : Nat) :
    List WaitingCommand → Option WaitingCommand × List WaitingCommand
  | [] => (none, [])
  | waiting :: rest =>
    if waiting.opcode = opcode then (some waiting, rest)
    else
      let later := getWaitingCommand opcode rest
      (later.1, waiting :: later.2)

/-- The loop of `process_command_credits`: post queued tasks while credits
last, taking one for each. -/
def postQueued :
    Int → List WaitingCommand → List WaitingCommand →
      Int × List WaitingCommand × List WaitingCommand
  | credits, posted, [] => (credits, posted, [])
  | credits, posted, waiting :: queue =>
    if 0 < credits then postQueued (credits - 1) (posted ++ [waiting]) queue
    else (credits, posted, waiting :: queue)

/-- `process_command_credits`: the event's credits less the commands on
`commands_pending_response`, then the loop. -/
def processCommandCredits (layer : HciLayer) (credits : Nat) : HciLayer :=
  let result :=
    postQueued ((credits : Int) - layer.commandsPendingResponse.length) layer.hciThread
      layer.commandQueue
  { layer with commandCredits := result.1, hciThread := result.2.1, commandQueue := result.2.2 }

/-- The common part of the Command Complete and Command Status branches of
`filter_incoming_event`: `get_waiting_command`, then `process_command_credits`. -/
def commandAnswered (layer : HciLayer) (opcode credits : Nat) :
    Option WaitingCommand × HciLayer :=
  let taken := getWaitingCommand opcode layer.commandsPendingResponse
  (taken.1, processCommandCredits { layer with commandsPendingResponse := taken.2 } credits)

/-- `hci_event_received` with `filter_incoming_event`. -/
def hciEventReceived (layer : HciLayer) (packet : BtHdr UInt8) :
    Except Failure (HciLayer × List Output) := do
  match ← readEvent packet with
  | .complete credits opcode =>
    let answer := commandAnswered layer opcode credits
    pure (answer.2, (answer.1.map fun waiting => .commandComplete waiting packet).toList)
  | .status _ credits opcode =>
    let answer := commandAnswered layer opcode credits
    pure (answer.2, (answer.1.map fun waiting => .commandStatus waiting packet).toList)
  | .debugInfo => pure (layer, [])
  | .other => pure (layer, [.sendDataUpwards packet])

/-- One critical section of one of the three threads. -/
def hciStep (layer : HciLayer) : Action → Except Failure (HciLayer × List Output)
  | .transmitCommand command completeCallback statusCallback =>
    pure (transmitCommand layer command completeCallback statusCallback, [])
  | .transmitCommandFutured command => pure (transmitCommandFutured layer command, [])
  | .hciThreadRuns => pure (hciThreadRuns layer)
  | .hciEventReceived packet => hciEventReceived layer packet

/-! ## The pieces of a step -/

/-- The entry `get_waiting_command` finds has the opcode it looks for. -/
theorem getWaitingCommand_opcode (opcode : Nat) (pending : List WaitingCommand)
    (waiting : WaitingCommand) (found : (getWaitingCommand opcode pending).1 = some waiting) :
    waiting.opcode = opcode := by
  induction pending with
  | nil => cases found
  | cons first rest inductionHypothesis =>
    by_cases same : first.opcode = opcode
    · simp only [getWaitingCommand, same, if_true, Option.some.injEq] at found
      rw [← found, same]
    · simp only [getWaitingCommand, same, if_false] at found
      exact inductionHypothesis found

/-- `get_waiting_command` loses no entry: the one it finds and the ones it
leaves are the list it searched. -/
theorem getWaitingCommand_perm (opcode : Nat) (pending : List WaitingCommand) :
    ((getWaitingCommand opcode pending).1.toList ++ (getWaitingCommand opcode pending).2).Perm
      pending := by
  induction pending with
  | nil => simp [getWaitingCommand]
  | cons first rest inductionHypothesis =>
    by_cases same : first.opcode = opcode
    · simp [getWaitingCommand, same]
    · simp only [getWaitingCommand, same, if_false]
      exact List.perm_middle.trans (inductionHypothesis.cons first)

section PostQueued

variable (credits : Int) (posted queue : List WaitingCommand)

/-- The loop moves tasks from the front of the queue to the back of the
posted ones, so posted followed by queued keeps its order. -/
theorem postQueued_order :
    (postQueued credits posted queue).2.1 ++ (postQueued credits posted queue).2.2 =
      posted ++ queue := by
  induction queue generalizing credits posted with
  | nil => simp [postQueued]
  | cons waiting rest inductionHypothesis =>
    by_cases available : 0 < credits
    · simp only [postQueued, available, if_true, inductionHypothesis]
      simp
    · simp [postQueued, available]

/-- The loop stops with credits left only when the queue is empty. -/
theorem postQueued_spent (left : 0 < (postQueued credits posted queue).1) :
    (postQueued credits posted queue).2.2 = [] := by
  induction queue generalizing credits posted with
  | nil => rfl
  | cons waiting rest inductionHypothesis =>
    by_cases available : 0 < credits
    · simp only [postQueued, available, if_true] at left ⊢
      exact inductionHypothesis _ _ left
    · -- with no credit the loop stops at once, with the credits it was given
      simp only [postQueued, available, if_false] at left

/-- Every task the loop posts costs one credit. -/
theorem postQueued_count :
    (postQueued credits posted queue).2.1.length + (postQueued credits posted queue).1.toNat =
      posted.length + credits.toNat := by
  induction queue generalizing credits posted with
  | nil => rfl
  | cons waiting rest inductionHypothesis =>
    by_cases available : 0 < credits
    · simp only [postQueued, available, if_true, inductionHypothesis, List.length_append,
        List.length_singleton]
      omega
    · simp [postQueued, available]

end PostQueued

section CommandAnswered

variable (layer : HciLayer) (opcode credits : Nat)

/-- An answer moves tasks from the queue to the HCI thread and keeps their
order. -/
theorem commandAnswered_order :
    (commandAnswered layer opcode credits).2.hciThread ++
        (commandAnswered layer opcode credits).2.commandQueue =
      layer.hciThread ++ layer.commandQueue :=
  postQueued_order _ _ _

/-- After an answer, a task waits in the queue only while no credit is left. -/
theorem commandAnswered_spent (left : 0 < (commandAnswered layer opcode credits).2.commandCredits) :
    (commandAnswered layer opcode credits).2.commandQueue = [] :=
  postQueued_spent _ _ _ left

/-- An answer takes at most the entry it reports off the pending list. -/
theorem commandAnswered_pending :
    ((commandAnswered layer opcode credits).1.toList ++
        (commandAnswered layer opcode credits).2.commandsPendingResponse).Perm
      layer.commandsPendingResponse :=
  getWaitingCommand_perm _ _

/-- An answer allocates nothing. -/
@[simp] theorem commandAnswered_allocated :
    (commandAnswered layer opcode credits).2.allocated = layer.allocated := rfl

/-- After an answer, the tasks on the HCI thread and the credits left are at
most the tasks that were there and the event's credits: the credits are the
event's less the pending commands, and each task posted costs one. -/
theorem commandAnswered_count :
    (commandAnswered layer opcode credits).2.hciThread.length +
        (commandAnswered layer opcode credits).2.commandCredits.toNat ≤
      layer.hciThread.length + credits := by
  have count := postQueued_count
    ((credits : Int) - (getWaitingCommand opcode layer.commandsPendingResponse).2.length)
    layer.hciThread layer.commandQueue
  simp only [commandAnswered, processCommandCredits]
  omega

end CommandAnswered

/-! ## The laws of a run -/

/-- The commands an output list hands to `fragment_and_dispatch`, in order. -/
def dispatched (outputs : List Output) : List WaitingCommand :=
  outputs.filterMap fun
    | .fragmentAndDispatch waiting => some waiting
    | _ => none

/-- The wait entries an output list answers, in order. -/
def answered (outputs : List Output) : List WaitingCommand :=
  outputs.filterMap fun
    | .commandComplete waiting _ => some waiting
    | .commandStatus waiting _ => some waiting
    | _ => none

@[simp] theorem dispatched_append (first second : List Output) :
    dispatched (first ++ second) = dispatched first ++ dispatched second :=
  List.filterMap_append

@[simp] theorem answered_append (first second : List Output) :
    answered (first ++ second) = answered first ++ answered second :=
  List.filterMap_append

/-- The command a transmit action hands to the layer, marked as the transmit
functions mark it. -/
def Action.transmitted : Action → Option (BtHdr UInt8)
  | .transmitCommand command _ _ => some { command with event := msgStackToHcHciCmd }
  | .transmitCommandFutured command => some { command with event := msgStackToHcHciCmd }
  | _ => none

/-- The commands a list of actions transmits, in the order of the calls. -/
def transmitted (actions : List Action) : List (BtHdr UInt8) :=
  actions.filterMap Action.transmitted

@[simp] theorem transmitted_append (first second : List Action) :
    transmitted (first ++ second) = transmitted first ++ transmitted second :=
  List.filterMap_append

/-- The Num_HCI_Command_Packets an event carries, if it is a Command Complete
or a Command Status. -/
def carriedCredits (packet : BtHdr UInt8) : Option Nat :=
  match readEvent packet with
  | .ok (.complete credits _) => some credits
  | .ok (.status _ credits _) => some credits
  | _ => none

/-- The credits an action carries: only a Command Complete or Command Status
event carries any. -/
def Action.credits : Action → Option Nat
  | .hciEventReceived packet => carriedCredits packet
  | _ => none

/-- The laws of the command flow, about the actions taken and the outputs
emitted so far: a task waits in `command_queue` only while no credit is left;
the dispatched commands followed by the posted and the queued ones are the
transmitted commands in the order of the calls, numbered in that order; and the
answered entries with the pending ones are the dispatched ones. -/
structure Accounted (taken : List Action) (past : List Output) (layer : HciLayer) : Prop where
  queuedWithoutCredits : 0 < layer.commandCredits → layer.commandQueue = []
  inOrder : (dispatched past ++ layer.hciThread ++ layer.commandQueue).map WaitingCommand.command =
    transmitted taken
  numbered : (dispatched past ++ layer.hciThread ++ layer.commandQueue).map WaitingCommand.entry =
    List.range layer.allocated
  answeredPending : (answered past ++ layer.commandsPendingResponse).Perm (dispatched past)

/-- Nothing has happened after start-up. -/
theorem accounted_startUp : Accounted [] [] HciLayer.startUp :=
  ⟨fun _ => rfl, rfl, rfl, List.Perm.refl _⟩

section Steps

variable (taken : List Action) (past : List Output) (layer : HciLayer)

/-- An action that transmits nothing and leaves the layer and the outputs as
they were keeps the laws. -/
theorem Accounted.silent (action : Action) (noCommand : action.transmitted = none)
    (holds : Accounted taken past layer) : Accounted (taken ++ [action]) past layer := by
  have calls : transmitted (taken ++ [action]) = transmitted taken := by
    simp [transmitted, noCommand]
  exact ⟨holds.queuedWithoutCredits, holds.inOrder.trans calls.symm, holds.numbered,
    holds.answeredPending⟩

/-- A transmission keeps the laws: with a credit left the queue is empty and
the new task goes behind the posted ones, without one it goes behind the queued
ones; either way it is the last transmitted and the last allocated. -/
theorem waitFor_accounted (command : BtHdr UInt8) (completeFuture completeCallback statusCallback : Bool)
    (action : Action) (transmits : action.transmitted = some { command with event := msgStackToHcHciCmd })
    (holds : Accounted taken past layer) :
    Accounted (taken ++ [action]) past
      (waitFor layer command completeFuture completeCallback statusCallback) := by
  have calls : transmitted (taken ++ [action]) =
      transmitted taken ++ [{ command with event := msgStackToHcHciCmd }] := by
    simp [transmitted, transmits]
  have order := holds.inOrder
  have numbers := holds.numbered
  by_cases available : 0 < layer.commandCredits
  · have empty := holds.queuedWithoutCredits available
    rw [empty, List.append_nil] at order numbers
    simp only [waitFor, enqueueCommand, available, if_true]
    refine ⟨fun _ => empty, ?_, ?_, holds.answeredPending⟩
    · simp only [empty, List.append_nil, ← List.append_assoc, List.map_append, order, calls]
      rfl
    · simp only [empty, List.append_nil, ← List.append_assoc, List.map_append, numbers,
        List.range_succ]
      rfl
  · simp only [waitFor, enqueueCommand, available, if_false]
    refine ⟨fun positive => absurd positive available, ?_, ?_, holds.answeredPending⟩
    · simp only [← List.append_assoc, List.map_append, order, calls]
      rfl
    · simp only [← List.append_assoc, List.map_append, numbers, List.range_succ]
      rfl

/-- A run of the HCI thread keeps the laws: its oldest task leaves the posted
ones, is dispatched, and waits for its answer. -/
theorem hciThreadRuns_accounted (holds : Accounted taken past layer) :
    Accounted (taken ++ [.hciThreadRuns]) (past ++ (hciThreadRuns layer).2)
      (hciThreadRuns layer).1 := by
  cases posted : layer.hciThread with
  | nil =>
    simp only [hciThreadRuns, posted, List.append_nil]
    exact holds.silent taken past layer .hciThreadRuns rfl
  | cons waiting rest =>
    have order := holds.inOrder
    have numbers := holds.numbered
    have answers := holds.answeredPending
    rw [posted] at order numbers
    have calls : transmitted (taken ++ [.hciThreadRuns]) = transmitted taken := by
      simp [transmitted, Action.transmitted]
    simp only [hciThreadRuns, posted, eventCommandReady]
    refine ⟨holds.queuedWithoutCredits, ?_, ?_, ?_⟩
    · simpa [dispatched, calls] using order
    · simpa [dispatched] using numbers
    · simpa [dispatched, answered, ← List.append_assoc] using answers.append_right [waiting]

/-- What a received event does: it dispatches nothing, and either leaves the
layer as it was and answers nothing, or it is a Command Complete or Command
Status event whose credits and opcode `commandAnswered` acts on. -/
theorem hciEventReceived_eq_ok (packet : BtHdr UInt8) (next : HciLayer) (emitted : List Output)
    (received : hciEventReceived layer packet = .ok (next, emitted)) :
    dispatched emitted = [] ∧
      ((next = layer ∧ answered emitted = [] ∧ carriedCredits packet = none) ∨
        ∃ opcode credits, carriedCredits packet = some credits ∧
          next = (commandAnswered layer opcode credits).2 ∧
          answered emitted = (commandAnswered layer opcode credits).1.toList) := by
  unfold hciEventReceived at received
  cases event : readEvent packet with
  | error failure =>
    rw [event] at received
    cases received
  | ok read =>
    rw [event] at received
    cases read with
    | complete credits opcode =>
      cases received
      refine ⟨?_, .inr ⟨opcode, credits, by simp [carriedCredits, event], rfl, ?_⟩⟩ <;>
        cases (commandAnswered layer opcode credits).1 <;> rfl
    | status status credits opcode =>
      cases received
      refine ⟨?_, .inr ⟨opcode, credits, by simp [carriedCredits, event], rfl, ?_⟩⟩ <;>
        cases (commandAnswered layer opcode credits).1 <;> rfl
    | debugInfo =>
      cases received
      exact ⟨rfl, .inl ⟨rfl, rfl, by simp [carriedCredits, event]⟩⟩
    | other =>
      cases received
      exact ⟨rfl, .inl ⟨rfl, rfl, by simp [carriedCredits, event]⟩⟩

/-- An event keeps the laws: an answer moves at most one entry from the
pending list to the answered ones, and the credits it brings move queued tasks
to the HCI thread in order. -/
theorem hciEventReceived_accounted (packet : BtHdr UInt8) (next : HciLayer) (emitted : List Output)
    (received : hciEventReceived layer packet = .ok (next, emitted))
    (holds : Accounted taken past layer) :
    Accounted (taken ++ [.hciEventReceived packet]) (past ++ emitted) next := by
  obtain ⟨noDispatch, unchanged | ⟨opcode, credits, -, rfl, answers⟩⟩ :=
    hciEventReceived_eq_ok layer packet next emitted received
  · obtain ⟨rfl, noAnswer, -⟩ := unchanged
    have same : Accounted taken (past ++ emitted) next := by
      refine ⟨holds.queuedWithoutCredits, ?_, ?_, ?_⟩
      · simpa [noDispatch] using holds.inOrder
      · simpa [noDispatch] using holds.numbered
      · simpa [noDispatch, noAnswer] using holds.answeredPending
    exact same.silent taken (past ++ emitted) next _ rfl
  · have calls : transmitted (taken ++ [.hciEventReceived packet]) = transmitted taken := by
      simp [transmitted, Action.transmitted]
    have order := commandAnswered_order layer opcode credits
    refine ⟨commandAnswered_spent layer opcode credits, ?_, ?_, ?_⟩
    · rw [dispatched_append, noDispatch, List.append_nil, List.append_assoc, order,
        ← List.append_assoc, calls]
      exact holds.inOrder
    · rw [dispatched_append, noDispatch, List.append_nil, List.append_assoc, order,
        ← List.append_assoc, commandAnswered_allocated]
      exact holds.numbered
    · rw [dispatched_append, noDispatch, List.append_nil, answered_append, answers,
        List.append_assoc]
      exact ((commandAnswered_pending layer opcode credits).append_left _).trans
        holds.answeredPending

/-- An answer's wait entry has the opcode of the event that answers it. -/
def AnswersItsOpcode : Output → Prop
  | .commandComplete waiting event => ∃ credits, readEvent event = .ok (.complete credits waiting.opcode)
  | .commandStatus waiting event =>
    ∃ status credits, readEvent event = .ok (.status status credits waiting.opcode)
  | _ => True

/-- An event answers only an entry with its own opcode, since
`get_waiting_command` compares the opcodes. -/
theorem hciEventReceived_answers (packet : BtHdr UInt8) (next : HciLayer) (emitted : List Output)
    (received : hciEventReceived layer packet = .ok (next, emitted)) :
    ∀ output ∈ emitted, AnswersItsOpcode output := by
  unfold hciEventReceived at received
  cases event : readEvent packet with
  | error failure =>
    rw [event] at received
    cases received
  | ok read =>
    rw [event] at received
    intro output member
    cases read with
    | complete credits opcode =>
      cases received
      cases found : (commandAnswered layer opcode credits).1 with
      | none => simp [found] at member
      | some waiting =>
        simp only [found, Option.map_some, Option.toList_some, List.mem_singleton] at member
        subst member
        exact ⟨credits, by rw [event, getWaitingCommand_opcode opcode _ waiting found]⟩
    | status status credits opcode =>
      cases received
      cases found : (commandAnswered layer opcode credits).1 with
      | none => simp [found] at member
      | some waiting =>
        simp only [found, Option.map_some, Option.toList_some, List.mem_singleton] at member
        subst member
        exact ⟨status, credits, by rw [event, getWaitingCommand_opcode opcode _ waiting found]⟩
    | debugInfo =>
      cases received
      cases member
    | other =>
      cases received
      rw [List.mem_singleton] at member
      subst member
      trivial

end Steps

/-- Every critical section of every thread keeps the laws. -/
theorem hciStep_accounted : PreservesTraceOn hciStep (fun _ => True) Accounted := by
  intro taken past layer action next emitted holds _ stepped
  cases action with
  | transmitCommand command completeCallback statusCallback =>
    cases stepped
    rw [List.append_nil]
    exact waitFor_accounted taken past layer command false completeCallback statusCallback
      (.transmitCommand command completeCallback statusCallback) rfl holds
  | transmitCommandFutured command =>
    cases stepped
    rw [List.append_nil]
    exact waitFor_accounted taken past layer command true false false
      (.transmitCommandFutured command) rfl holds
  | hciThreadRuns =>
    have ran : hciThreadRuns layer = (next, emitted) := Except.ok.inj stepped
    have kept := hciThreadRuns_accounted taken past layer holds
    rwa [ran] at kept
  | hciEventReceived packet =>
    exact hciEventReceived_accounted taken past layer packet next emitted stepped holds

/-- The laws hold after every interleaving of the three threads from
start-up. -/
theorem run_accounted (actions : List Action) (final : HciLayer) (emitted : List Output)
    (ran : run hciStep HciLayer.startUp actions = .ok (final, emitted)) :
    Accounted actions emitted final := by
  simpa using run_preserves_trace hciStep Accounted (fun _ => True) hciStep_accounted [] []
    HciLayer.startUp final actions emitted accounted_startUp (fun _ _ => trivial) ran

/-- Every critical section answers only entries with the opcode of the event
that answers them. -/
theorem hciStep_answers (layer : HciLayer) (action : Action) (next : HciLayer)
    (emitted : List Output) (stepped : hciStep layer action = .ok (next, emitted)) :
    ∀ output ∈ emitted, AnswersItsOpcode output := by
  cases action with
  | transmitCommand command completeCallback statusCallback =>
    cases stepped
    simp
  | transmitCommandFutured command =>
    cases stepped
    simp
  | hciThreadRuns =>
    have outputs : (hciThreadRuns layer).2 = emitted := congrArg Prod.snd (Except.ok.inj stepped)
    intro output member
    rw [← outputs] at member
    unfold hciThreadRuns at member
    split at member
    · cases member
    · simp only [eventCommandReady, List.mem_singleton] at member
      subst member
      trivial
  | hciEventReceived packet =>
    exact hciEventReceived_answers layer packet next emitted stepped

/-- Commands reach `fragment_and_dispatch` in the order `transmit_command` was
called: the dispatched commands are the first ones transmitted, whatever the
interleaving. -/
theorem dispatched_prefix_transmitted (actions : List Action) (final : HciLayer)
    (emitted : List Output) (ran : run hciStep HciLayer.startUp actions = .ok (final, emitted)) :
    (dispatched emitted).map WaitingCommand.command <+: transmitted actions := by
  have order := (run_accounted actions final emitted ran).inOrder
  rw [List.append_assoc, List.map_append] at order
  exact ⟨_, order⟩

/-- Every wait entry is answered at most once, whatever the interleaving: the
answered entries are among the dispatched ones, which are distinct
allocations. -/
theorem answered_nodup (actions : List Action) (final : HciLayer) (emitted : List Output)
    (ran : run hciStep HciLayer.startUp actions = .ok (final, emitted)) :
    ((answered emitted).map WaitingCommand.entry).Nodup := by
  have accounted := run_accounted actions final emitted ran
  have allocations :
      ((dispatched emitted ++ (final.hciThread ++ final.commandQueue)).map
        WaitingCommand.entry).Nodup := by
    rw [← List.append_assoc, accounted.numbered]
    exact List.nodup_range
  rw [List.map_append] at allocations
  have together := (accounted.answeredPending.map WaitingCommand.entry).nodup_iff.mpr
    (List.nodup_append.mp allocations).1
  rw [List.map_append] at together
  exact (List.nodup_append.mp together).1

/-- Only a dispatched command is answered. -/
theorem answered_dispatched (actions : List Action) (final : HciLayer) (emitted : List Output)
    (ran : run hciStep HciLayer.startUp actions = .ok (final, emitted)) :
    ∀ waiting ∈ answered emitted, waiting ∈ dispatched emitted := fun _ member =>
  (run_accounted actions final emitted ran).answeredPending.subset (List.mem_append_left _ member)

/-- Every answer, in every run from every state, is by an event with the
answered entry's opcode. -/
theorem answers_opcode (layer : HciLayer) (actions : List Action) (final : HciLayer)
    (emitted : List Output) (ran : run hciStep layer actions = .ok (final, emitted)) :
    ∀ output ∈ emitted, AnswersItsOpcode output :=
  run_outputs hciStep (fun _ => True) (fun _ _ _ _ _ _ => trivial) AnswersItsOpcode
    (fun state input next now _ stepped => hciStep_answers state input next now stepped)
    layer final actions emitted trivial ran

/-! ## The credits -/

/-- The credits of the latest Command Complete or Command Status among the
actions; one before any, as at start-up. -/
def latestCredits (actions : List Action) : Nat :=
  actions.foldl (fun credits action => action.credits.getD credits) 1

/-- Since the latest credit-carrying event, the commands dispatched, the tasks
posted and the credits left together stay within `bound`. -/
def WithinCredits (bound : Nat) (_taken : List Action) (past : List Output) (layer : HciLayer) :
    Prop :=
  (dispatched past).length + layer.hciThread.length + layer.commandCredits.toNat ≤ bound

/-- A transmission posts a task for each credit it takes, or queues it. -/
theorem waitFor_count (layer : HciLayer) (command : BtHdr UInt8)
    (completeFuture completeCallback statusCallback : Bool) :
    (waitFor layer command completeFuture completeCallback statusCallback).hciThread.length +
        (waitFor layer command completeFuture completeCallback statusCallback).commandCredits.toNat =
      layer.hciThread.length + layer.commandCredits.toNat := by
  by_cases available : 0 < layer.commandCredits
  · simp only [waitFor, enqueueCommand, available, if_true, List.length_append,
      List.length_singleton]
    omega
  · simp [waitFor, enqueueCommand, available]

/-- A run of the HCI thread dispatches the task it takes off, and touches no
credit. -/
theorem hciThreadRuns_count (layer : HciLayer) :
    (dispatched (hciThreadRuns layer).2).length + (hciThreadRuns layer).1.hciThread.length =
        layer.hciThread.length ∧
      (hciThreadRuns layer).1.commandCredits = layer.commandCredits := by
  unfold hciThreadRuns
  split
  · exact ⟨by simp [dispatched], rfl⟩
  · rename_i waiting rest posted
    simp [eventCommandReady, dispatched, posted, Nat.add_comm]

/-- Between credit-carrying events every critical section keeps the
dispatched commands, posted tasks and credits within their bound. -/
theorem hciStep_withinCredits (bound : Nat) :
    PreservesTraceOn hciStep (fun action => action.credits = none) (WithinCredits bound) := by
  intro taken past layer action next emitted holds noCredits stepped
  unfold WithinCredits at holds ⊢
  cases action with
  | transmitCommand command completeCallback statusCallback =>
    cases stepped
    have count := waitFor_count layer command false completeCallback statusCallback
    simp only [List.append_nil, transmitCommand]
    omega
  | transmitCommandFutured command =>
    cases stepped
    have count := waitFor_count layer command true false false
    simp only [List.append_nil, transmitCommandFutured]
    omega
  | hciThreadRuns =>
    have ran : hciThreadRuns layer = (next, emitted) := Except.ok.inj stepped
    obtain ⟨moved, sameCredits⟩ := hciThreadRuns_count layer
    rw [ran] at moved sameCredits
    dsimp only at moved sameCredits
    simp only [dispatched_append, List.length_append, sameCredits]
    omega
  | hciEventReceived packet =>
    obtain ⟨noDispatch, unchanged | ⟨opcode, credits, carries, -⟩⟩ :=
      hciEventReceived_eq_ok layer packet next emitted stepped
    · obtain ⟨rfl, -⟩ := unchanged
      simpa [noDispatch] using holds
    · -- an event that carries credits is not among the allowed actions
      simp only [Action.credits, carries] at noCredits
      cases noCredits

/-- Between a credit-carrying event and the next, the layer dispatches at most
the event's credits plus the tasks that were posted to the HCI thread when it
arrived: `process_command_credits` counts the commands pending a response but
not those tasks. -/
theorem dispatched_le_credits (layer final : HciLayer) (packet : BtHdr UInt8) (credits : Nat)
    (carries : carriedCredits packet = some credits) (later : List Action)
    (noCredits : ∀ action ∈ later, action.credits = none) (emitted : List Output)
    (ran : run hciStep layer (.hciEventReceived packet :: later) = .ok (final, emitted)) :
    (dispatched emitted).length ≤ credits + layer.hciThread.length := by
  obtain ⟨next, now, rest, received, restRun, rfl⟩ :=
    (run_cons_eq_ok hciStep layer final _ later emitted).mp ran
  obtain ⟨noDispatch, unchanged | ⟨opcode, carried, carriesAgain, rfl, -⟩⟩ :=
    hciEventReceived_eq_ok layer packet next now received
  · rw [carries] at unchanged
    cases unchanged.2.2
  · have same : carried = credits := by
      rw [carries] at carriesAgain
      exact (Option.some.inj carriesAgain).symm
    subst same
    have start : WithinCredits (carried + layer.hciThread.length) [] now
        (commandAnswered layer opcode carried).2 := by
      have count := commandAnswered_count layer opcode carried
      simp only [WithinCredits, noDispatch, List.length_nil]
      omega
    have kept := run_preserves_trace hciStep (WithinCredits (carried + layer.hciThread.length))
      (fun action => action.credits = none) (hciStep_withinCredits _) [] now _ final later rest
      start noCredits restRun
    simp only [WithinCredits, dispatched_append, List.length_append] at kept ⊢
    omega

/-- A command buffer holding just its opcode and an empty parameter list. -/
def commandPacket (opcode : Nat) : BtHdr UInt8 :=
  ⟨0, 3, 0, 0, [UInt8.ofNat opcode, UInt8.ofNat (opcode / 256), 0]⟩

/-- A Command Complete event for `opcode` granting `credits`, with a success
status as its only return parameter. -/
def commandCompleteEvent (credits opcode : Nat) : BtHdr UInt8 :=
  ⟨0, 6, 0, 0,
    [hciCommandCompleteEvt, 4, UInt8.ofNat credits, UInt8.ofNat opcode, UInt8.ofNat (opcode / 256), 0]⟩

/-- With a credit left, a transmission posts its task and takes the credit. -/
theorem waitFor_posts (layer : HciLayer) (command : BtHdr UInt8)
    (completeFuture completeCallback statusCallback : Bool) (available : 0 < layer.commandCredits) :
    waitFor layer command completeFuture completeCallback statusCallback =
      { layer with allocated := layer.allocated + 1,
                   hciThread := layer.hciThread ++
                     [newWaitEntry layer command completeFuture completeCallback statusCallback],
                   commandCredits := layer.commandCredits - 1 } := by
  simp [waitFor, enqueueCommand, available]

/-- With a credit for each of them, transmissions post all their tasks. -/
theorem run_transmits (layer : HciLayer) (commands : List (BtHdr UInt8))
    (noneQueued : layer.commandQueue = []) (enough : (commands.length : Int) ≤ layer.commandCredits) :
    ∃ next, run hciStep layer (commands.map fun command => .transmitCommand command false false) =
        .ok (next, []) ∧
      next.hciThread.length = layer.hciThread.length + commands.length ∧
      next.commandQueue = [] := by
  induction commands generalizing layer with
  | nil => exact ⟨layer, rfl, rfl, noneQueued⟩
  | cons command rest inductionHypothesis =>
    rw [List.length_cons] at enough
    have available : 0 < layer.commandCredits := by omega
    have posts : transmitCommand layer command false false = _ :=
      waitFor_posts layer command false false false available
    obtain ⟨next, ran, thread, queue⟩ := inductionHypothesis (transmitCommand layer command false false)
      (by rw [posts]; exact noneQueued) (by rw [posts]; dsimp only; omega)
    refine ⟨next, ?_, ?_, queue⟩
    · rw [List.map_cons, run_cons_ok hciStep layer _ _ _ [] rfl, ran]
      rfl
    · rw [thread, posts, List.length_cons]
      simp only [List.length_append, List.length_singleton]
      omega

/-- The HCI thread dispatches one command for each run while tasks are
posted. -/
theorem run_hciThreadRuns (layer : HciLayer) (count : Nat) (posted : count ≤ layer.hciThread.length) :
    ∃ next emitted, run hciStep layer (List.replicate count .hciThreadRuns) = .ok (next, emitted) ∧
      (dispatched emitted).length = count := by
  induction count generalizing layer with
  | zero => exact ⟨layer, [], rfl, rfl⟩
  | succ count inductionHypothesis =>
    cases tasks : layer.hciThread with
    | nil =>
      rw [tasks] at posted
      cases posted
    | cons waiting rest =>
      rw [tasks, List.length_cons] at posted
      have ran : hciStep layer .hciThreadRuns =
          .ok ((eventCommandReady { layer with hciThread := rest } waiting).1,
            [.fragmentAndDispatch waiting]) := by
        simp only [hciStep, hciThreadRuns, tasks]
        rfl
      obtain ⟨next, emitted, restRun, dispatchedRest⟩ := inductionHypothesis
        (eventCommandReady { layer with hciThread := rest } waiting).1 (by simpa [eventCommandReady] using posted)
      refine ⟨next, .fragmentAndDispatch waiting :: emitted, ?_, ?_⟩
      · rw [List.replicate_succ, run_cons_ok hciStep layer _ _ _ _ ran, restRun]
        rfl
      · simpa [dispatched] using dispatchedRest

/-- The bound of `dispatched_le_credits` is reached: from a layer with nothing
queued or pending, a Command Complete granting `credits`, then `credits`
transmissions and a run of the HCI thread for every task, dispatch `credits`
commands plus every task that was posted when the event arrived. -/
theorem overcommits (layer : HciLayer) (packet : BtHdr UInt8) (credits opcode : Nat)
    (event : readEvent packet = .ok (.complete credits opcode))
    (nonePending : layer.commandsPendingResponse = []) (noneQueued : layer.commandQueue = [])
    (commands : List (BtHdr UInt8)) (enough : commands.length = credits) :
    ∃ final emitted, run hciStep layer (.hciEventReceived packet ::
          ((commands.map fun command => .transmitCommand command false false) ++
            List.replicate (layer.hciThread.length + credits) .hciThreadRuns)) =
        .ok (final, emitted) ∧
      (dispatched emitted).length = credits + layer.hciThread.length := by
  obtain ⟨left, queue, thread, pending, allocated⟩ := layer
  dsimp only at nonePending noneQueued ⊢
  subst nonePending noneQueued
  -- nothing is pending, so the credits are the event's and the empty queue posts nothing
  have received : hciStep ⟨left, [], thread, [], allocated⟩ (.hciEventReceived packet) =
      .ok (⟨credits, [], thread, [], allocated⟩, []) := by
    simp [hciStep, hciEventReceived, event, commandAnswered, getWaitingCommand,
      processCommandCredits, postQueued, bind, Except.bind, pure, Except.pure]
  obtain ⟨posted, transmitsRun, postedThread, -⟩ :=
    run_transmits ⟨credits, [], thread, [], allocated⟩ commands rfl (by simp [enough])
  obtain ⟨final, emitted, runsRun, count⟩ :=
    run_hciThreadRuns posted (thread.length + credits) (by simp [postedThread, enough])
  refine ⟨final, emitted, ?_, by omega⟩
  rw [run_cons_ok hciStep _ _ _ _ [] received, run_append, transmitsRun]
  simp only [bind, Except.bind, runsRun, pure, Except.pure, Except.map, List.nil_append]

/-- A controller that answers every command once and always grants two
credits. HCI_Reset goes out and is answered; three more commands are
transmitted, the first two posted and the third queued; the first is
dispatched and answered, and the answer posts the queued one while the second
still waits on the HCI thread; a fifth command takes the credit left. When the
HCI thread has run, five commands were dispatched and two answered: three are
outstanding, one more than the two the latest event allows. -/
theorem hciLayer_exceedsCredits :
    let actions : List Action :=
      [.transmitCommand (commandPacket 0x0C03) false false, .hciThreadRuns,
        .hciEventReceived (commandCompleteEvent 2 0x0C03),
        .transmitCommand (commandPacket 0x1001) false false,
        .transmitCommand (commandPacket 0x1002) false false,
        .transmitCommand (commandPacket 0x1003) false false, .hciThreadRuns,
        .hciEventReceived (commandCompleteEvent 2 0x1001),
        .transmitCommand (commandPacket 0x1005) false false,
        .hciThreadRuns, .hciThreadRuns, .hciThreadRuns]
    latestCredits actions = 2 ∧
      (run hciStep HciLayer.startUp actions).map
          (fun result => ((dispatched result.2).length, (answered result.2).length)) =
        .ok (5, 2) := by
  decide

end Fluoride.HciCommands
