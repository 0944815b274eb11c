import AtronixX.Library.Tables

/-! Connection attempts: the state of `core/registry.py` and the handlers and tasks
of `handlers/terminal.py` that change it. The updates of one chat run one after
another; its background tasks, the updates of other chats and the resets that an
admin causes run in between, at every await. -/
namespace AtronixX.Registry
open Library.Tables

inductive Operation
  | terminal
  | sftp
  | monitor
  deriving DecidableEq, Repr

/-- What a message shows: a host-key prompt with its two buttons, or anything else. -/
inductive Shown
  | prompt (hostId : Int) (fingerprint : String)
  | other
  deriving DecidableEq, Repr

structure Display where
  mid : Int
  shown : Shown
  deriving DecidableEq, Repr

/-- What `start_action` is called with, and the message of its button. -/
structure Attempt where
  hostId : Int
  operation : Operation
  mid : Int
  deriving DecidableEq, Repr

structure PendingTrust where
  hostId : Int
  fingerprint : String
  operation : Operation
  mid : Int
  /-- History: the task that stored it, and whether that task's edit showed its prompt. -/
  owner : Nat
  shown : Bool
  deriving DecidableEq, Repr

/-- The await at which a background task is. `_run_action` awaits the edit to `connecting`,
`open_trusted`, and the edit to its prompt or to an error (`reporting`); `_dispatch` the
action up to the point where it keeps its session, what the action shows after that, and
`_close_conn` when it failed (`abandoning`). -/
inductive Phase
  | connecting
  | opening
  | prompting (fingerprint : String)
  | reporting
  | dispatching
  | showing
  | abandoning
  deriving DecidableEq, Repr

structure Task where
  attempt : Attempt
  phase : Phase
  deriving DecidableEq, Repr

/-- The await at which the running handler of the chat is. `start_action` awaits
`close_session`, `get_max_live` (after it counted the sessions), `q.answer`,
`get_host_decrypted` and the closing in `reset_chat`; `cb_trust_yes` awaits `q.answer` and
`set_host_fingerprint`, and `seen` is what the pressed message showed. The last awaits of
a handler change nothing here. -/
inductive Handler
  | closing (attempt : Attempt)
  | counting (attempt : Attempt) (live : Nat)
  | answering (attempt : Attempt)
  | loading (attempt : Attempt)
  | resetting (attempt : Attempt)
  | approving (pending : PendingTrust) (mid : Int) (seen : Shown)
  | storing (pending : PendingTrust) (mid : Int) (seen : Shown)
  | declining
  | cancelling
  | finishing
  deriving DecidableEq, Repr

structure Approval where
  hostId : Int
  fingerprint : String
  seen : Shown
  deriving DecidableEq, Repr

/-- The entries of one chat in the dictionaries of `registry`, with its handler, its
tasks, what its messages showed so far (newest first) and, as history, the fingerprints
stored so far. The session stands for the host of the entry in `active_sessions`. -/
structure Chat where
  session : Option Int
  pendingTrust : Option PendingTrust
  connecting : Option Nat
  tasks : Table Nat Task
  nextTask : Nat
  handler : Option Handler
  displayed : List Display
  approvals : List Approval

def idleChat (session : Option Int) (displayed : List Display) : Chat :=
  ⟨session,none,none,∅,0,none,displayed,[]⟩

def Chat.screen (chat : Chat) (mid : Int) : Option Shown :=
  (chat.displayed.find? (fun display => display.mid = mid)).map Display.shown

inductive Outcome
  | trusted
  | untrusted (fingerprint : String)
  | failed
  deriving DecidableEq, Repr

/-- What happens next in the chat. A handler starts, with what it finds out before its first
await; its await returns (`found` says whether the host is there) or raises; another
`reset_chat` interrupts; another handler closes the session or draws in a message; and the
await of a task returns, or raises what its `except` lets through. -/
inductive Event
  | start (attempt : Attempt) (force allowed closed : Bool)
  | trustYes (mid : Int) (seen : Shown)
  | trustNo
  | connCancel
  | proceed (found : Bool)
  | fail
  | interrupt
  | closeSession
  | draw (mid : Int)
  | edited (task : Nat) (done : Bool)
  | opened (task : Nat) (outcome : Outcome)
  | launched (task : Nat) (done : Bool)
  | abandoned (task : Nat)
  | crashed (task : Nat)
  deriving DecidableEq, Repr

structure Limits where
  live : Nat
  maxLive : Nat

/-- `cancel_connecting`: a cancelled task does not go past its await. -/
def cancelConnecting (chat : Chat) : Chat :=
  match chat.connecting with
  | none => chat
  | some id => {chat with connecting := none, tasks := chat.tasks.erase id}

def discardPendingTrust (chat : Chat) : Chat := {chat with pendingTrust := none}

def endTask (id : Nat) (chat : Chat) : Chat :=
  {chat with
    tasks := chat.tasks.erase id
    connecting := if chat.connecting = some id then none else chat.connecting}

/-- `create_task`, and `connecting[chat_id] = task`. -/
def createTask (task : Task) (chat : Chat) : Chat :=
  {chat with
    tasks := chat.tasks.insert chat.nextTask task
    nextTask := chat.nextTask + 1
    connecting := some chat.nextTask}

def setPhase (id : Nat) (task : Task) (phase : Phase) (chat : Chat) : Chat :=
  {chat with tasks := chat.tasks.insert id {task with phase := phase}}

def display (mid : Int) (shown : Shown) (chat : Chat) : Chat :=
  {chat with displayed := ⟨mid,shown⟩ :: chat.displayed}

/-- `ui.edit`: a `TelegramError` leaves the message as it is. -/
def uiEdit (done : Bool) (mid : Int) (shown : Shown) (chat : Chat) : Chat :=
  if done then display mid shown chat else chat

def wait (handler : Handler) (chat : Chat) : Chat := {chat with handler := some handler}

/-- `start_action` up to its first await. -/
def startAction (limits : Limits) (attempt : Attempt) (force allowed closed : Bool)
    (chat : Chat) : Chat :=
  if !allowed then wait .finishing chat
  else if attempt.operation ≠ .terminal then wait (.answering attempt) chat
  else match chat.session with
    | none => wait (.counting attempt limits.live) chat
    | some _ =>
      if !closed && !force then wait .finishing chat
      else wait (.closing attempt) {chat with session := none}

/-- `cb_trust_yes` up to its first await. -/
def cbTrustYes (mid : Int) (seen : Shown) (chat : Chat) : Chat :=
  match chat.pendingTrust with
  | none => wait .finishing chat
  | some pending => wait (.approving pending mid seen) {chat with pendingTrust := none}

/-- `cb_trust_yes` after `q.answer`: the fingerprint is stored and the pending
connection dispatched. -/
def approve (pending : PendingTrust) (mid : Int) (seen : Shown) (chat : Chat) : Chat :=
  createTask ⟨⟨pending.hostId,pending.operation,mid⟩,.dispatching⟩
    {chat with
      handler := none
      approvals := ⟨pending.hostId,pending.fingerprint,seen⟩ :: chat.approvals}

def proceed (limits : Limits) (found : Bool) (handler : Handler) (chat : Chat) : Chat :=
  match handler with
  | .closing attempt => wait (.counting attempt limits.live) chat
  | .counting attempt live =>
    if live ≥ limits.maxLive then wait .finishing chat else wait (.answering attempt) chat
  | .answering attempt => wait (.loading attempt) chat
  | .loading attempt =>
    if found then wait (.resetting attempt) (discardPendingTrust (cancelConnecting chat))
    else wait .finishing chat
  | .resetting attempt => createTask ⟨attempt,.connecting⟩ {chat with handler := none}
  | .approving pending mid seen => wait (.storing pending mid seen) chat
  | .storing pending mid seen => approve pending mid seen chat
  | .declining => wait .finishing (discardPendingTrust chat)
  | .cancelling => wait .finishing (cancelConnecting chat)
  | .finishing => {chat with handler := none}

def PendingTrust.markShown (id : Nat) (pending : PendingTrust) : PendingTrust :=
  if pending.owner = id then {pending with shown := true} else pending

def edited (id : Nat) (task : Task) (done : Bool) (chat : Chat) : Option Chat :=
  match task.phase with
  | .connecting => some (setPhase id task .opening (uiEdit done task.attempt.mid .other chat))
  | .prompting fingerprint =>
    let shown := uiEdit done task.attempt.mid (.prompt task.attempt.hostId fingerprint) chat
    some (endTask id (if done then
      {shown with pendingTrust := shown.pendingTrust.map (PendingTrust.markShown id)} else shown))
  | .reporting => some (endTask id (uiEdit done task.attempt.mid .other chat))
  | .showing => some (endTask id (uiEdit done task.attempt.mid .other chat))
  | _ => none

/-- `open_trusted` returns; `HostKeyUntrusted` stores the pending trust. -/
def opened (id : Nat) (task : Task) (outcome : Outcome) (chat : Chat) : Chat :=
  match outcome with
  | .trusted => setPhase id task .dispatching chat
  | .failed => setPhase id task .reporting chat
  | .untrusted fingerprint => setPhase id task (.prompting fingerprint)
      {chat with pendingTrust := some ⟨task.attempt.hostId,fingerprint,task.attempt.operation,
        task.attempt.mid,id,false⟩}

/-- The action of a task: `launch_terminal` puts its session into `active_sessions`. -/
def launched (id : Nat) (task : Task) (done : Bool) (chat : Chat) : Chat :=
  if !done then setPhase id task .abandoning chat
  else setPhase id task .showing
    (if task.attempt.operation = .terminal then {chat with session := some task.attempt.hostId}
      else chat)

def abandoned (id : Nat) (task : Task) (chat : Chat) : Chat :=
  setPhase id task .reporting
    (if task.attempt.operation = .terminal then {chat with session := none} else chat)

/-- An exception in a task: `_dispatch` closes the connection, `_run_action` reports,
and one in the report itself ends the task. -/
def crashed (id : Nat) (task : Task) (chat : Chat) : Chat :=
  match task.phase with
  | .dispatching => setPhase id task .abandoning chat
  | .showing => setPhase id task .abandoning chat
  | .abandoning => endTask id chat
  | .reporting => endTask id chat
  | _ => setPhase id task .reporting chat

/-- A step of one chat. A handler begins when no other is running; a button can be
pressed on what its message shows or has shown. -/
def step (chat : Chat) (action : Limits × Event) : Option Chat :=
  match action.2, chat.handler with
  | .start attempt force allowed closed, none =>
    some (startAction action.1 attempt force allowed closed chat)
  | .trustYes mid seen, none => match seen with
    | .prompt _ _ =>
      if ⟨mid,seen⟩ ∈ chat.displayed then some (cbTrustYes mid seen chat) else none
    | .other => none
  | .trustNo, none => some (wait .declining chat)
  | .connCancel, none => some (wait .cancelling chat)
  | .proceed found, some handler => some (proceed action.1 found handler chat)
  | .fail, some _ => some {chat with handler := none}
  | .interrupt, _ => some (discardPendingTrust (cancelConnecting chat))
  | .closeSession, _ => some {chat with session := none}
  | .draw mid, _ => some (display mid .other chat)
  | .edited id done, _ => (chat.tasks.lookup id).bind (fun task => edited id task done chat)
  | .opened id outcome, _ => (chat.tasks.lookup id).bind (fun task =>
    if task.phase = .opening then some (opened id task outcome chat) else none)
  | .launched id done, _ => (chat.tasks.lookup id).bind (fun task =>
    if task.phase = .dispatching then some (launched id task done chat) else none)
  | .abandoned id, _ => (chat.tasks.lookup id).bind (fun task =>
    if task.phase = .abandoning then some (abandoned id task chat) else none)
  | .crashed id, _ => (chat.tasks.lookup id).map (fun task => crashed id task chat)
  | _, _ => none

inductive Taken (chat : Chat) (limits : Limits) : Event → Chat → Prop
  | start (attempt : Attempt) (force allowed closed : Bool) (free : chat.handler = none) :
    Taken chat limits (.start attempt force allowed closed)
      (startAction limits attempt force allowed closed chat)
  | trustYes (mid hostId : Int) (fingerprint : String) (free : chat.handler = none)
    (displayed : ⟨mid,.prompt hostId fingerprint⟩ ∈ chat.displayed) :
    Taken chat limits (.trustYes mid (.prompt hostId fingerprint))
      (cbTrustYes mid (.prompt hostId fingerprint) chat)
  | trustNo (free : chat.handler = none) : Taken chat limits .trustNo (wait .declining chat)
  | connCancel (free : chat.handler = none) : Taken chat limits .connCancel (wait .cancelling chat)
  | proceed (found : Bool) (handler : Handler) (running : chat.handler = some handler) :
    Taken chat limits (.proceed found) (proceed limits found handler chat)
  | fail (handler : Handler) (running : chat.handler = some handler) :
    Taken chat limits .fail {chat with handler := none}
  | interrupt : Taken chat limits .interrupt (discardPendingTrust (cancelConnecting chat))
  | closeSession : Taken chat limits .closeSession {chat with session := none}
  | draw (mid : Int) : Taken chat limits (.draw mid) (display mid .other chat)
  | edited (id : Nat) (done : Bool) (task : Task) (after : Chat)
    (found : chat.tasks.lookup id = some task) (went : edited id task done chat = some after) :
    Taken chat limits (.edited id done) after
  | opened (id : Nat) (outcome : Outcome) (task : Task)
    (found : chat.tasks.lookup id = some task) (phase : task.phase = .opening) :
    Taken chat limits (.opened id outcome) (opened id task outcome chat)
  | launched (id : Nat) (done : Bool) (task : Task)
    (found : chat.tasks.lookup id = some task) (phase : task.phase = .dispatching) :
    Taken chat limits (.launched id done) (launched id task done chat)
  | abandoned (id : Nat) (task : Task)
    (found : chat.tasks.lookup id = some task) (phase : task.phase = .abandoning) :
    Taken chat limits (.abandoned id) (abandoned id task chat)
  | crashed (id : Nat) (task : Task) (found : chat.tasks.lookup id = some task) :
    Taken chat limits (.crashed id) (crashed id task chat)

theorem taken_of_step {chat after : Chat} {limits : Limits} {event : Event}
    (stepped : step chat (limits,event) = some after) : Taken chat limits event after := by
  cases event with
  | start attempt force allowed closed =>
    cases running : chat.handler with
    | some handler => simp [step,running] at stepped
    | none =>
      simp only [step,running,Option.some.injEq] at stepped
      exact stepped ▸ .start attempt force allowed closed running
  | trustYes mid seen =>
    cases running : chat.handler with
    | some handler => simp [step,running] at stepped
    | none =>
      cases seen with
      | other => simp [step,running] at stepped
      | prompt hostId fingerprint =>
        simp only [step,running] at stepped
        split at stepped
        next displayed =>
          exact Option.some.inj stepped ▸ .trustYes mid hostId fingerprint running displayed
        next => contradiction
  | trustNo =>
    cases running : chat.handler with
    | some handler => simp [step,running] at stepped
    | none =>
      simp only [step,running,Option.some.injEq] at stepped
      exact stepped ▸ .trustNo running
  | connCancel =>
    cases running : chat.handler with
    | some handler => simp [step,running] at stepped
    | none =>
      simp only [step,running,Option.some.injEq] at stepped
      exact stepped ▸ .connCancel running
  | proceed found =>
    cases running : chat.handler with
    | none => simp [step,running] at stepped
    | some handler =>
      simp only [step,running,Option.some.injEq] at stepped
      exact stepped ▸ .proceed found handler running
  | fail =>
    cases running : chat.handler with
    | none => simp [step,running] at stepped
    | some handler =>
      simp only [step,running,Option.some.injEq] at stepped
      exact stepped ▸ .fail handler running
  | interrupt => exact Option.some.inj stepped ▸ .interrupt
  | closeSession => exact Option.some.inj stepped ▸ .closeSession
  | draw mid => exact Option.some.inj stepped ▸ .draw mid
  | edited id done =>
    obtain ⟨task,found,went⟩ := Option.bind_eq_some_iff.mp stepped
    exact .edited id done task after found went
  | opened id outcome =>
    obtain ⟨task,found,went⟩ := Option.bind_eq_some_iff.mp stepped
    split at went
    next phase => exact Option.some.inj went ▸ .opened id outcome task found phase
    next => contradiction
  | launched id done =>
    obtain ⟨task,found,went⟩ := Option.bind_eq_some_iff.mp stepped
    split at went
    next phase => exact Option.some.inj went ▸ .launched id done task found phase
    next => contradiction
  | abandoned id =>
    obtain ⟨task,found,went⟩ := Option.bind_eq_some_iff.mp stepped
    split at went
    next phase => exact Option.some.inj went ▸ .abandoned id task found phase
    next => contradiction
  | crashed id =>
    obtain ⟨task,found,went⟩ := Option.map_eq_some_iff.mp stepped
    exact went ▸ .crashed id task found

end AtronixX.Registry
