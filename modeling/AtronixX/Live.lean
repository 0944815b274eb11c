import AtronixX.Database
import AtronixX.Errors
import AtronixX.Registry

/-! The live objects of one chat: the connections, sessions and browsers behind the
entries of `core/registry.py`, and the coroutines that pass them on and close them: the
handler of the chat, its connect tasks and render loops, and what housekeeping and the
admin do to it. Finer than `Registry`: a cancelled task still unwinds, and something else
may happen at every await. -/
namespace AtronixX.Live
open Library.Tables Database Errors
open Registry (Operation Attempt)

structure Host where
  id : Int
  ip : String
  port : Int
  hostFingerprint : Option String
  deriving DecidableEq, Repr

def hostOf (id : Int) (row : HostRow) : Host := ⟨id,row.ip,row.port,row.hostFingerprint⟩

/-- A connection goes by its number; so do the session and the browser made from it. -/
structure PendingTrust where
  host : Host
  connection : Nat
  fingerprint : String
  operation : Operation
  mid : Int
  deriving DecidableEq, Repr

/-- The await at which a connect task is. `_run_action`: not started yet, the edit to
`connecting`, `open_trusted`, the edit to its prompt, and the one that reports.
`_dispatch_pending`: not started yet. `launch_terminal`: the PTY, then the edit or the new
message of a session that is in `active_sessions` already. `launch_sftp`: the client,
`realpath`, the closing of the old browser, and `_render`. `launch_monitor`: the script, the
closing after it, and its edit. In `_dispatch`: `_close_conn` after an exception, of a
terminal whose session is in `active_sessions` too, `close_session`, and `_close_conn` of a
cancelled task. -/
inductive Phase
  | fresh
  | connecting
  | opening
  | prompting
  | reporting
  | handed (connection : Nat)
  | creating (connection : Nat)
  | editing (connection : Nat)
  | sending (connection : Nat)
  | starting (connection : Nat)
  | resolving (connection : Nat)
  | replacing (connection : Nat)
  | rendering (connection : Nat)
  | running (connection : Nat)
  | releasing (connection : Nat) (failed : Bool)
  | showing (connection : Nat)
  | abandoning
  | failing
  | ending
  | unwinding
  deriving DecidableEq, Repr

structure Task where
  host : Host
  operation : Operation
  mid : Int
  phase : Phase
  cancelled : Bool
  deriving DecidableEq, Repr

/-- The await at which a render loop is: its sleep, the edit of the live message, the edit
of `close_with_notice` for a session it found closed, and what comes after the close. -/
inductive Loop
  | sleeping
  | drawing
  | noticing (session : Nat)
  | leaving
  deriving DecidableEq, Repr

/-- What another chat's handler or housekeeping is about to do to this chat: the rest of
the `reset_chat` of a ban or a deletion; what follows a look at the session or the browser,
with what will be found out about it; a close that waits for the edit of
`close_with_notice`. -/
inductive Closer
  | discarding
  | closingSftp
  | examined (session : Nat) (ends : Bool)
  | noticing (session : Nat)
  | examinedSftp (browser : Nat) (ends : Bool)
  deriving DecidableEq, Repr

inductive Follow
  | connect (host : Host) (operation : Operation) (mid : Int)
  | leave (keepTerminal : Bool)
  deriving DecidableEq, Repr

/-- A statement on the host rows, with the fields that `_edit_text` gives `update_host`. -/
inductive HostStatement
  | update (id : Int) (columns : List HostColumn)
  | insert (row : HostRow)
  | delete (id : Int)
  deriving DecidableEq, Repr

/-- The await at which the handler of the chat is. `start_action`: `close_session`,
`get_max_live`, `q.answer`, `get_host_decrypted`. `reset_chat`: the closing of the pending
connection and of the browser. `cb_trust_yes`: `q.answer` and `set_host_fingerprint`. Then
`q.answer` of `trust:no`, `conn:cancel` and the two exit buttons, and the statement of an
edit, of the wizard or of a deletion. The last awaits change nothing here. -/
inductive Handler
  | closing (attempt : Attempt)
  | counting (attempt : Attempt)
  | answering (attempt : Attempt)
  | loading (attempt : Attempt)
  | discarding (follow : Follow)
  | closingSftp (follow : Follow)
  | approving (pending : PendingTrust) (mid : Int)
  | storing (pending : PendingTrust) (mid : Int)
  | declining
  | cancelling
  | exitingTerminal
  | exitingSftp
  | writing (statement : HostStatement)
  | finishing
  deriving DecidableEq, Repr

structure Presented where
  host : Host
  fingerprint : String
  deriving DecidableEq, Repr

/-- A close decided for the object in `examined`, and the object it ended. -/
structure Closing where
  examined : Nat
  ended : Option Nat
  deriving DecidableEq, Repr

/-- The entries of one chat, its coroutines by number, and as history the fingerprints that
servers presented, those the user approved, and the closes of housekeeping, of the admin
and of the render loops. -/
structure Chat where
  owner : Int
  tables : Tables
  opened : Nat
  closed : List Nat
  session : Option Nat
  liveMessage : Option Int
  renderTask : Option Nat
  pendingTrust : Option PendingTrust
  sftp : Option Nat
  connecting : Option Nat
  handler : Option Handler
  tasks : Table Nat Task
  loops : Table Nat Loop
  closers : Table Nat Closer
  next : Nat
  presented : List Presented
  approvals : List Presented
  closings : List Closing

def idleChat (owner : Int) (tables : Tables) : Chat :=
  ⟨owner,tables,0,[],none,none,none,none,none,none,none,∅,∅,∅,0,[],[],[]⟩

/-- `conn.close()`; waiting for its end is an await of the caller. -/
def closeConn (connection : Nat) (chat : Chat) : Chat :=
  {chat with closed := connection :: chat.closed}

/-- A cancelled render loop returns from its await. -/
def cancelLoop (self : Option Nat) (chat : Chat) : Table Nat Loop :=
  match chat.renderTask with
  | none => chat.loops
  | some id => if self = some id then chat.loops else chat.loops.erase id

/-- `close_session`, called by the render loop `self` or by another coroutine. -/
def closeSession (self : Option Nat) (chat : Chat) : Chat :=
  {chat with
    session := none
    renderTask := none
    liveMessage := none
    loops := cancelLoop self chat
    closed := chat.session.toList ++ chat.closed}

def discardPendingTrust (chat : Chat) : Chat :=
  {chat with
    pendingTrust := none
    closed := (chat.pendingTrust.map PendingTrust.connection).toList ++ chat.closed}

/-- `close_sftp`: when `exit` of the client raises, `close` is not reached. -/
def closeSftp (raises : Bool) (chat : Chat) : Chat :=
  {chat with
    sftp := none
    closed := if raises then chat.closed else chat.sftp.toList ++ chat.closed}

def cancelTask (id : Nat) (chat : Chat) : Chat :=
  {chat with
    tasks := updateWhere (fun key _ => key == id) (fun task => {task with cancelled := true})
      chat.tasks}

def cancelConnecting (chat : Chat) : Chat :=
  match chat.connecting with
  | none => chat
  | some id => {cancelTask id chat with connecting := none}

def wait (handler : Handler) (chat : Chat) : Chat := {chat with handler := some handler}

/-- `reset_chat` up to its first await. -/
def resetChat (chat : Chat) : Chat := discardPendingTrust (cancelConnecting chat)

def createTask (task : Task) (chat : Chat) : Chat :=
  {chat with
    tasks := chat.tasks.insert chat.next task
    next := chat.next + 1
    connecting := some chat.next}

def setPhase (id : Nat) (task : Task) (phase : Phase) (chat : Chat) : Chat :=
  {chat with tasks := chat.tasks.insert id {task with phase := phase}}

def dropTask (id : Nat) (chat : Chat) : Chat := {chat with tasks := chat.tasks.erase id}

def endTask (id : Nat) (chat : Chat) : Chat :=
  {dropTask id chat with
    connecting := if chat.connecting = some id then none else chat.connecting}

/-- The first await of the action of a task. -/
def entry (operation : Operation) (connection : Nat) : Phase :=
  match operation with
  | .terminal => .creating connection
  | .sftp => .starting connection
  | .monitor => .running connection

/-- What `open_trusted` compares: an empty stored fingerprint counts as none. -/
def Host.trusts (host : Host) (fingerprint : String) : Prop :=
  host.hostFingerprint = some fingerprint ∧ fingerprint ≠ ""

instance (host : Host) (fingerprint : String) : Decidable (host.trusts fingerprint) :=
  inferInstanceAs (Decidable (_ ∧ _))

/-- `open_trusted` returns, or raises: `HostKeyUntrusted` with the connection in it, or
without any. -/
def opened (id : Nat) (task : Task) (fingerprint : Option String) (chat : Chat) : Chat :=
  match fingerprint with
  | none => setPhase id task .reporting chat
  | some fingerprint =>
    let connected := {chat with
      opened := chat.opened + 1
      presented := ⟨task.host,fingerprint⟩ :: chat.presented}
    if task.host.trusts fingerprint then
      setPhase id task (entry task.operation chat.opened) connected
    else setPhase id task .prompting {connected with
      pendingTrust := some ⟨task.host,chat.opened,fingerprint,task.operation,task.mid⟩}

/-- `_dispatch` after an exception of its action. -/
def abandon (id : Nat) (task : Task) (connection : Nat) (chat : Chat) : Chat :=
  setPhase id task .abandoning (closeConn connection chat)

/-- The end of `launch_terminal`. -/
def launched (id : Nat) (mid : Int) (chat : Chat) : Chat :=
  endTask id {chat with
    liveMessage := some mid
    renderTask := some chat.next
    loops := chat.loops.insert chat.next .sleeping
    next := chat.next + 1}

/-- How an await returns: `ok` unless it raised (a `False` of `ui.edit`), whether `exit` of
an SFTP client that is closed next raises, the id of a message that was sent, and whether
`_compose`, where it comes next, returns: `display` of pyte raises on some screens. -/
structure Answer where
  ok : Bool
  raises : Bool
  mid : Int
  composes : Bool
  deriving DecidableEq, Repr

/-- A task that is not cancelled goes on from its await. -/
def advance (id : Nat) (task : Task) (answer : Answer) (chat : Chat) : Option Chat :=
  match task.phase with
  | .fresh => some (setPhase id task .connecting chat)
  | .connecting => some (setPhase id task .opening chat)
  | .opening => none
  | .prompting => some (endTask id chat)
  | .reporting => some (endTask id chat)
  | .handed connection => some (setPhase id task (entry task.operation connection) chat)
  | .creating connection =>
    if answer.ok then
      some (setPhase id task (.editing connection) {chat with session := some connection})
    else some (abandon id task connection chat)
  | .editing connection =>
    if answer.ok then some (launched id task.mid chat)
    else if answer.composes then some (setPhase id task (.sending connection) chat)
    else some (setPhase id task .failing (closeConn connection chat))
  | .sending _ => some (launched id (if answer.ok then answer.mid else task.mid) chat)
  | .starting connection =>
    if answer.ok then some (setPhase id task (.resolving connection) chat)
    else some (abandon id task connection chat)
  | .resolving connection =>
    if answer.ok then
      some (setPhase id task (.replacing connection) (closeSftp answer.raises chat))
    else some (abandon id task connection chat)
  | .replacing connection =>
    some (setPhase id task (.rendering connection) {chat with sftp := some connection})
  | .rendering _ => some (endTask id chat)
  | .running connection =>
    some (setPhase id task (.releasing connection (!answer.ok)) (closeConn connection chat))
  | .releasing connection failed =>
    if failed then some (abandon id task connection chat)
    else some (setPhase id task (.showing connection) chat)
  | .showing _ => some (endTask id chat)
  | .abandoning =>
    if task.operation = .terminal then some (setPhase id task .ending (closeSession none chat))
    else some (setPhase id task .reporting chat)
  | .failing => some (setPhase id task .ending (closeSession none chat))
  | .ending => some (setPhase id task .reporting chat)
  | .unwinding => some (endTask id chat)

/-- The connection that `_dispatch` closes when its task is cancelled. -/
def inHand : Phase → Option Nat
  | .creating connection => some connection
  | .editing connection => some connection
  | .sending connection => some connection
  | .starting connection => some connection
  | .resolving connection => some connection
  | .replacing connection => some connection
  | .rendering connection => some connection
  | .running connection => some connection
  | .releasing connection _ => some connection
  | .showing connection => some connection
  | _ => none

/-- A task that is cancelled before its first step never runs. -/
def unstarted : Phase → Bool
  | .fresh => true
  | .handed _ => true
  | _ => false

/-- `CancelledError` is raised at the await of a cancelled task. -/
def unwind (id : Nat) (task : Task) (chat : Chat) : Chat :=
  if unstarted task.phase then dropTask id chat
  else match inHand task.phase with
    | some connection =>
      setPhase id {task with cancelled := false} .unwinding (closeConn connection chat)
    | none => endTask id chat

/-- An update of the chat, with what its handler finds out before its first await. -/
inductive Update
  | start (attempt : Attempt) (force allowed closed : Bool)
  | connCancel
  | trustYes (mid : Int)
  | trustNo
  | reset (keepTerminal : Bool)
  | exitTerminal
  | exitSftp
  | write (statement : HostStatement)
  deriving DecidableEq, Repr

/-- `start_action` up to its first await. -/
def startAction (attempt : Attempt) (force allowed closed : Bool) (chat : Chat) : Chat :=
  if !allowed then wait .finishing chat
  else if attempt.operation ≠ .terminal then wait (.answering attempt) chat
  else match chat.session with
    | none => wait (.counting attempt) chat
    | some _ =>
      if !closed && !force then wait .finishing chat
      else wait (.closing attempt) (closeSession none chat)

/-- `cb_trust_yes` up to its first await. -/
def cbTrustYes (mid : Int) (chat : Chat) : Chat :=
  match chat.pendingTrust with
  | none => wait .finishing chat
  | some pending => wait (.approving pending mid)
      {chat with
        pendingTrust := none
        approvals := ⟨pending.host,pending.fingerprint⟩ :: chat.approvals}

def begin (update : Update) (chat : Chat) : Chat :=
  match update with
  | .start attempt force allowed closed => startAction attempt force allowed closed chat
  | .connCancel => wait .cancelling chat
  | .trustYes mid => cbTrustYes mid chat
  | .trustNo => wait .declining chat
  | .reset keepTerminal => wait (.discarding (.leave keepTerminal)) (resetChat chat)
  | .exitTerminal => wait .exitingTerminal chat
  | .exitSftp => wait .exitingSftp chat
  | .write statement => wait (.writing statement) chat

/-- `none` when the statement raises. -/
def HostStatement.run (owner : Int) (statement : HostStatement) (tables : Tables) :
    Option Tables :=
  match statement with
  | .update id columns => updateHost id owner columns tables
  | .insert row => some (insertHost row tables)
  | .delete id => some (deleteHost id owner tables)

/-- `cb_trust_yes` after `set_host_fingerprint`. -/
def approve (pending : PendingTrust) (mid : Int) (chat : Chat) : Chat :=
  createTask ⟨{pending.host with hostFingerprint := some pending.fingerprint},
      pending.operation,mid,.handed pending.connection,false⟩
    {chat with
      handler := none
      tables := setHostFingerprint pending.host.id pending.fingerprint chat.tables}

def proceed (handler : Handler) (answer : Answer) (chat : Chat) : Chat :=
  match handler with
  | .closing attempt => wait (.counting attempt) chat
  | .counting attempt => if answer.ok then wait (.answering attempt) chat else wait .finishing chat
  | .answering attempt => wait (.loading attempt) chat
  | .loading attempt => match getHost attempt.hostId chat.owner chat.tables with
    | none => wait .finishing chat
    | some row => wait (.discarding
        (.connect (hostOf attempt.hostId row) attempt.operation attempt.mid)) (resetChat chat)
  | .discarding follow => wait (.closingSftp follow) (closeSftp answer.raises chat)
  | .closingSftp (.connect host operation mid) =>
    createTask ⟨host,operation,mid,.fresh,false⟩ {chat with handler := none}
  | .closingSftp (.leave keepTerminal) =>
    wait .finishing (if keepTerminal then chat else closeSession none chat)
  | .approving pending mid => wait (.storing pending mid) chat
  | .storing pending mid => approve pending mid chat
  | .declining => wait .finishing (discardPendingTrust chat)
  | .cancelling => wait .finishing (cancelConnecting chat)
  | .exitingTerminal => wait .finishing (closeSession none chat)
  | .exitingSftp => wait .finishing (closeSftp answer.raises chat)
  | .writing statement =>
    {chat with
      handler := (statement.run chat.owner chat.tables).map (fun _ => .finishing)
      tables := (statement.run chat.owner chat.tables).getD chat.tables}
  | .finishing => {chat with handler := none}

/-- The awaits of a handler that may raise; closing swallows what it meets. -/
def mayFail : Handler → Bool
  | .closing _ => false
  | .discarding _ => false
  | .closingSftp _ => false
  | _ => true

def dropCloser (id : Nat) (chat : Chat) : Chat := {chat with closers := chat.closers.erase id}

def addCloser (closer : Closer) (chat : Chat) : Chat :=
  {chat with closers := chat.closers.insert chat.next closer, next := chat.next + 1}

/-- The `close_session` of `close_with_notice`. -/
def closeNoticed (self : Option Nat) (examined : Nat) (chat : Chat) : Chat :=
  {closeSession self chat with closings := ⟨examined,chat.session⟩ :: chat.closings}

/-- `close_with_notice` edits the live message first when there is one. -/
def announces (chat : Chat) : Bool := chat.session.isSome && chat.liveMessage.isSome

def outside (id : Nat) (closer : Closer) (answer : Answer) (chat : Chat) : Chat :=
  match closer with
  | .discarding =>
    {closeSftp answer.raises chat with closers := chat.closers.insert id .closingSftp}
  | .closingSftp => dropCloser id (closeSession none chat)
  | .examined session ends =>
    if !ends then dropCloser id chat
    else if announces chat then
      if answer.composes then {chat with closers := chat.closers.insert id (.noticing session)}
      else dropCloser id chat
    else dropCloser id (closeNoticed none session chat)
  | .noticing session => dropCloser id (closeNoticed none session chat)
  | .examinedSftp browser ends =>
    if !ends then dropCloser id chat
    else dropCloser id {closeSftp answer.raises chat with
      closings := ⟨browser,chat.sftp⟩ :: chat.closings}

def setLoop (id : Nat) (loop : Loop) (chat : Chat) : Chat :=
  {chat with loops := chat.loops.insert id loop}

def dropLoop (id : Nat) (chat : Chat) : Chat := {chat with loops := chat.loops.erase id}

/-- What the render loop finds after its sleep. With `raised` there is a new output, or the
end and a live message, on a screen of which `_compose` gives no text. -/
inductive Tick
  | closed
  | unchanged
  | changed
  | raised
  deriving DecidableEq, Repr

def ticked (id : Nat) (tick : Tick) (chat : Chat) : Chat :=
  match chat.session with
  | none => dropLoop id chat
  | some session => match tick with
    | .unchanged => chat
    | .closed =>
      if announces chat then setLoop id (.noticing session) chat
      else setLoop id .leaving (closeNoticed (some id) session chat)
    | .changed =>
      if chat.liveMessage.isSome then setLoop id .drawing chat else dropLoop id chat
    | .raised => dropLoop id chat

/-- The errors of its edit that the render loop catches. -/
def caught : TelegramError → Bool
  | .forbidden => false
  | .other => false
  | _ => true

def drawn (id : Nat) (error : Option TelegramError) (chat : Chat) : Chat :=
  if error.all caught then setLoop id .sleeping chat else dropLoop id chat

inductive Event
  | update (update : Update)
  | proceed (answer : Answer)
  | fail
  | cancel (task : Nat)
  | advance (task : Nat) (answer : Answer)
  | opened (task : Nat) (fingerprint : Option String)
  | unwind (task : Nat)
  | ban
  | examine (ends : Bool)
  | examineSftp (ends : Bool)
  | outside (closer : Nat) (answer : Answer)
  | ticked (loop : Nat) (tick : Tick)
  | drawn (loop : Nat) (error : Option TelegramError)
  | noticed (loop : Nat)
  | left (loop : Nat)
  deriving DecidableEq, Repr

def step (chat : Chat) (event : Event) : Option Chat :=
  match event with
  | .update update => if chat.handler = none then some (begin update chat) else none
  | .proceed answer => chat.handler.map (fun handler => proceed handler answer chat)
  | .fail => if chat.handler.any mayFail then some {chat with handler := none} else none
  | .cancel id => some (cancelTask id chat)
  | .advance id answer => (chat.tasks.lookup id).bind (fun task =>
    if task.cancelled then none else advance id task answer chat)
  | .opened id fingerprint => (chat.tasks.lookup id).bind (fun task =>
    if task.phase = .opening ∧ task.cancelled = false then
      some (opened id task fingerprint chat) else none)
  | .unwind id => (chat.tasks.lookup id).bind (fun task =>
    if task.cancelled then some (unwind id task chat) else none)
  | .ban => some (addCloser .discarding (resetChat chat))
  | .examine ends => chat.session.map (fun session => addCloser (.examined session ends) chat)
  | .examineSftp ends =>
    chat.sftp.map (fun browser => addCloser (.examinedSftp browser ends) chat)
  | .outside id answer =>
    (chat.closers.lookup id).map (fun closer => outside id closer answer chat)
  | .ticked id tick => if chat.loops.lookup id = some .sleeping then
    some (ticked id tick chat) else none
  | .drawn id error => if chat.loops.lookup id = some .drawing then
    some (drawn id error chat) else none
  | .noticed id => (chat.loops.lookup id).bind (fun loop => match loop with
    | .noticing session => some (setLoop id .leaving (closeNoticed (some id) session chat))
    | _ => none)
  | .left id => if chat.loops.lookup id = some .leaving then some (dropLoop id chat) else none

inductive Taken (chat : Chat) : Event → Chat → Prop
  | update (update : Update) (free : chat.handler = none) :
    Taken chat (.update update) (begin update chat)
  | proceed (answer : Answer) (handler : Handler) (running : chat.handler = some handler) :
    Taken chat (.proceed answer) (proceed handler answer chat)
  | fail (handler : Handler) (running : chat.handler = some handler)
    (may : mayFail handler = true) : Taken chat .fail {chat with handler := none}
  | cancel (id : Nat) : Taken chat (.cancel id) (cancelTask id chat)
  | advance (id : Nat) (answer : Answer) (task : Task) (after : Chat)
    (found : chat.tasks.lookup id = some task) (alive : task.cancelled = false)
    (went : advance id task answer chat = some after) : Taken chat (.advance id answer) after
  | opened (id : Nat) (fingerprint : Option String) (task : Task)
    (found : chat.tasks.lookup id = some task) (alive : task.cancelled = false)
    (phase : task.phase = .opening) :
    Taken chat (.opened id fingerprint) (opened id task fingerprint chat)
  | unwind (id : Nat) (task : Task) (found : chat.tasks.lookup id = some task)
    (cancelled : task.cancelled = true) : Taken chat (.unwind id) (unwind id task chat)
  | ban : Taken chat .ban (addCloser .discarding (resetChat chat))
  | examine (ends : Bool) (session : Nat) (stored : chat.session = some session) :
    Taken chat (.examine ends) (addCloser (.examined session ends) chat)
  | examineSftp (ends : Bool) (browser : Nat) (stored : chat.sftp = some browser) :
    Taken chat (.examineSftp ends) (addCloser (.examinedSftp browser ends) chat)
  | outside (id : Nat) (answer : Answer) (closer : Closer)
    (found : chat.closers.lookup id = some closer) :
    Taken chat (.outside id answer) (outside id closer answer chat)
  | ticked (id : Nat) (tick : Tick) (found : chat.loops.lookup id = some .sleeping) :
    Taken chat (.ticked id tick) (ticked id tick chat)
  | drawn (id : Nat) (error : Option TelegramError)
    (found : chat.loops.lookup id = some .drawing) :
    Taken chat (.drawn id error) (drawn id error chat)
  | noticed (id session : Nat) (found : chat.loops.lookup id = some (.noticing session)) :
    Taken chat (.noticed id) (setLoop id .leaving (closeNoticed (some id) session chat))
  | left (id : Nat) (found : chat.loops.lookup id = some .leaving) :
    Taken chat (.left id) (dropLoop id chat)

theorem taken_of_step {chat after : Chat} {event : Event}
    (stepped : step chat event = some after) : Taken chat event after := by
  cases event with
  | update update =>
    simp only [step] at stepped
    split at stepped
    next free => exact Option.some.inj stepped ▸ .update update free
    next => contradiction
  | proceed answer =>
    obtain ⟨handler,running,rfl⟩ := Option.map_eq_some_iff.mp stepped
    exact .proceed answer handler running
  | fail =>
    simp only [step] at stepped
    split at stepped
    next may =>
      obtain ⟨handler,running,may⟩ := (Option.any_eq_true _ _).mp may
      exact Option.some.inj stepped ▸ .fail handler running may
    next => contradiction
  | cancel id => exact Option.some.inj stepped ▸ .cancel id
  | advance id answer =>
    obtain ⟨task,found,went⟩ := Option.bind_eq_some_iff.mp stepped
    cases alive : task.cancelled with
    | true => simp [alive] at went
    | false =>
      simp only [alive,Bool.false_eq_true,if_false] at went
      exact .advance id answer task after found alive went
  | opened id fingerprint =>
    obtain ⟨task,found,went⟩ := Option.bind_eq_some_iff.mp stepped
    split at went
    next at_ => exact Option.some.inj went ▸ .opened id fingerprint task found at_.2 at_.1
    next => contradiction
  | unwind id =>
    obtain ⟨task,found,went⟩ := Option.bind_eq_some_iff.mp stepped
    split at went
    next cancelled => exact Option.some.inj went ▸ .unwind id task found cancelled
    next => contradiction
  | ban => exact Option.some.inj stepped ▸ .ban
  | examine ends =>
    obtain ⟨session,stored,rfl⟩ := Option.map_eq_some_iff.mp stepped
    exact .examine ends session stored
  | examineSftp ends =>
    obtain ⟨browser,stored,rfl⟩ := Option.map_eq_some_iff.mp stepped
    exact .examineSftp ends browser stored
  | outside id answer =>
    obtain ⟨closer,found,rfl⟩ := Option.map_eq_some_iff.mp stepped
    exact .outside id answer closer found
  | ticked id tick =>
    simp only [step] at stepped
    split at stepped
    next found => exact Option.some.inj stepped ▸ .ticked id tick found
    next => contradiction
  | drawn id error =>
    simp only [step] at stepped
    split at stepped
    next found => exact Option.some.inj stepped ▸ .drawn id error found
    next => contradiction
  | noticed id =>
    obtain ⟨loop,found,went⟩ := Option.bind_eq_some_iff.mp stepped
    split at went
    next session => exact Option.some.inj went ▸ .noticed id session found
    next => contradiction
  | left id =>
    simp only [step] at stepped
    split at stepped
    next found => exact Option.some.inj stepped ▸ .left id found
    next => contradiction

inductive Moves (operation : Operation) : Phase → Phase → Prop
  | connecting : Moves operation .fresh .connecting
  | opening : Moves operation .connecting .opening
  | entering (connection : Nat) :
    Moves operation (.handed connection) (entry operation connection)
  | sending (connection : Nat) : Moves operation (.editing connection) (.sending connection)
  | resolving (connection : Nat) : Moves operation (.starting connection) (.resolving connection)
  | showing (connection : Nat) :
    Moves operation (.releasing connection false) (.showing connection)
  | reporting : Moves operation .abandoning .reporting
  | ended : Moves operation .ending .reporting

inductive Last : Phase → Prop
  | prompting : Last .prompting
  | reporting : Last .reporting
  | rendering (connection : Nat) : Last (.rendering connection)
  | showing (connection : Nat) : Last (.showing connection)
  | unwinding : Last .unwinding

inductive Raising : Phase → Nat → Prop
  | creating (connection : Nat) : Raising (.creating connection) connection
  | starting (connection : Nat) : Raising (.starting connection) connection
  | resolving (connection : Nat) : Raising (.resolving connection) connection
  | releasing (connection : Nat) : Raising (.releasing connection true) connection

inductive Advanced (id : Nat) (task : Task) (answer : Answer) (chat : Chat) : Chat → Prop
  | moved (phase : Phase) (moves : Moves task.operation task.phase phase) :
    Advanced id task answer chat (setPhase id task phase chat)
  | ended (last : Last task.phase) : Advanced id task answer chat (endTask id chat)
  | raised (connection : Nat) (raising : Raising task.phase connection) :
    Advanced id task answer chat (abandon id task connection chat)
  | stored (connection : Nat) (phase : task.phase = .creating connection)
    (ok : answer.ok = true) : Advanced id task answer chat
      (setPhase id task (.editing connection) {chat with session := some connection})
  | launched (mid : Int) (connection : Nat)
    (phase : task.phase = .editing connection ∨ task.phase = .sending connection) :
    Advanced id task answer chat (launched id mid chat)
  | emptied (connection : Nat) (phase : task.phase = .resolving connection)
    (ok : answer.ok = true) : Advanced id task answer chat
      (setPhase id task (.replacing connection) (closeSftp answer.raises chat))
  | browsing (connection : Nat) (phase : task.phase = .replacing connection) :
    Advanced id task answer chat
      (setPhase id task (.rendering connection) {chat with sftp := some connection})
  | released (connection : Nat) (phase : task.phase = .running connection) :
    Advanced id task answer chat
      (setPhase id task (.releasing connection (!answer.ok)) (closeConn connection chat))
  | failed (connection : Nat) (phase : task.phase = .editing connection) :
    Advanced id task answer chat (setPhase id task .failing (closeConn connection chat))
  | closed (phase : task.phase = .abandoning ∧ task.operation = .terminal ∨
      task.phase = .failing) :
    Advanced id task answer chat (setPhase id task .ending (closeSession none chat))

theorem advanced_of_advance {chat after : Chat} {id : Nat} {task : Task} {answer : Answer}
    (went : advance id task answer chat = some after) : Advanced id task answer chat after := by
  unfold advance at went
  split at went
  next phase => exact Option.some.inj went ▸ .moved _ (phase ▸ .connecting)
  next phase => exact Option.some.inj went ▸ .moved _ (phase ▸ .opening)
  next => contradiction
  next phase => exact Option.some.inj went ▸ .ended (phase ▸ .prompting)
  next phase => exact Option.some.inj went ▸ .ended (phase ▸ .reporting)
  next connection phase => exact Option.some.inj went ▸ .moved _ (phase ▸ .entering connection)
  next connection phase =>
    split at went
    next ok => exact Option.some.inj went ▸ .stored connection phase ok
    next => exact Option.some.inj went ▸ .raised connection (phase ▸ .creating connection)
  next connection phase =>
    split at went
    next => exact Option.some.inj went ▸ .launched _ connection (.inl phase)
    next =>
      split at went
      next => exact Option.some.inj went ▸ .moved _ (phase ▸ .sending connection)
      next => exact Option.some.inj went ▸ .failed connection phase
  next connection phase => exact Option.some.inj went ▸ .launched _ connection (.inr phase)
  next connection phase =>
    split at went
    next => exact Option.some.inj went ▸ .moved _ (phase ▸ .resolving connection)
    next => exact Option.some.inj went ▸ .raised connection (phase ▸ .starting connection)
  next connection phase =>
    split at went
    next ok => exact Option.some.inj went ▸ .emptied connection phase ok
    next => exact Option.some.inj went ▸ .raised connection (phase ▸ .resolving connection)
  next connection phase => exact Option.some.inj went ▸ .browsing connection phase
  next connection phase => exact Option.some.inj went ▸ .ended (phase ▸ .rendering connection)
  next connection phase => exact Option.some.inj went ▸ .released connection phase
  next connection failed phase =>
    split at went
    next raised =>
      subst raised
      exact Option.some.inj went ▸ .raised connection (phase ▸ .releasing connection)
    next returned =>
      obtain rfl := Bool.eq_false_iff.mpr returned
      exact Option.some.inj went ▸ .moved _ (phase ▸ .showing connection)
  next connection phase => exact Option.some.inj went ▸ .ended (phase ▸ .showing connection)
  next phase =>
    split at went
    next terminal => exact Option.some.inj went ▸ .closed (.inl ⟨phase,terminal⟩)
    next => exact Option.some.inj went ▸ .moved _ (phase ▸ .reporting)
  next phase => exact Option.some.inj went ▸ .closed (.inr phase)
  next phase => exact Option.some.inj went ▸ .moved _ (phase ▸ .ended)
  next phase => exact Option.some.inj went ▸ .ended (phase ▸ .unwinding)

def hostWith (fingerprint : Option String) : Tables :=
  insertHost ⟨7,"web","8.8.8.8",22,"root","password",.text "",none,fingerprint,none,false,0⟩ empty

def oneHost : Tables := hostWith none

def trustedHost : Tables := hostWith (some "SHA256:k")

def done : Answer := ⟨true,false,6,true⟩

def prompting : List Event :=
  [.update (.start ⟨1,.sftp,5⟩ false true false),.proceed done,.proceed done,.proceed done,
    .proceed done,.advance 0 done,.advance 0 done,.opened 0 (some "SHA256:k"),.advance 0 done]

end AtronixX.Live
