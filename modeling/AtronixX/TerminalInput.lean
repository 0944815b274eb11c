import AtronixX.Library.Transition
import AtronixX.Library.Tables
import AtronixX.Crypto

/-! What one chat types into its terminals: `handle_text`, `cb_control_pad`, `cb_snip_run`, and the
`send_` methods of `TerminalSession`. The updates of the chat wait in line and run one after
another; sessions are opened and closed beside them, at every await. -/
namespace AtronixX.TerminalInput
open Library.Transition Library.Tables Library.Sealed

def joinCrLf : List Char → List Char
  | '\r' :: '\n' :: rest => '\n' :: joinCrLf rest
  | char :: rest => char :: joinCrLf rest
  | [] => []

def toCr (text : List Char) : List Char := text.map fun char => if char = '\n' then '\r' else char

/-- `send_text` of a message or a command. -/
def line (text : String) : Bytes :=
  Crypto.utf8 (String.ofList (toCr (joinCrLf text.toList)) ++ "\r")

def keyCode (action : String) : Option Bytes :=
  match action with
  | "ctrlc" => some [0x03]
  | "ctrld" => some [0x04]
  | "tab" => some [0x09]
  | "esc" => some [0x1b]
  | "up" => some [0x1b,0x5b,0x41]
  | "down" => some [0x1b,0x5b,0x42]
  | "right" => some [0x1b,0x5b,0x43]
  | "left" => some [0x1b,0x5b,0x44]
  | "enter" => some [0x0d]
  | "clear" => some [0x0c]
  | _ => none

/-- The lines of a text, whichever way they end. -/
def lines : List Char → List (List Char)
  | [] => [[]]
  | '\r' :: '\n' :: rest => [] :: lines rest
  | char :: rest =>
    if char = '\n' ∨ char = '\r' then [] :: lines rest
    else match lines rest with
      | [] => [[char]]
      | first :: others => (char :: first) :: others

private theorem toCr_joinCrLf (text : List Char) :
    toCr (joinCrLf text) ++ ['\r'] = (lines text).flatMap fun line => line ++ ['\r'] := by
  induction text using lines.induct with
  | case1 => rfl
  | case2 rest ih =>
    rw [joinCrLf,lines,List.flatMap_cons,← ih]
    rfl
  | case3 char rest plain ends ih =>
    rw [joinCrLf.eq_2 _ _ plain,lines.eq_3 _ _ plain,if_pos ends,List.flatMap_cons,← ih]
    have replaced : (if char = '\n' then '\r' else char) = '\r' := by
      rcases ends with rfl | rfl <;> rfl
    simp only [toCr,List.map_cons,replaced]
    rfl
  | case4 char rest plain ends none ih =>
    rw [none] at ih
    exact absurd ih (by simp)
  | case5 char rest plain ends first others is ih =>
    have kept : char ≠ '\n' := fun same => ends (.inl same)
    rw [is,List.flatMap_cons] at ih
    rw [joinCrLf.eq_2 _ _ plain,lines.eq_3 _ _ plain,if_neg ends,is,List.flatMap_cons,
      List.cons_append,List.cons_append,← ih]
    simp [toCr,kept]

theorem line_eq (text : String) : line text =
    Crypto.utf8 (String.ofList ((lines text.toList).flatMap fun line => line ++ ['\r'])) := by
  rw [← toCr_joinCrLf,String.ofList_append]
  rfl

/-- An update, as far as the terminal is concerned. -/
inductive Input
  | text (message : String)
  | pad (action : String)
  | snippet (sid : Int)
  | other
  deriving DecidableEq, Repr

/-- `final` is history: what had been typed when the session was closed. -/
structure Session where
  closed : Bool
  stdin : Bytes
  final : Option Bytes
  deriving DecidableEq, Repr

/-- The await at which the running update is: a `flow_text` of `on_text`, `q.answer` of a key or of
`exit`, `db.get_snippet`, or anything after which nothing is typed any more. -/
inductive Stage
  | routing (message : String)
  | answering (session : Nat) (action : String)
  | loading (session : Nat) (sid : Int)
  | finishing
  deriving DecidableEq, Repr

/-- What a running update wrote, and to which session. -/
structure Typed where
  update : Nat
  session : Nat
  bytes : Bytes
  deriving DecidableEq, Repr

/-- Sessions go by their number, updates by theirs; the snippets are those of the user. The last
five fields are history: the updates that came, which of them found which open session to type
into, what `get_snippet` answered to which, those whose await raised or was cut off, and what was
typed, the last first. -/
structure Shell where
  snippets : Table Int String
  sessions : Table Nat Session
  nextSession : Nat
  active : Option Nat
  inbox : List (Nat × Input)
  handler : Option (Nat × Stage)
  arrived : List Input
  looked : List (Nat × Nat)
  fetched : List (Nat × Int × Option String)
  dropped : List Nat
  typed : List Typed

def idle : Shell := ⟨∅,∅,0,none,[],none,[],[],[],[],[]⟩

/-- An update comes in; the next one begins; a flow takes the text or none does, `q.answer` or
`get_snippet` returns, the await raises or the task is cancelled, or the handler is through; a
snippet is saved or deleted; `launch_terminal` puts a session into `active_sessions`,
`close_session` takes it out, and the read loop of a session ends. -/
inductive Event
  | arrive (input : Input)
  | begin
  | taken
  | untaken
  | answered
  | found
  | raise
  | finish
  | save (sid : Int) (command : String)
  | discard (sid : Int)
  | launch
  | close
  | ended (session : Nat)
  deriving DecidableEq, Repr

/-- `registry.active_sessions.get(chat_id)`, if it is not closed. -/
def open? (shell : Shell) : Option Nat :=
  shell.active.filter fun id => (shell.sessions.lookup id).any fun session => !session.closed

def Session.send (bytes : Bytes) (session : Session) : Session :=
  if session.closed then session else {session with stdin := session.stdin ++ bytes}

def Session.close (session : Session) : Session :=
  {session with
    closed := true
    final := if session.closed then session.final else some session.stdin}

def onSession (id : Nat) (change : Session → Session) (shell : Shell) : Shell :=
  {shell with sessions := updateWhere (fun key _ => key == id) change shell.sessions}

def wait (update : Nat) (stage : Stage) (shell : Shell) : Shell :=
  {shell with handler := some (update,stage)}

def send (update id : Nat) (bytes : Bytes) (shell : Shell) : Shell :=
  {onSession id (·.send bytes) shell with
    typed := if (shell.sessions.lookup id).any (fun session => !session.closed) then
      ⟨update,id,bytes⟩ :: shell.typed else shell.typed}

def look (update id : Nat) (shell : Shell) : Shell :=
  {shell with looked := (update,id) :: shell.looked}

def drop (update : Nat) (shell : Shell) : Shell := {shell with dropped := update :: shell.dropped}

def closeSession (shell : Shell) : Shell :=
  match shell.active with
  | none => shell
  | some id => {onSession id Session.close shell with active := none}

def start (update : Nat) (input : Input) (shell : Shell) : Shell :=
  match input,open? shell with
  | .text message,_ => wait update (.routing message) shell
  | .pad action,some id =>
    if (keyCode action).isSome then wait update (.answering id action) (look update id shell)
    else if action = "exit" then wait update (.answering id action) shell
    else wait update .finishing shell
  | .snippet sid,some id => wait update (.loading id sid) (look update id shell)
  | _,_ => wait update .finishing shell

def handleText (update : Nat) (message : String) (shell : Shell) : Shell :=
  match open? shell with
  | none => wait update .finishing shell
  | some id => wait update .finishing (send update id (line message) (look update id shell))

def fetch (update : Nat) (sid : Int) (command : Option String) (shell : Shell) : Shell :=
  {shell with fetched := (update,sid,command) :: shell.fetched}

/-- `cb_snip_run` after `get_snippet`. -/
def runSnippet (update id : Nat) (sid : Int) (shell : Shell) : Shell :=
  match shell.snippets.lookup sid with
  | some command => send update id (line command) (fetch update sid (some command) shell)
  | none => fetch update sid none shell

def step (shell : Shell) : Event → Option Shell
  | .arrive input => some {shell with
      inbox := shell.inbox ++ [(shell.arrived.length,input)]
      arrived := shell.arrived ++ [input]}
  | .begin =>
    match shell.handler,shell.inbox with
    | none,(update,input) :: rest => some (start update input {shell with inbox := rest})
    | _,_ => none
  | .taken =>
    match shell.handler with
    | some (update,.routing _) => some (wait update .finishing shell)
    | _ => none
  | .untaken =>
    match shell.handler with
    | some (update,.routing message) => some (handleText update message shell)
    | _ => none
  | .answered =>
    match shell.handler with
    | some (update,.answering id action) =>
      some (wait update .finishing (match keyCode action with
        | some code => send update id code shell
        | none => closeSession shell))
    | _ => none
  | .found =>
    match shell.handler with
    | some (update,.loading id sid) =>
      some (wait update .finishing (runSnippet update id sid shell))
    | _ => none
  | .raise =>
    match shell.handler with
    | none => none
    | some (_,.finishing) => some {shell with handler := none}
    | some (update,_) => some {drop update shell with handler := none}
  | .finish =>
    match shell.handler with
    | some (_,.finishing) => some {shell with handler := none}
    | _ => none
  | .save sid command => some {shell with snippets := shell.snippets.insert sid command}
  | .discard sid => some {shell with snippets := shell.snippets.erase sid}
  | .launch => some {shell with
      sessions := shell.sessions.insert shell.nextSession ⟨false,[],none⟩
      nextSession := shell.nextSession + 1
      active := some shell.nextSession}
  | .close => some (closeSession shell)
  | .ended id => some (onSession id Session.close shell)

/-- The bytes that an update stands for; those of a snippet are the command that was found. -/
def Spells (fetched : List (Nat × Int × Option String)) (update : Nat) (input : Input)
    (bytes : Bytes) : Prop :=
  match input with
  | .text message => bytes = line message
  | .pad action => keyCode action = some bytes
  | .snippet sid => ∃ command, (update,sid,some command) ∈ fetched ∧ bytes = line command
  | .other => False

/-- The handler awaits something after it has found the session. -/
def Input.awaits : Input → Bool
  | .pad _ => true
  | .snippet _ => true
  | _ => false

/-- The await raised, or was cut off, or there is no such snippet. -/
def Lost (shell : Shell) (update : Nat) : Prop :=
  (∃ input, shell.arrived[update]? = some input ∧ input.awaits = true) ∧
    (update ∈ shell.dropped ∨ ∃ sid, (update,sid,none) ∈ shell.fetched)

def sent (id : Nat) (typed : List Typed) : Bytes :=
  (typed.reverse.filter (·.session == id)).flatMap Typed.bytes

/-- A session gets the inputs that were meant for it, whole, in the order in which they came, none
twice and none after it was closed. While it is open, only an update whose await fails is lost. -/
structure Faithful (shell : Shell) : Prop where
  stream : ∀ id session, shell.sessions.lookup id = some session →
    session.stdin = sent id shell.typed
  order : shell.typed.Pairwise (·.update > ·.update)
  spelled : ∀ typed ∈ shell.typed, ∃ input, shell.arrived[typed.update]? = some input ∧
    Spells shell.fetched typed.update input typed.bytes
  aimed : ∀ typed ∈ shell.typed, (typed.update,typed.session) ∈ shell.looked
  silent : ∀ id session, shell.sessions.lookup id = some session → session.closed = true →
    session.final = some session.stdin
  whole : ∀ update id session, (update,id) ∈ shell.looked →
    (∀ stage, shell.handler ≠ some (update,stage)) →
    shell.sessions.lookup id = some session → session.closed = false →
    Lost shell update ∨ ∃ typed ∈ shell.typed, typed.update = update ∧ typed.session = id

/-- The input of an update that has begun, and where its handler looked. -/
def Fits (shell : Shell) (update : Nat) : Stage → Prop
  | .routing message => shell.arrived[update]? = some (.text message)
  | .answering id action => shell.arrived[update]? = some (.pad action) ∧
      ((keyCode action).isSome = true → (update,id) ∈ shell.looked)
  | .loading id sid => shell.arrived[update]? = some (.snippet sid) ∧
      (update,id) ∈ shell.looked
  | .finishing => ∃ input, shell.arrived[update]? = some input

/-- The update has yet to type into the session. -/
def Pending (handler : Option (Nat × Stage)) (update id : Nat) : Prop :=
  match handler with
  | some (running,.loading session _) => running = update ∧ session = id
  | some (running,.answering session action) =>
    (keyCode action).isSome = true ∧ running = update ∧ session = id
  | _ => False

/-- There is nothing more to type for the update. -/
def Served (shell : Shell) (update id : Nat) : Prop :=
  Lost shell update ∨
    (∀ session, shell.sessions.lookup id = some session → session.closed = true) ∨
    ∃ typed ∈ shell.typed, typed.update = update ∧ typed.session = id

structure Base (shell : Shell) : Prop where
  stream : ∀ id session, shell.sessions.lookup id = some session →
    session.stdin = sent id shell.typed
  silent : ∀ id session, shell.sessions.lookup id = some session → session.closed = true →
    session.final = some session.stdin
  known : ∀ id session, shell.sessions.lookup id = some session → id < shell.nextSession
  looked : ∀ look ∈ shell.looked, look.2 < shell.nextSession
  aimed : ∀ typed ∈ shell.typed, (typed.update,typed.session) ∈ shell.looked
  spelled : ∀ typed ∈ shell.typed, ∃ input, shell.arrived[typed.update]? = some input ∧
    Spells shell.fetched typed.update input typed.bytes
  order : shell.typed.Pairwise (·.update > ·.update)
  queued : ∀ entry ∈ shell.inbox, shell.arrived[entry.1]? = some entry.2
  sorted : shell.inbox.Pairwise (·.1 < ·.1)
  later : ∀ typed ∈ shell.typed, ∀ entry ∈ shell.inbox, typed.update < entry.1

structure Kept (shell : Shell) : Prop where
  base : Base shell
  first : ∀ update stage, shell.handler = some (update,stage) →
    ∀ entry ∈ shell.inbox, update < entry.1
  newest : ∀ update stage, shell.handler = some (update,stage) → stage ≠ .finishing →
    ∀ typed ∈ shell.typed, typed.update < update
  fits : ∀ update stage, shell.handler = some (update,stage) → Fits shell update stage
  served : ∀ look ∈ shell.looked, Pending shell.handler look.1 look.2 ∨ Served shell look.1 look.2

section
variable {shell after : Shell} {update id : Nat} {bytes : Bytes}

theorem Base.idle : Base idle where
  stream id session found := by contradiction
  silent id session found := by contradiction
  known id session found := by contradiction
  looked look member := by contradiction
  aimed typed member := by contradiction
  spelled typed member := by contradiction
  order := .nil
  queued entry member := by contradiction
  sorted := .nil
  later typed member := by contradiction

theorem Kept.idle : Kept idle where
  base := .idle
  first update stage is := by contradiction
  newest update stage is := by contradiction
  fits update stage is := by contradiction
  served look member := by contradiction

theorem open?_eq_some (is : open? shell = some id) :
    ∃ session, shell.sessions.lookup id = some session ∧ session.closed = false := by
  obtain ⟨_,there⟩ := Option.filter_eq_some_iff.mp is
  obtain ⟨session,found,opened⟩ := (Option.any_eq_true _ _).mp there
  exact ⟨session,found,by simpa using opened⟩

theorem Base.close (base : Base shell) (id : Nat) : Base (onSession id Session.close shell) := by
  have stdin (session : Session) : session.close.stdin = session.stdin := rfl
  refine ⟨?_,?_,?_,base.looked,base.aimed,base.spelled,base.order,base.queued,base.sorted,
    base.later⟩
  · intro other session found
    rcases lookup_updateKey_some found with ⟨rfl,before,there,rfl⟩ | ⟨_,there⟩
    · exact base.stream other before there
    · exact base.stream other session there
  · intro other session found closed
    rcases lookup_updateKey_some found with ⟨rfl,before,there,rfl⟩ | ⟨_,there⟩
    · by_cases was : before.closed = true
      · have final := base.silent other before there was
        simp [Session.close,was,final]
      · simp [Session.close,was]
    · exact base.silent other session there closed
  · intro other session found
    rcases lookup_updateKey_some found with ⟨rfl,before,there,rfl⟩ | ⟨_,there⟩
    · exact base.known other before there
    · exact base.known other session there

/-- Sessions that are open were open before. -/
def Shuts (before after : Shell) (id : Nat) : Prop :=
  ∀ session, after.sessions.lookup id = some session → session.closed = false →
    ∃ was, before.sessions.lookup id = some was ∧ was.closed = false

theorem Served.mono {other : Nat} (served : Served shell update other)
    (lost : Lost shell update → Lost after update) (typed : shell.typed ⊆ after.typed)
    (shuts : Shuts shell after other) : Served after update other := by
  rcases served with gave | closed | ⟨entry,member,same⟩
  · exact .inl (lost gave)
  · refine .inr (.inl fun session found => ?_)
    by_contra still
    obtain ⟨was,there,opened⟩ := shuts session found (by simpa using still)
    rw [closed was there] at opened
    contradiction
  · exact .inr (.inr ⟨entry,typed member,same⟩)

theorem shuts_onSession {change : Session → Session}
    (shut : ∀ session, (change session).closed = false → session.closed = false) (id other : Nat) :
    Shuts shell (onSession id change shell) other := by
  intro session found opened
  rcases lookup_updateKey_some found with ⟨rfl,before,there,rfl⟩ | ⟨_,there⟩
  · exact ⟨before,there,shut before opened⟩
  · exact ⟨session,there,opened⟩

theorem shuts_close (id other : Nat) : Shuts shell (onSession id Session.close shell) other := by
  apply shuts_onSession
  intro session opened
  contradiction

theorem closed_send (session : Session) : (session.send bytes).closed = session.closed := by
  unfold Session.send
  split <;> rfl

theorem shuts_send (update id other : Nat) : Shuts shell (send update id bytes shell) other := by
  apply shuts_onSession
  intro session opened
  rwa [closed_send] at opened

theorem Kept.close (kept : Kept shell) (id : Nat) : Kept (onSession id Session.close shell) where
  base := kept.base.close id
  first := kept.first
  newest := kept.newest
  fits := kept.fits
  served look member := (kept.served look member).imp_right fun served =>
    served.mono (fun lost => lost) (List.Subset.refl _) (shuts_close id _)

theorem Base.active (base : Base shell) (active : Option Nat) :
    Base {shell with active := active} :=
  ⟨base.stream,base.silent,base.known,base.looked,base.aimed,base.spelled,base.order,base.queued,
    base.sorted,base.later⟩

theorem Kept.closeSession (kept : Kept shell) : Kept (closeSession shell) := by
  unfold TerminalInput.closeSession
  split
  next => exact kept
  next id _ =>
    have closed := kept.close id
    exact ⟨closed.base.active none,closed.first,closed.newest,closed.fits,closed.served⟩

theorem sent_cons (typed : Typed) (earlier : List Typed) (id : Nat) : sent id (typed :: earlier) =
    sent id earlier ++ if typed.session = id then typed.bytes else [] := by
  by_cases same : typed.session = id <;> simp [sent,same]

theorem Kept.launch (kept : Kept shell) : Kept {shell with
    sessions := shell.sessions.insert shell.nextSession ⟨false,[],none⟩
    nextSession := shell.nextSession + 1
    active := some shell.nextSession} := by
  have base := kept.base
  have unused : sent shell.nextSession shell.typed = [] := by
    refine List.flatMap_eq_nil_iff.mpr fun typed member => ?_
    obtain ⟨member,same⟩ := List.mem_filter.mp member
    have looked := base.looked _ (base.aimed typed (List.mem_reverse.mp member))
    rw [beq_iff_eq.mp same] at looked
    exact absurd looked (Nat.lt_irrefl _)
  refine ⟨⟨?_,?_,?_,?_,base.aimed,base.spelled,base.order,base.queued,base.sorted,base.later⟩,
    kept.first,kept.newest,kept.fits,?_⟩
  · intro other session found
    rcases lookup_insert_some found with ⟨rfl,rfl⟩ | ⟨_,found⟩
    · exact unused.symm
    · exact base.stream other session found
  · intro other session found closed
    rcases lookup_insert_some found with ⟨_,rfl⟩ | ⟨_,found⟩
    · contradiction
    · exact base.silent other session found closed
  · intro other session found
    rcases lookup_insert_some found with ⟨rfl,_⟩ | ⟨_,found⟩
    · exact Nat.lt_succ_self _
    · exact Nat.lt_succ_of_lt (base.known other session found)
  · intro look member
    exact Nat.lt_succ_of_lt (base.looked look member)
  · intro look member
    refine (kept.served look member).imp_right fun served =>
      served.mono (fun lost => lost) (List.Subset.refl _) ?_
    intro session found opened
    rcases lookup_insert_some found with ⟨same,_⟩ | ⟨_,found⟩
    · exact absurd (base.looked look member) (by rw [same]; exact Nat.lt_irrefl _)
    · exact ⟨session,found,opened⟩

theorem Base.look (base : Base shell) (update : Nat) (known : id < shell.nextSession) :
    Base (look update id shell) := by
  refine ⟨base.stream,base.silent,base.known,?_,?_,base.spelled,base.order,base.queued,base.sorted,
    base.later⟩
  · intro look member
    rcases List.mem_cons.mp member with rfl | member
    · exact known
    · exact base.looked look member
  · exact fun typed member => List.mem_cons_of_mem _ (base.aimed typed member)

theorem Base.known_of_open (base : Base shell) (is : open? shell = some id) :
    id < shell.nextSession := by
  obtain ⟨session,found,_⟩ := open?_eq_some is
  exact base.known id session found

theorem Base.send (base : Base shell) {input : Input}
    (spells : Spells shell.fetched update input bytes)
    (came : shell.arrived[update]? = some input) (looked : (update,id) ∈ shell.looked)
    (newest : ∀ typed ∈ shell.typed, typed.update < update)
    (first : ∀ entry ∈ shell.inbox, update < entry.1) : Base (send update id bytes shell) := by
  unfold TerminalInput.send
  split
  next opened =>
    obtain ⟨session,found,is⟩ := (Option.any_eq_true _ _).mp opened
    have still : session.closed = false := by simpa using is
    have writes : session.send bytes = {session with stdin := session.stdin ++ bytes} := by
      simp [Session.send,still]
    refine ⟨?_,?_,?_,base.looked,?_,?_,.cons newest base.order,base.queued,base.sorted,?_⟩
    · intro other after there
      rw [sent_cons]
      rcases lookup_updateKey_some there with ⟨rfl,before,was,rfl⟩ | ⟨differs,there⟩
      · rw [found] at was
        cases was
        rw [writes,if_pos rfl,← base.stream other session found]
      · rw [if_neg (Ne.symm differs),List.append_nil]
        exact base.stream other after there
    · intro other after there closed
      rcases lookup_updateKey_some there with ⟨rfl,before,was,rfl⟩ | ⟨_,there⟩
      · rw [found] at was
        cases was
        rw [closed_send,still] at closed
        contradiction
      · exact base.silent other after there closed
    · intro other after there
      rcases lookup_updateKey_some there with ⟨rfl,before,was,_⟩ | ⟨_,there⟩
      · exact base.known other before was
      · exact base.known other after there
    · intro typed member
      rcases List.mem_cons.mp member with rfl | member
      · exact looked
      · exact base.aimed typed member
    · intro typed member
      rcases List.mem_cons.mp member with rfl | member
      · exact ⟨input,came,spells⟩
      · exact base.spelled typed member
    · intro typed member
      rcases List.mem_cons.mp member with rfl | member
      · exact first
      · exact base.later typed member
  next shut =>
    -- A closed session is left as it is.
    have same (other : Nat) : (onSession id (·.send bytes) shell).sessions.lookup other =
        shell.sessions.lookup other := by
      simp only [onSession,lookup_updateWhere]
      cases found : shell.sessions.lookup other with
      | none => rfl
      | some session =>
        by_cases is : other = id
        · subst is
          rw [found] at shut
          have closed : session.closed = true := by simpa using shut
          simp [Session.send,closed]
        · simp [is]
    exact ⟨fun other after there => base.stream other after ((same other).symm.trans there),
      fun other after there => base.silent other after ((same other).symm.trans there),
      fun other after there => base.known other after ((same other).symm.trans there),
      base.looked,base.aimed,base.spelled,base.order,base.queued,base.sorted,base.later⟩

theorem typed_send (update id : Nat) (bytes : Bytes) (shell : Shell) :
    shell.typed ⊆ (send update id bytes shell).typed := by
  unfold send
  dsimp only
  split
  next => exact List.subset_cons_self _ _
  next => exact List.Subset.refl _

theorem served_send (update id : Nat) (bytes : Bytes) (shell : Shell) :
    Served (send update id bytes shell) update id := by
  by_cases opened : (shell.sessions.lookup id).any (fun session => !session.closed) = true
  · refine .inr (.inr ⟨⟨update,id,bytes⟩,?_,rfl,rfl⟩)
    simp [send,opened]
  · refine .inr (.inl fun session found => ?_)
    by_contra still
    obtain ⟨was,there,is⟩ := shuts_send update id id session found (by simpa using still)
    rw [there] at opened
    simp [is] at opened

theorem Base.handler (base : Base shell) (handler : Option (Nat × Stage)) :
    Base {shell with handler := handler} :=
  ⟨base.stream,base.silent,base.known,base.looked,base.aimed,base.spelled,base.order,base.queued,
    base.sorted,base.later⟩

theorem Base.wait (base : Base shell) {stage : Stage} (fits : Fits shell update stage)
    (first : ∀ entry ∈ shell.inbox, update < entry.1)
    (newest : stage ≠ .finishing → ∀ typed ∈ shell.typed, typed.update < update)
    (served : ∀ look ∈ shell.looked, Pending (some (update,stage)) look.1 look.2 ∨
      Served shell look.1 look.2) : Kept (wait update stage shell) where
  base := base.handler _
  first other stage is := by
    cases is
    exact first
  newest other stage is := by
    cases is
    exact newest
  fits other stage is := by
    cases is
    exact fits
  served := served

theorem Base.write (base : Base shell) {input : Input}
    (spells : Spells shell.fetched update input bytes)
    (came : shell.arrived[update]? = some input) (looked : (update,id) ∈ shell.looked)
    (first : ∀ entry ∈ shell.inbox, update < entry.1)
    (newest : ∀ typed ∈ shell.typed, typed.update < update)
    (served : ∀ look ∈ shell.looked, look = (update,id) ∨ Served shell look.1 look.2) :
    Kept (TerminalInput.wait update .finishing (TerminalInput.send update id bytes shell)) := by
  refine (base.send spells came looked newest first).wait ⟨input,came⟩ first
    (fun ends => absurd rfl ends) ?_
  intro look member
  rcases served look member with rfl | served
  · exact .inr (served_send update id bytes shell)
  · exact .inr (served.mono (fun lost => lost) (typed_send update id bytes shell)
      (shuts_send update id _))

theorem Base.start (base : Base shell) {input : Input}
    (came : shell.arrived[update]? = some input)
    (first : ∀ entry ∈ shell.inbox, update < entry.1)
    (newest : ∀ typed ∈ shell.typed, typed.update < update)
    (served : ∀ look ∈ shell.looked, Served shell look.1 look.2) :
    Kept (start update input shell) := by
  have rests : Kept (TerminalInput.wait update .finishing shell) :=
    base.wait ⟨input,came⟩ first (fun _ => newest) fun look member => .inr (served look member)
  have looks (id : Nat) (is : open? shell = some id) (stage : Stage)
      (fits : Fits (TerminalInput.look update id shell) update stage)
      (pending : Pending (some (update,stage)) update id) :
      Kept (TerminalInput.wait update stage (TerminalInput.look update id shell)) := by
    refine (base.look update (base.known_of_open is)).wait fits first (fun _ => newest) ?_
    intro look member
    rcases List.mem_cons.mp member with rfl | member
    · exact .inl pending
    · exact .inr (served look member)
  unfold TerminalInput.start
  split
  next message _ =>
    exact base.wait came first (fun _ => newest) fun look member => .inr (served look member)
  next action id is =>
    split
    next key =>
      exact looks id is (.answering id action) ⟨came,fun _ => List.mem_cons_self⟩
        ⟨key,rfl,rfl⟩
    next key =>
      split
      next =>
        exact base.wait ⟨came,fun is => absurd is key⟩ first (fun _ => newest)
          fun look member => .inr (served look member)
      next => exact rests
  next sid id is =>
    exact looks id is (.loading id sid) ⟨came,List.mem_cons_self⟩ ⟨rfl,rfl⟩
  next => exact rests

theorem Kept.begin (kept : Kept shell) {input : Input} {rest : List (Nat × Input)}
    (free : shell.handler = none) (queue : shell.inbox = (update,input) :: rest) :
    Kept (TerminalInput.start update input {shell with inbox := rest}) := by
  have base := kept.base
  have member {entry : Nat × Input} (member : entry ∈ rest) : entry ∈ shell.inbox := by
    rw [queue]
    exact List.mem_cons_of_mem _ member
  have front : (update,input) ∈ shell.inbox := by
    rw [queue]
    exact List.mem_cons_self
  have sorted := base.sorted
  rw [queue] at sorted
  obtain ⟨first,sorted⟩ := List.pairwise_cons.mp sorted
  have popped : Base {shell with inbox := rest} :=
    ⟨base.stream,base.silent,base.known,base.looked,base.aimed,base.spelled,base.order,
      fun entry there => base.queued entry (member there),sorted,
      fun typed there entry entered => base.later typed there entry (member entered)⟩
  refine popped.start (base.queued _ front) first
    (fun typed there => base.later typed there _ front) ?_
  intro look there
  rcases kept.served look there with pending | served
  · rw [free] at pending
    exact pending.elim
  · exact served

theorem Kept.handleText (kept : Kept shell) {message : String}
    (running : shell.handler = some (update,.routing message)) :
    Kept (handleText update message shell) := by
  have fits := kept.fits update _ running
  have first := kept.first update _ running
  have newest := kept.newest update _ running (by simp)
  have served : ∀ look ∈ shell.looked, Served shell look.1 look.2 := by
    intro look member
    rcases kept.served look member with pending | served
    · rw [running] at pending
      exact pending.elim
    · exact served
  unfold TerminalInput.handleText
  split
  next =>
    exact kept.base.wait ⟨_,fits⟩ first (fun _ => newest) fun look member =>
      .inr (served look member)
  next id is =>
    have spells : Spells shell.fetched update (.text message) (line message) := rfl
    refine (kept.base.look update (kept.base.known_of_open is)).write spells fits
      List.mem_cons_self first newest ?_
    intro look member
    exact (List.mem_cons.mp member).imp_right (served look)

theorem Kept.drop (kept : Kept shell) {stage : Stage}
    (running : shell.handler = some (update,stage)) :
    ∀ look ∈ shell.looked, Served (drop update shell) look.1 look.2 := by
  intro look member
  have fits := kept.fits update stage running
  rcases kept.served look member with pending | served
  · rw [running] at pending
    left
    cases stage with
    | routing message => exact pending.elim
    | answering id action =>
      obtain ⟨_,rfl,_⟩ := pending
      exact ⟨⟨_,fits.1,rfl⟩,.inl List.mem_cons_self⟩
    | loading id sid =>
      obtain ⟨rfl,_⟩ := pending
      exact ⟨⟨_,fits.1,rfl⟩,.inl List.mem_cons_self⟩
    | finishing => exact pending.elim
  · exact served.mono (fun lost => ⟨lost.1,lost.2.imp_left (List.mem_cons_of_mem _)⟩)
      (List.Subset.refl _) fun session found opened => ⟨session,found,opened⟩

theorem Base.drop (base : Base shell) (update : Nat) : Base (drop update shell) :=
  ⟨base.stream,base.silent,base.known,base.looked,base.aimed,base.spelled,base.order,base.queued,
    base.sorted,base.later⟩

theorem Fits.came {stage : Stage} (fits : Fits shell update stage) :
    ∃ input, shell.arrived[update]? = some input := by
  cases stage with
  | routing message => exact ⟨_,fits⟩
  | answering id action => exact ⟨_,fits.1⟩
  | loading id sid => exact ⟨_,fits.1⟩
  | finishing => exact fits

theorem Base.free (base : Base shell)
    (served : ∀ look ∈ shell.looked, Served shell look.1 look.2) :
    Kept {shell with handler := none} where
  base := base.handler none
  first update stage is := by contradiction
  newest update stage is := by contradiction
  fits update stage is := by contradiction
  served look member := .inr (served look member)

theorem Kept.rested (kept : Kept shell) (running : shell.handler = some (update,.finishing)) :
    Kept {shell with handler := none} := by
  apply kept.base.free
  intro look member
  rcases kept.served look member with pending | served
  · rw [running] at pending
    exact pending.elim
  · exact served

theorem Kept.arrive (kept : Kept shell) (input : Input) : Kept {shell with
    inbox := shell.inbox ++ [(shell.arrived.length,input)]
    arrived := shell.arrived ++ [input]} := by
  have base := kept.base
  have still {index : Nat} {came : Input} (is : shell.arrived[index]? = some came) :
      (shell.arrived ++ [input])[index]? = some came := by
    obtain ⟨bound,_⟩ := List.getElem?_eq_some_iff.mp is
    rw [List.getElem?_append_left bound]
    exact is
  have bound {index : Nat} {came : Input} (is : shell.arrived[index]? = some came) :
      index < shell.arrived.length := (List.getElem?_eq_some_iff.mp is).1
  have after {index : Nat} (before : ∀ entry ∈ shell.inbox, index < entry.1)
      (old : index < shell.arrived.length) :
      ∀ entry ∈ shell.inbox ++ [(shell.arrived.length,input)], index < entry.1 := by
    intro entry member
    rcases List.mem_append.mp member with member | member
    · exact before entry member
    · rw [List.mem_singleton.mp member]
      exact old
  refine ⟨⟨base.stream,base.silent,base.known,base.looked,base.aimed,?_,base.order,?_,?_,?_⟩,
    ?_,kept.newest,?_,?_⟩
  · intro typed member
    obtain ⟨came,is,spells⟩ := base.spelled typed member
    exact ⟨came,still is,spells⟩
  · intro entry member
    rcases List.mem_append.mp member with member | member
    · exact still (base.queued entry member)
    · rw [List.mem_singleton.mp member]
      simp
  · refine List.pairwise_append.mpr ⟨base.sorted,List.pairwise_singleton _ _,?_⟩
    intro entry member last same
    rw [List.mem_singleton.mp same]
    exact bound (base.queued entry member)
  · intro typed member
    obtain ⟨came,is,_⟩ := base.spelled typed member
    exact after (base.later typed member) (bound is)
  · intro update stage running
    obtain ⟨came,is⟩ := (kept.fits update stage running).came
    exact after (kept.first update stage running) (bound is)
  · intro update stage running
    have fits := kept.fits update stage running
    cases stage with
    | routing message => exact still fits
    | answering id action => exact ⟨still fits.1,fits.2⟩
    | loading id sid => exact ⟨still fits.1,fits.2⟩
    | finishing => exact fits.imp fun _ => still
  · intro look member
    refine (kept.served look member).imp_right fun served =>
      served.mono ?_ (List.Subset.refl _) fun session found opened => ⟨session,found,opened⟩
    rintro ⟨⟨came,is,awaits⟩,lost⟩
    exact ⟨⟨came,still is,awaits⟩,lost⟩

theorem Kept.settle (kept : Kept shell) {stage : Stage}
    (running : shell.handler = some (update,stage))
    (idle : ∀ other session, ¬Pending shell.handler other session) :
    Kept (TerminalInput.wait update .finishing shell) :=
  kept.base.wait (kept.fits update stage running).came (kept.first update stage running)
    (fun ends => absurd rfl ends) fun look member =>
      .inr ((kept.served look member).resolve_left (idle look.1 look.2))

theorem handler_closeSession (shell : Shell) :
    (TerminalInput.closeSession shell).handler = shell.handler := by
  unfold TerminalInput.closeSession
  split <;> rfl

theorem Kept.answered (kept : Kept shell) {action : String}
    (running : shell.handler = some (update,.answering id action)) :
    Kept (TerminalInput.wait update .finishing (match keyCode action with
      | some code => TerminalInput.send update id code shell
      | none => TerminalInput.closeSession shell)) := by
  obtain ⟨came,looked⟩ := kept.fits update _ running
  cases is : keyCode action with
  | some code =>
    have spells : Spells shell.fetched update (.pad action) code := is
    refine kept.base.write spells came (looked (by rw [is]; rfl)) (kept.first update _ running)
      (kept.newest update _ running (by simp)) ?_
    intro look member
    refine (kept.served look member).imp_left fun pending => ?_
    rw [running] at pending
    exact Prod.ext pending.2.1.symm pending.2.2.symm
  | none =>
    apply kept.closeSession.settle ((handler_closeSession shell).trans running)
    rw [handler_closeSession,running]
    rintro other session ⟨key,_⟩
    rw [is] at key
    contradiction

theorem Base.fetch (base : Base shell) (update : Nat) (sid : Int) (command : Option String) :
    Base (fetch update sid command shell) := by
  refine ⟨base.stream,base.silent,base.known,base.looked,base.aimed,?_,base.order,base.queued,
    base.sorted,base.later⟩
  intro typed member
  obtain ⟨input,came,spells⟩ := base.spelled typed member
  refine ⟨input,came,?_⟩
  cases input with
  | text message => exact spells
  | pad action => exact spells
  | snippet sid =>
    obtain ⟨command,answer,same⟩ := spells
    exact ⟨command,List.mem_cons_of_mem _ answer,same⟩
  | other => exact spells

theorem Served.fetch {other session : Nat} (served : Served shell other session) (update : Nat)
    (sid : Int) (command : Option String) :
    Served (fetch update sid command shell) other session := by
  refine served.mono ?_ (List.Subset.refl _) fun session found opened => ⟨session,found,opened⟩
  rintro ⟨awaits,lost⟩
  exact ⟨awaits,lost.imp_right fun ⟨sid,answer⟩ => ⟨sid,List.mem_cons_of_mem _ answer⟩⟩

theorem Kept.found (kept : Kept shell) {sid : Int}
    (running : shell.handler = some (update,.loading id sid)) :
    Kept (TerminalInput.wait update .finishing (runSnippet update id sid shell)) := by
  obtain ⟨came,looked⟩ := kept.fits update _ running
  have first := kept.first update _ running
  have newest := kept.newest update _ running (by simp)
  have served : ∀ look ∈ shell.looked, look = (update,id) ∨ Served shell look.1 look.2 := by
    intro look member
    refine (kept.served look member).imp_left fun pending => ?_
    rw [running] at pending
    exact Prod.ext pending.1.symm pending.2.symm
  unfold runSnippet
  cases is : shell.snippets.lookup sid with
  | some command =>
    have answer := kept.base.fetch update sid (some command)
    have spells : Spells (TerminalInput.fetch update sid (some command) shell).fetched update
        (.snippet sid) (line command) := ⟨command,List.mem_cons_self,rfl⟩
    refine answer.write spells came looked first newest ?_
    intro look member
    exact (served look member).imp_right (·.fetch update sid _)
  | none =>
    have answer := kept.base.fetch update sid none
    refine answer.wait ⟨_,came⟩ first (fun ends => absurd rfl ends) ?_
    intro look member
    rcases served look member with rfl | done
    · exact .inr (.inl ⟨⟨_,came,rfl⟩,.inr ⟨sid,List.mem_cons_self⟩⟩)
    · exact .inr (done.fetch update sid none)

theorem Kept.snippets (kept : Kept shell) (snippets : Table Int String) :
    Kept {shell with snippets := snippets} := by
  have base := kept.base
  exact ⟨⟨base.stream,base.silent,base.known,base.looked,base.aimed,base.spelled,base.order,
    base.queued,base.sorted,base.later⟩,kept.first,kept.newest,kept.fits,kept.served⟩

theorem Kept.raise (kept : Kept shell) {stage : Stage}
    (running : shell.handler = some (update,stage)) :
    Kept {TerminalInput.drop update shell with handler := none} :=
  (kept.base.drop update).free (kept.drop running)

theorem Kept.step {event : Event} (kept : Kept shell) (taken : step shell event = some after) :
    Kept after := by
  cases event with
  | arrive input =>
    cases taken
    exact kept.arrive input
  | begin =>
    simp only [TerminalInput.step] at taken
    split at taken
    next update input rest free queue =>
      cases taken
      exact kept.begin free queue
    next => contradiction
  | taken =>
    simp only [TerminalInput.step] at taken
    split at taken
    next update message running =>
      cases taken
      apply kept.settle running
      rw [running]
      exact fun _ _ pending => pending
    next => contradiction
  | untaken =>
    simp only [TerminalInput.step] at taken
    split at taken
    next update message running =>
      cases taken
      exact kept.handleText running
    next => contradiction
  | answered =>
    simp only [TerminalInput.step] at taken
    split at taken
    next update id action running =>
      cases taken
      exact kept.answered running
    next => contradiction
  | found =>
    simp only [TerminalInput.step] at taken
    split at taken
    next update id sid running =>
      cases taken
      exact kept.found running
    next => contradiction
  | raise =>
    simp only [TerminalInput.step] at taken
    split at taken
    next => contradiction
    next update running =>
      cases taken
      exact kept.rested running
    next update stage _ running =>
      cases taken
      exact kept.raise running
  | finish =>
    simp only [TerminalInput.step] at taken
    split at taken
    next update running =>
      cases taken
      exact kept.rested running
    next => contradiction
  | save sid command =>
    cases taken
    exact kept.snippets _
  | discard sid =>
    cases taken
    exact kept.snippets _
  | launch =>
    cases taken
    exact kept.launch
  | close =>
    cases taken
    exact kept.closeSession
  | ended id =>
    cases taken
    exact kept.close id

theorem Kept.faithful (kept : Kept shell) : Faithful shell where
  stream := kept.base.stream
  order := kept.base.order
  spelled := kept.base.spelled
  aimed := kept.base.aimed
  silent := kept.base.silent
  whole update id session looked free found opened := by
    rcases kept.served _ looked with pending | lost | closed | typed
    · unfold Pending at pending
      split at pending
      next running _ sid is => exact absurd (pending.1 ▸ is) (free _)
      next running _ action is => exact absurd (pending.2.1 ▸ is) (free _)
      next => contradiction
    · exact .inl lost
    · rw [closed session found] at opened
      contradiction
    · exact .inr typed

end

theorem input_faithful (shell : Shell) (reached : Reach step always idle shell) : Faithful shell :=
  (reached.invariant Kept Kept.idle fun _ _ _ kept _ taken => kept.step taken).faithful

/-- A command, a key whose session is closed before Telegram answers, and one for the next. -/
def typing : List Event :=
  [.launch,.arrive (.text "ls\n"),.arrive (.pad "ctrlc"),.begin,.arrive (.pad "enter"),.untaken,
    .finish,.begin,.close,.launch,.answered,.finish,.begin,.answered]

theorem input_faithful_typing : ∃ shell, typing.foldlM (guarded step always) idle = some shell ∧
    sent 0 shell.typed = [0x6c,0x73,0x0d,0x0d] ∧ sent 1 shell.typed = [0x0d] ∧ Faithful shell :=
  ⟨_,rfl,rfl,rfl,input_faithful _ (reach_of_run typing rfl)⟩

end AtronixX.TerminalInput
