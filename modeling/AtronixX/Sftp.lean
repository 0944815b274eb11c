import AtronixX.Library.Tables
import Mathlib.Data.List.DropRight

/-! The SFTP browser of one chat: `handlers/sftp.py`, with the paths of `posixpath`. The
updates of the chat run one after another; `_download`, `_upload` and `launch_sftp` run
beside them as tasks, and all of them write the same dictionaries. What the server
answers is part of the event. -/
namespace AtronixX.Sftp
open Library.Tables

def rstrip (path : List Char) : List Char := path.rdropWhile (· = '/')

/-- `posixpath.join` of two parts. -/
def join (folder name : String) : String :=
  if name.toList.head? = some '/' then name
  else if folder.toList.getLast?.all (· = '/') then folder ++ name
  else folder ++ "/" ++ name

def dirname (path : String) : String :=
  let head := path.toList.rdropWhile (· ≠ '/')
  String.ofList (if head.all (· = '/') then head else rstrip head)

def basename (path : String) : String := String.ofList (path.toList.rtakeWhile (· ≠ '/'))

/-- The folder to which the verb `up` goes. -/
def parent (path : String) : String :=
  let folder := dirname (String.ofList (rstrip path.toList))
  if folder = "" then "/" else folder

theorem join_single (folder : String) {name : String} (single : '/' ∉ name.toList) :
    join folder name = join folder "" ++ name := by
  have relative : name.toList.head? ≠ some '/' := by
    intro first
    exact single (List.mem_of_mem_head? first)
  unfold join
  rw [if_neg relative,if_neg (by simp : "".toList.head? ≠ some '/')]
  split <;> simp

theorem slash_before (folder : String) :
    ∀ letter ∈ (join folder "").toList.getLast?, letter = '/' := by
  intro letter last
  unfold join at last
  rw [if_neg (by simp : "".toList.head? ≠ some '/')] at last
  split at last
  next slash =>
    simp only [String.append_empty] at last
    simpa [Option.mem_def.mp last] using slash
  next => simpa using last.symm

theorem basename_join (folder : String) {name : String} (single : '/' ∉ name.toList) :
    basename (join folder name) = name := by
  have letters : ∀ letter ∈ name.toList.reverse, decide (letter ≠ '/') = true := by
    intro letter member
    have differs : letter ≠ '/' := by
      rintro rfl
      exact single (List.mem_reverse.mp member)
    simpa using differs
  have stops : ((join folder "").toList.reverse).takeWhile (fun letter => letter ≠ '/') = [] := by
    cases shape : (join folder "").toList.reverse with
    | nil => rfl
    | cons letter rest =>
      have slash : letter = '/' := by
        apply slash_before folder
        rw [← List.head?_reverse,shape]
        rfl
      simp [slash]
  unfold basename
  rw [join_single folder single,String.toList_append,List.rtakeWhile,List.reverse_append,
    List.takeWhile_append_of_pos letters,stops,List.append_nil,List.reverse_reverse,
    String.ofList_toList]

structure Entry where
  name : String
  isDir : Bool
  isLink : Bool
  size : Nat
  deriving DecidableEq, Repr

inductive Mode
  | browse
  | delete
  deriving DecidableEq, Repr

structure Browser where
  path : String
  entries : List Entry
  page : Int
  mode : Mode
  mid : Int
  /-- History: the folder that `entries` is a listing of. -/
  source : Option String
  deriving DecidableEq, Repr

/-- A shown confirmation: its button carries the index, its text the entry's name. -/
structure Confirm where
  index : Nat
  entry : Entry
  /-- History: the folder and the list that the index was taken from. -/
  folder : String
  entries : List Entry
  deriving DecidableEq, Repr

inductive Button
  | uph
  | exit
  | rf
  | pg (page : Int)
  | up
  | dm
  | md
  | cd (index : Nat)
  | dl (index : Nat)
  | del (index : Nat)
  | delyes (confirm : Confirm)
  deriving DecidableEq, Repr

/-- What follows a listing that failed: `cd` puts the old folder back. -/
inductive After
  | plain
  | entering (old : String)
  deriving DecidableEq, Repr

/-- The await at which the running update of the chat is; browsers by their number. `cb_nav`
awaits `q.answer`, the confirmation, the question for a folder name and `remove`;
`flow_text` the deletion of the message with the name and `mkdir`; `_render` its `listdir`
and the edit to the error. The last awaits of a handler change nothing here. -/
inductive Handler
  | answering (button : Button) (browser : Nat)
  | confirming (confirm : Confirm)
  | asking
  | removing (browser : Nat)
  | naming (name : String) (browser : Option Nat) (mid : Int)
  | making (browser : Nat)
  | listing (browser : Nat) (folder : String) (after : After)
  | failing (browser : Nat) (after : After)
  | finishing
  deriving DecidableEq, Repr

/-- The await at which a task is. `launch_sftp` awaits the closing of the old browser;
`_upload` its file (the folder is the one at its message, as history); both transfers the
transfer and what follows it; `_render` its `listdir` and the new message. -/
inductive Task
  | closing (path : String) (mid : Int)
  | fetching (browser : Nat) (name folder : String)
  | transferring (browser : Nat)
  | listing (browser : Nat) (folder : String) (newMessage : Bool)
  | sending (browser : Nat)
  | finishing
  deriving DecidableEq, Repr

/-- A call of `remove`, with the confirmation whose button was pressed and, as history, the folder
and the list in which its index was looked up. -/
structure Removal where
  path : String
  recursive : Bool
  confirm : Confirm
  folder : String
  entries : List Entry
  deriving DecidableEq, Repr

/-- A call of `upload`, with the folder at its message. -/
structure Upload where
  path : String
  name : String
  folder : String
  deriving DecidableEq, Repr

/-- `current` stands for the chat's entry in `sftp_state`, `flow` for the message of a flow
`sftp_mkdir`. The last three fields are history. -/
structure Chat where
  browsers : Table Nat Browser
  nextBrowser : Nat
  current : Option Nat
  flow : Option Int
  handler : Option Handler
  tasks : Table Nat Task
  nextTask : Nat
  confirms : List (Int × Confirm)
  removals : List Removal
  uploads : List Upload

def idle : Chat := ⟨∅,0,none,none,none,∅,0,[],[],[]⟩

/-- What happens next in the chat. A button of the browser is pressed in message `mid`, or a
text (stripped) or a document comes in; `launch_sftp` is after `realpath`; `close_sftp` runs
or the flow is dropped elsewhere. The await of the handler returns (`listed` with what
`listdir` gave, `shown` with the message) or raises outside every `try`; so do those of a
task, where fetching the file may raise and a task may be cancelled. -/
inductive Event
  | nav (mid : Int) (button : Button)
  | text (name : String)
  | document (fileName : Option String) (uniqueId : String) (size : Nat)
  | launch (path : String) (mid : Int)
  | close
  | drop
  | proceed
  | listed (result : Option (List Entry))
  | shown (mid : Int)
  | fail
  | taskProceed (task : Nat)
  | taskFail (task : Nat)
  | taskListed (task : Nat) (result : Option (List Entry))
  | taskSent (task : Nat) (mid : Option Int)
  | cancel (task : Nat)
  deriving DecidableEq, Repr

def change (id : Nat) (write : Browser → Browser) (chat : Chat) : Chat :=
  {chat with browsers := updateWhere (fun key _ => key == id) write chat.browsers}

def wait (handler : Handler) (chat : Chat) : Chat := {chat with handler := some handler}

def setTask (id : Nat) (task : Task) (chat : Chat) : Chat :=
  {chat with tasks := chat.tasks.insert id task}

def endTask (id : Nat) (chat : Chat) : Chat := {chat with tasks := chat.tasks.erase id}

def createTask (task : Task) (chat : Chat) : Chat :=
  {chat with tasks := chat.tasks.insert chat.nextTask task, nextTask := chat.nextTask + 1}

def perPage : Nat := 8

def maxDownload : Nat := 50 * 1024 * 1024

def maxUpload : Nat := 20 * 1024 * 1024

/-- The page that `_render` shows of a list. -/
def clampPage (count : Nat) (page : Int) : Int :=
  let pages : Nat := max 1 ((count + perPage - 1) / perPage)
  max 0 (min page (pages - 1))

/-- `_render` after a `listdir` of `folder` that returned. -/
def Browser.store (folder : String) (entries : List Entry) (browser : Browser) : Browser :=
  {browser with
    entries := entries
    page := clampPage entries.length browser.page
    source := some folder}

def render (id : Nat) (after : After) (chat : Chat) : Chat :=
  match chat.browsers.lookup id with
  | none => wait .finishing chat
  | some browser => wait (.listing id browser.path after) chat

def startDownload (id : Nat) (entry : Entry) (chat : Chat) : Chat :=
  if entry.isDir || entry.size == 0 || decide (entry.size > maxDownload) then wait .finishing chat
  else wait .finishing (createTask (.transferring id) chat)

/-- `cb_nav` up to its `q.answer`. -/
def cbNav (mid : Int) (button : Button) (chat : Chat) : Chat :=
  match chat.current with
  | none => wait .finishing chat
  | some id => wait (.answering button id) (change id (fun state => {state with mid := mid}) chat)

def answered (button : Button) (id : Nat) (browser : Browser) (chat : Chat) : Chat :=
  match button with
  | .uph => wait .finishing chat
  | .exit => wait .finishing {chat with current := none}
  | .rf => render id .plain {chat with flow := none}
  | .pg page => render id .plain (change id (fun state => {state with page := page}) chat)
  | .up => render id .plain
    (change id (fun state => {state with path := parent state.path, page := 0}) chat)
  | .dm => render id .plain (change id (fun state =>
    {state with mode := if state.mode = .delete then .browse else .delete}) chat)
  | .md => wait .asking chat
  | .cd index =>
    match browser.entries[index]? with
    | none => render id .plain chat
    | some entry => render id (.entering browser.path) (change id (fun state =>
      {state with path := join browser.path entry.name, page := 0}) chat)
  | .dl index =>
    match browser.entries[index]? with
    | none => render id .plain chat
    | some entry => startDownload id entry chat
  | .del index =>
    match browser.entries[index]? with
    | none => render id .plain chat
    | some entry => wait (.confirming ⟨index,entry,browser.path,browser.entries⟩) chat
  | .delyes confirm =>
    match browser.entries[confirm.index]? with
    | none => render id .plain chat
    | some entry => wait (.removing id) {chat with
      removals := ⟨join browser.path entry.name,entry.isDir && !entry.isLink,confirm,browser.path,
        browser.entries⟩ :: chat.removals}

def badName (letter : Char) : Bool :=
  letter == '\\' || letter == '/' || letter == Char.ofNat 0

/-- The names that `flow_text` takes for a new folder. -/
def validName (name : String) : Bool :=
  !(name == "" || name == "." || name == ".." || name.toList.any badName ||
    decide (name.length > 100))

/-- The name that `on_upload` gives a file. -/
def uploadName (fileName : Option String) (uniqueId : String) : String :=
  let given := fileName.getD ""
  let name := basename (if given = "" then "file_" ++ uniqueId else given)
  let cleaned := String.ofList (name.toList.map (fun letter => if badName letter then '_' else letter))
  if cleaned = "" then "file" else cleaned

/-- `on_upload`; without a browser the document is not its. -/
def onUpload (fileName : Option String) (uniqueId : String) (size : Nat) (chat : Chat) :
    Option Chat := do
  let id ← chat.current
  let browser ← chat.browsers.lookup id
  pure (if size > maxUpload then wait .finishing chat
    else createTask (.fetching id (uploadName fileName uniqueId) browser.path) chat)

/-- `flow_text` after the message with the name is deleted. -/
def named (name : String) (browser : Option Nat) (mid : Int) (chat : Chat) : Chat :=
  match browser with
  | none => wait .finishing {chat with flow := none}
  | some id =>
    if validName name then
      wait (.making id) (change id (fun state => {state with mid := mid}) {chat with flow := none})
    else wait .finishing chat

def proceed (handler : Handler) (chat : Chat) : Option Chat :=
  match handler with
  | .answering button id => (chat.browsers.lookup id).map (fun browser =>
    answered button id browser chat)
  | .failing _ .plain => some {chat with handler := none}
  | .failing id (.entering old) =>
    some {change id (fun state => {state with path := old}) chat with handler := none}
  | .removing id => some (render id .plain chat)
  | .naming name browser mid => some (named name browser mid chat)
  | .making id => some (render id .plain chat)
  | .finishing => some {chat with handler := none}
  | _ => none

def listed (id : Nat) (folder : String) (after : After) (result : Option (List Entry))
    (chat : Chat) : Chat :=
  match result with
  | none => wait (.failing id after) chat
  | some entries => wait .finishing (change id (Browser.store folder entries) chat)

def shown (mid : Int) (handler : Handler) (chat : Chat) : Option Chat :=
  match handler with
  | .confirming confirm =>
    some {chat with handler := none, confirms := (mid,confirm) :: chat.confirms}
  | .asking => some {chat with handler := none, flow := some mid}
  | _ => none

/-- The awaits of the handlers that stand in no `try` and may raise. -/
def fails (handler : Handler) : Bool :=
  match handler with
  | .answering _ _ => true
  | .confirming _ => true
  | .asking => true
  | .finishing => true
  | _ => false

def install (path : String) (mid : Int) (chat : Chat) : Chat :=
  {chat with
    browsers := chat.browsers.insert chat.nextBrowser ⟨path,[],0,.browse,mid,none⟩
    nextBrowser := chat.nextBrowser + 1
    current := some chat.nextBrowser}

def launch (path : String) (mid : Int) (chat : Chat) : Chat :=
  match chat.current with
  | some _ => createTask (.closing path mid) {chat with current := none}
  | none => createTask (.listing chat.nextBrowser path false) (install path mid chat)

/-- The end of `_download` and `_upload`: the browser is drawn again if it is still the
one of the chat. -/
def transferred (id task : Nat) (chat : Chat) : Chat :=
  if chat.current = some id then
    match chat.browsers.lookup id with
    | none => endTask task chat
    | some browser => setTask task (.listing id browser.path true) chat
  else endTask task chat

def taskProceed (id : Nat) (task : Task) (chat : Chat) : Option Chat :=
  match task with
  | .closing path mid =>
    some (setTask id (.listing chat.nextBrowser path false) (install path mid chat))
  | .fetching browser name folder => (chat.browsers.lookup browser).map (fun state =>
    setTask id (.transferring browser)
      {chat with uploads := ⟨join state.path name,name,folder⟩ :: chat.uploads})
  | .transferring browser => some (transferred browser id chat)
  | .finishing => some (endTask id chat)
  | _ => none

def taskListed (id browser : Nat) (folder : String) (newMessage : Bool)
    (result : Option (List Entry)) (chat : Chat) : Chat :=
  match result with
  | none => setTask id .finishing chat
  | some entries => setTask id (if newMessage then .sending browser else .finishing)
    (change browser (Browser.store folder entries) chat)

/-- `ui.send` returns; without a message nothing changes. -/
def taskSent (id browser : Nat) (mid : Option Int) (chat : Chat) : Chat :=
  match mid with
  | none => endTask id chat
  | some mid => setTask id .finishing (change browser (fun state => {state with mid := mid}) chat)

/-- A step of the chat. A handler begins when no other is running; a confirmation can be
pressed where it was shown. -/
def step (chat : Chat) (event : Event) : Option Chat :=
  match event, chat.handler with
  | .nav mid button, none => match button with
    | .delyes confirm =>
      if (mid,confirm) ∈ chat.confirms then some (cbNav mid (.delyes confirm) chat) else none
    | button => some (cbNav mid button chat)
  | .text name, none => chat.flow.map (fun mid => wait (.naming name chat.current mid) chat)
  | .document fileName uniqueId size, none => onUpload fileName uniqueId size chat
  | .launch path mid, _ => some (launch path mid chat)
  | .close, _ => some {chat with current := none}
  | .drop, _ => some {chat with flow := none}
  | .proceed, some handler => proceed handler chat
  | .listed result, some handler => match handler with
    | .listing id folder after => some (listed id folder after result chat)
    | _ => none
  | .shown mid, some handler => shown mid handler chat
  | .fail, some handler => if fails handler then some {chat with handler := none} else none
  | .taskProceed id, _ => (chat.tasks.lookup id).bind (fun task => taskProceed id task chat)
  | .taskFail id, _ => (chat.tasks.lookup id).bind (fun task => match task with
    | .fetching browser _ _ => some (setTask id (.transferring browser) chat)
    | _ => none)
  | .taskListed id result, _ => (chat.tasks.lookup id).bind (fun task => match task with
    | .listing browser folder newMessage =>
      some (taskListed id browser folder newMessage result chat)
    | _ => none)
  | .taskSent id mid, _ => (chat.tasks.lookup id).bind (fun task => match task with
    | .sending browser => some (taskSent id browser mid chat)
    | _ => none)
  | .cancel id, _ => some (endTask id chat)
  | _, _ => none

inductive Taken (chat : Chat) : Event → Chat → Prop
  | nav (mid : Int) (button : Button) (free : chat.handler = none)
    (held : ∀ confirm, button = .delyes confirm → (mid,confirm) ∈ chat.confirms) :
    Taken chat (.nav mid button) (cbNav mid button chat)
  | text (name : String) (mid : Int) (free : chat.handler = none) (flow : chat.flow = some mid) :
    Taken chat (.text name) (wait (.naming name chat.current mid) chat)
  | document (fileName : Option String) (uniqueId : String) (size : Nat) (after : Chat)
    (free : chat.handler = none) (went : onUpload fileName uniqueId size chat = some after) :
    Taken chat (.document fileName uniqueId size) after
  | launch (path : String) (mid : Int) : Taken chat (.launch path mid) (launch path mid chat)
  | close : Taken chat .close {chat with current := none}
  | drop : Taken chat .drop {chat with flow := none}
  | proceed (handler : Handler) (after : Chat) (running : chat.handler = some handler)
    (went : proceed handler chat = some after) : Taken chat .proceed after
  | listed (result : Option (List Entry)) (id : Nat) (folder : String) (follows : After)
    (running : chat.handler = some (.listing id folder follows)) :
    Taken chat (.listed result) (listed id folder follows result chat)
  | shown (mid : Int) (handler : Handler) (after : Chat) (running : chat.handler = some handler)
    (went : shown mid handler chat = some after) : Taken chat (.shown mid) after
  | fail (handler : Handler) (running : chat.handler = some handler)
    (may : fails handler = true) : Taken chat .fail {chat with handler := none}
  | taskProceed (id : Nat) (task : Task) (after : Chat) (found : chat.tasks.lookup id = some task)
    (went : taskProceed id task chat = some after) : Taken chat (.taskProceed id) after
  | taskFail (id browser : Nat) (name folder : String)
    (found : chat.tasks.lookup id = some (.fetching browser name folder)) :
    Taken chat (.taskFail id) (setTask id (.transferring browser) chat)
  | taskListed (id browser : Nat) (folder : String) (newMessage : Bool)
    (result : Option (List Entry))
    (found : chat.tasks.lookup id = some (.listing browser folder newMessage)) :
    Taken chat (.taskListed id result) (taskListed id browser folder newMessage result chat)
  | taskSent (id browser : Nat) (mid : Option Int)
    (found : chat.tasks.lookup id = some (.sending browser)) :
    Taken chat (.taskSent id mid) (taskSent id browser mid chat)
  | cancel (id : Nat) : Taken chat (.cancel id) (endTask id chat)

theorem taken_of_step {chat after : Chat} {event : Event}
    (stepped : step chat event = some after) : Taken chat event after := by
  unfold step at stepped
  split at stepped
  next mid button free =>
    split at stepped
    next confirm =>
      split at stepped
      next held =>
        refine Option.some.inj stepped ▸ .nav mid _ free ?_
        intro other same
        cases same
        exact held
      next => contradiction
    next other =>
      exact Option.some.inj stepped ▸ .nav mid button free
        (fun confirm same => absurd same (other confirm))
  next name free =>
    obtain ⟨mid,flow,went⟩ := Option.map_eq_some_iff.mp stepped
    exact went ▸ .text name mid free flow
  next fileName uniqueId size free => exact .document fileName uniqueId size after free stepped
  next path mid => exact Option.some.inj stepped ▸ .launch path mid
  next => exact Option.some.inj stepped ▸ .close
  next => exact Option.some.inj stepped ▸ .drop
  next handler running => exact .proceed handler after running stepped
  next result handler running =>
    split at stepped
    next id folder follows =>
      exact Option.some.inj stepped ▸ .listed result id folder follows running
    next => contradiction
  next mid handler running => exact .shown mid handler after running stepped
  next handler running =>
    split at stepped
    next may => exact Option.some.inj stepped ▸ .fail handler running may
    next => contradiction
  next id =>
    obtain ⟨task,found,went⟩ := Option.bind_eq_some_iff.mp stepped
    exact .taskProceed id task after found went
  next id =>
    obtain ⟨task,found,went⟩ := Option.bind_eq_some_iff.mp stepped
    split at went
    next _ browser name folder =>
      exact Option.some.inj went ▸ .taskFail id browser name folder found
    next => contradiction
  next id result =>
    obtain ⟨task,found,went⟩ := Option.bind_eq_some_iff.mp stepped
    split at went
    next _ browser folder newMessage =>
      exact Option.some.inj went ▸ .taskListed id browser folder newMessage result found
    next => contradiction
  next id mid =>
    obtain ⟨task,found,went⟩ := Option.bind_eq_some_iff.mp stepped
    split at went
    next _ browser => exact Option.some.inj went ▸ .taskSent id browser mid found
    next => contradiction
  next id => exact Option.some.inj stepped ▸ .cancel id
  next => contradiction

end AtronixX.Sftp
