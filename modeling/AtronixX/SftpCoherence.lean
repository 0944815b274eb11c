import AtronixX.Library.Transition
import AtronixX.Sftp

/-! The list that `cb_nav` takes an index from is a listing of the folder it joins the
name to, as long as failed and late listings do not leave another one behind. -/
namespace AtronixX.SftpCoherence
open Library.Transition Library.Tables Sftp

/-- From its start until it looks its index up, an update of `cb_nav` finds entries that
are a listing of the path. -/
def Listed (chat : Chat) : Prop :=
  ∀ button id browser, chat.handler = some (.answering button id) →
    chat.browsers.lookup id = some browser → browser.source = some browser.path

/-- A button is pressed after the first listing of the browser came in. -/
def opened (chat : Chat) (event : Event) : Prop :=
  match event, chat.handler with
  | .nav _ _, none => chat.current.all (fun id =>
    (chat.browsers.lookup id).all (fun browser => browser.source.isSome)) = true
  | _, _ => True

/-- The folder that a browser is in after a failed listing. -/
def left (after : After) (browser : Browser) : String :=
  match after with
  | .plain => browser.path
  | .entering old => old

/-- The folder that a browser is in when the running handler has ended. -/
def leftBy (handler : Option Handler) (id : Nat) (browser : Browser) : String :=
  match handler with
  | some (.failing other after) => if other = id then left after browser else browser.path
  | _ => browser.path

def awaited (handler : Option Handler) (id : Nat) : Bool :=
  match handler with
  | some (.listing other _ _) => other == id
  | some (.removing other) => other == id
  | some (.making other) => other == id
  | _ => false

/-- A listing of a handler fails only over a list of the folder that the browser is left
in, and one of a task comes in only for that folder or before one of the handler. -/
def kept (chat : Chat) (event : Event) : Prop :=
  match event, chat.handler with
  | .listed none, some (.listing id _ after) => (chat.browsers.lookup id).all (fun browser =>
    browser.source.all (fun folder => folder = left after browser)) = true
  | .taskListed task (some _), handler => match chat.tasks.lookup task with
    | some (.listing id folder _) => awaited handler id = true ∨
      (chat.browsers.lookup id).all (fun browser => folder = leftBy handler id browser) = true
    | _ => True
  | _, _ => True

def fresh (chat : Chat) (event : Event) : Prop := opened chat event ∧ kept chat event

/-- The entries are of `folder`, or nothing was listed yet. -/
def Of (folder : String) (browser : Browser) : Prop :=
  ∀ source, browser.source = some source → source = folder

/-- What holds of a browser at each await of the running handler. -/
def Settled (handler : Option Handler) (id : Nat) (browser : Browser) : Prop :=
  match handler with
  | some (.answering _ other) =>
    Of browser.path browser ∧ (other = id → browser.source.isSome = true)
  | some (.listing other folder _) =>
    if other = id then browser.path = folder else Of browser.path browser
  | some (.failing other after) =>
    Of (if other = id then left after browser else browser.path) browser
  | some (.removing other) => other ≠ id → Of browser.path browser
  | some (.making other) => other ≠ id → Of browser.path browser
  | _ => Of browser.path browser

def Coherent (handler : Option Handler) (browsers : Table Nat Browser) : Prop :=
  ∀ id browser, browsers.lookup id = some browser → Settled handler id browser

def CoherentBut (id : Nat) (browsers : Table Nat Browser) : Prop :=
  ∀ other browser, browsers.lookup other = some browser → other ≠ id → Of browser.path browser

theorem Coherent.mono {before after : Option Handler} {browsers : Table Nat Browser}
    (coherent : Coherent before browsers)
    (weaker : ∀ id browser, Settled before id browser → Settled after id browser) :
    Coherent after browsers :=
  fun id browser found => weaker id browser (coherent id browser found)

theorem Coherent.but {browsers : Table Nat Browser} (coherent : Coherent none browsers)
    (id : Nat) : CoherentBut id browsers :=
  fun other browser found _ => coherent other browser found

theorem CoherentBut.change {browsers : Table Nat Browser} {id : Nat}
    (coherent : CoherentBut id browsers) (write : Browser → Browser) :
    CoherentBut id (updateWhere (fun key _ => key == id) write browsers) := by
  intro other browser found differs
  rcases lookup_updateKey_some found with ⟨is,_⟩ | ⟨_,before⟩
  · exact absurd is differs
  · exact coherent other browser before differs

private theorem Settled.write {handler : Option Handler} {id : Nat} {browser after : Browser}
    (settled : Settled handler id browser) (path : after.path = browser.path)
    (source : after.source = browser.source) : Settled handler id after := by
  have same (folder : String) : Of folder after ↔ Of folder browser := by
    unfold Of
    rw [source]
  have returns (follows : After) : left follows after = left follows browser := by
    cases follows with
    | plain => exact path
    | entering old => rfl
  unfold Settled at settled ⊢
  simpa only [path,source,same,returns] using settled

theorem Coherent.write {handler : Option Handler} {browsers : Table Nat Browser}
    (coherent : Coherent handler browsers) (id : Nat) (write : Browser → Browser)
    (path : ∀ browser, (write browser).path = browser.path)
    (source : ∀ browser, (write browser).source = browser.source) :
    Coherent handler (updateWhere (fun key _ => key == id) write browsers) := by
  intro other browser found
  rcases lookup_updateKey_some found with ⟨rfl,before,present,rfl⟩ | ⟨_,present⟩
  · exact (coherent other before present).write (path before) (source before)
  · exact coherent other browser present

theorem CoherentBut.render {id : Nat} {chat : Chat} (coherent : CoherentBut id chat.browsers)
    (after : After) : Coherent (render id after chat).handler (render id after chat).browsers := by
  unfold Sftp.render
  split
  next absent =>
    intro other browser found
    apply coherent other browser found
    rintro rfl
    have present : chat.browsers.lookup other = some browser := found
    rw [absent] at present
    contradiction
  next state present =>
    intro other browser found
    have found : chat.browsers.lookup other = some browser := found
    by_cases is : id = other
    · subst is
      rw [present] at found
      cases found
      simp [wait,Settled]
    · simpa [wait,Settled,is] using coherent other browser found (Ne.symm is)

def browserOf (handler : Handler) : Option Nat :=
  match handler with
  | .answering _ id => some id
  | .listing id _ _ => some id
  | .failing id _ => some id
  | .removing id => some id
  | .naming _ browser _ => browser
  | .making id => some id
  | _ => none

structure Sound (chat : Chat) : Prop where
  coherent : Coherent chat.handler chat.browsers
  current : ∀ id, chat.current = some id → id < chat.nextBrowser
  running : ∀ handler id, chat.handler = some handler → browserOf handler = some id →
    id < chat.nextBrowser

private theorem Sound.rest {chat : Chat} (coherent : Coherent none chat.browsers)
    (current : ∀ id, chat.current = some id → id < chat.nextBrowser) :
    Sound {chat with handler := none} :=
  ⟨coherent,current,by simp⟩

private theorem Sound.waits {chat : Chat} {handler : Handler}
    (coherent : Coherent none chat.browsers)
    (current : ∀ id, chat.current = some id → id < chat.nextBrowser)
    (settled : ∀ id browser, Settled none id browser → Settled (some handler) id browser)
    (own : ∀ id, browserOf handler = some id → id < chat.nextBrowser) :
    Sound (wait handler chat) := by
  refine ⟨coherent.mono settled,current,?_⟩
  intro other id running is
  cases Option.some.inj running
  exact own id is

private theorem Sound.renders {chat : Chat} {id : Nat} (after : After)
    (coherent : CoherentBut id chat.browsers)
    (current : ∀ id, chat.current = some id → id < chat.nextBrowser)
    (own : id < chat.nextBrowser) : Sound (render id after chat) := by
  refine ⟨coherent.render after,?_,?_⟩
  · unfold Sftp.render
    split <;> exact current
  · unfold Sftp.render
    split
    · intro handler other running is
      cases Option.some.inj running
      contradiction
    · intro handler other running is
      cases Option.some.inj running
      cases Option.some.inj is
      exact own

private theorem Sound.install {chat : Chat} (inv : Sound chat) (path : String) (mid : Int) :
    Sound (install path mid chat) := by
  refine ⟨?_,?_,?_⟩
  · intro id browser found
    rcases lookup_insert_some found with ⟨rfl,rfl⟩ | ⟨_,before⟩
    · have unlisted (folder : String) : Of folder ⟨path,[],0,.browse,mid,none⟩ := by simp [Of]
      have foreign (handler : Handler) (running : chat.handler = some handler) :
          browserOf handler ≠ some chat.nextBrowser := by
        intro is
        exact absurd (inv.running handler _ running is) (Nat.lt_irrefl _)
      show Settled chat.handler chat.nextBrowser _
      unfold Settled
      split
      next running =>
        refine ⟨unlisted _,?_⟩
        rintro rfl
        exact absurd rfl (foreign _ running)
      next running =>
        split
        next is =>
          subst is
          exact absurd rfl (foreign _ running)
        · exact unlisted _
      next => exact unlisted _
      next => exact fun _ => unlisted _
      next => exact fun _ => unlisted _
      next => exact unlisted _
    · exact inv.coherent id browser before
  · intro id is
    cases Option.some.inj is
    exact Nat.lt_succ_self _
  · intro handler id running is
    exact Nat.lt_succ_of_lt (inv.running handler id running is)

private theorem Sound.write {chat : Chat} (inv : Sound chat) (id : Nat) (write : Browser → Browser)
    (path : ∀ browser, (write browser).path = browser.path)
    (source : ∀ browser, (write browser).source = browser.source) :
    Sound (change id write chat) :=
  ⟨inv.coherent.write id write path source,inv.current,inv.running⟩

private theorem Sound.cbNav {chat : Chat} (inv : Sound chat) (mid : Int) (button : Button)
    (free : chat.handler = none)
    (pressed : chat.current.all (fun id =>
      (chat.browsers.lookup id).all (fun browser => browser.source.isSome)) = true) :
    Sound (cbNav mid button chat) := by
  have coherent : Coherent none chat.browsers := free ▸ inv.coherent
  unfold Sftp.cbNav
  split
  next => exact .waits coherent inv.current (fun _ _ settled => settled) (by simp [browserOf])
  next id current =>
    refine ⟨?_,inv.current,?_⟩
    · intro other browser found
      rcases lookup_updateKey_some found with ⟨rfl,before,present,rfl⟩ | ⟨differs,present⟩
      · refine ⟨coherent other before present,fun _ => ?_⟩
        simpa [current,present] using pressed
      · exact ⟨coherent other browser present,fun is => absurd is.symm differs⟩
    · intro handler other running is
      cases Option.some.inj running
      cases Option.some.inj is
      exact inv.current id current

private theorem Sound.answered {chat : Chat} (inv : Sound chat) {button : Button} {id : Nat}
    {browser : Browser} (running : chat.handler = some (.answering button id)) :
    Sound (answered button id browser chat) := by
  have coherent : Coherent none chat.browsers := by
    intro other state found
    have settled := inv.coherent other state found
    rw [running] at settled
    exact settled.1
  have own : id < chat.nextBrowser := inv.running _ id running rfl
  have render (after : After) : Sound (render id after chat) :=
    .renders after (coherent.but id) inv.current own
  have drawn (after : After) (write : Browser → Browser) :
      Sound (Sftp.render id after (change id write chat)) :=
    .renders after ((coherent.but id).change write) inv.current own
  have finished : Sound (wait .finishing chat) :=
    .waits coherent inv.current (fun _ _ settled => settled) (by simp [browserOf])
  cases button with
  | uph => exact finished
  | exit => exact .waits coherent (by simp) (fun _ _ settled => settled) (by simp [browserOf])
  | rf => exact .renders .plain (coherent.but id) inv.current own
  | pg page => exact drawn .plain _
  | up => exact drawn .plain _
  | dm => exact drawn .plain _
  | md => exact .waits coherent inv.current (fun _ _ settled => settled) (by simp [browserOf])
  | cd index =>
    simp only [Sftp.answered]
    split
    · exact render .plain
    · exact drawn _ _
  | dl index =>
    simp only [Sftp.answered]
    split
    · exact render .plain
    · unfold startDownload
      split
      · exact finished
      · exact ⟨finished.coherent,finished.current,finished.running⟩
  | del index =>
    simp only [Sftp.answered]
    split
    · exact render .plain
    · exact .waits coherent inv.current (fun _ _ settled => settled) (by simp [browserOf])
  | delyes confirm =>
    simp only [Sftp.answered]
    split
    · exact render .plain
    · refine .waits coherent inv.current (fun _ _ settled _ => settled) ?_
      intro other is
      cases Option.some.inj is
      exact own

private theorem Sound.proceed {chat after : Chat} (inv : Sound chat) {handler : Handler}
    (running : chat.handler = some handler) (went : proceed handler chat = some after) :
    Sound after := by
  have coherent := inv.coherent
  rw [running] at coherent
  have own := inv.running handler
  cases handler with
  | answering button id =>
    obtain ⟨browser,_,rfl⟩ := Option.map_eq_some_iff.mp went
    exact inv.answered running
  | failing id follows =>
    cases follows with
    | plain =>
      cases Option.some.inj went
      refine .rest (coherent.mono fun other browser settled => ?_) inv.current
      simpa [Settled,left] using settled
    | entering old =>
      cases Option.some.inj went
      refine ⟨?_,inv.current,by simp⟩
      intro other browser found
      rcases lookup_updateKey_some found with ⟨rfl,before,present,rfl⟩ | ⟨differs,present⟩
      · have settled := coherent other before present
        simpa [Settled,left,Of] using settled
      · have settled := coherent other browser present
        simpa [Settled,Ne.symm differs] using settled
  | removing id =>
    cases Option.some.inj went
    have but : CoherentBut id chat.browsers := fun other browser found differs =>
      coherent other browser found (Ne.symm differs)
    exact .renders .plain but inv.current (own id running rfl)
  | naming name browser mid =>
    cases Option.some.inj went
    have settled : Coherent none chat.browsers := coherent
    unfold named
    split
    next => exact .waits settled inv.current (fun _ _ settled => settled) (by simp [browserOf])
    next id =>
      split
      next =>
        refine .waits (settled.write id _ (fun _ => rfl) (fun _ => rfl)) inv.current
          (fun _ _ settled _ => settled) ?_
        intro other is
        cases Option.some.inj is
        exact own id running rfl
      next => exact .waits settled inv.current (fun _ _ settled => settled) (by simp [browserOf])
  | making id =>
    cases Option.some.inj went
    have but : CoherentBut id chat.browsers := fun other browser found differs =>
      coherent other browser found (Ne.symm differs)
    exact .renders .plain but inv.current (own id running rfl)
  | finishing =>
    cases Option.some.inj went
    exact .rest coherent inv.current
  | listing id folder follows => contradiction
  | confirming confirm => contradiction
  | asking => contradiction

private theorem Sound.listed {chat : Chat} (inv : Sound chat) {id : Nat} {folder : String}
    {follows : After} (running : chat.handler = some (.listing id folder follows))
    (result : Option (List Entry)) (met : kept chat (.listed result)) :
    Sound (listed id folder follows result chat) := by
  have coherent := inv.coherent
  rw [running] at coherent
  cases result with
  | none =>
    simp only [kept,running,Option.all_eq_true,decide_eq_true_eq] at met
    refine ⟨?_,inv.current,?_⟩
    · intro other browser found
      have found : chat.browsers.lookup other = some browser := found
      show Settled (some (.failing id follows)) other browser
      by_cases is : id = other
      · subst is
        have source := met browser found
        simpa [Settled,Of] using source
      · simpa [Settled,is] using coherent other browser found
    · intro handler other waiting is
      cases Option.some.inj waiting
      exact inv.running _ other running is
  | some entries =>
    refine .waits ?_ inv.current (fun _ _ settled => settled) (by simp [browserOf])
    intro other browser found
    rcases lookup_updateKey_some found with ⟨rfl,before,present,rfl⟩ | ⟨differs,present⟩
    · have path : before.path = folder := by
        simpa [Settled] using coherent other before present
      simp [Settled,Of,Browser.store,path]
    · simpa [Settled,Ne.symm differs] using coherent other browser present

/-- A listing stored by a task, for the folder that the browser is left in or before one
of the handler. -/
private theorem Settled.stored {handler : Option Handler} {id : Nat} {browser : Browser}
    {folder : String} {entries : List Entry} (settled : Settled handler id browser)
    (met : awaited handler id = true ∨ folder = leftBy handler id browser) :
    Settled handler id (browser.store folder entries) := by
  have own (same : folder = browser.path) :
      Of (browser.store folder entries).path (browser.store folder entries) := by
    simp [Of,Browser.store,same]
  cases handler with
  | none => exact own (by simpa [awaited,leftBy] using met)
  | some handler =>
    cases handler with
    | answering button other => exact ⟨own (by simpa [awaited,leftBy] using met),fun _ => rfl⟩
    | listing other listed follows =>
      by_cases is : other = id
      · simpa [Settled,is,Browser.store] using settled
      · simpa [Settled,is] using own (by simpa [awaited,leftBy,is] using met)
    | failing other follows =>
      have same : folder = if other = id then left follows browser else browser.path := by
        simpa [awaited,leftBy] using met
      cases follows <;> simp [Settled,Of,Browser.store,left,same]
    | removing other => exact fun is => own (by simpa [awaited,leftBy,is] using met)
    | making other => exact fun is => own (by simpa [awaited,leftBy,is] using met)
    | confirming confirm => exact own (by simpa [awaited,leftBy] using met)
    | asking => exact own (by simpa [awaited,leftBy] using met)
    | naming name other mid => exact own (by simpa [awaited,leftBy] using met)
    | finishing => exact own (by simpa [awaited,leftBy] using met)

private theorem Sound.taskListed {chat : Chat} (inv : Sound chat) {task id : Nat} {folder : String}
    {newMessage : Bool} (result : Option (List Entry))
    (found : chat.tasks.lookup task = some (.listing id folder newMessage))
    (met : kept chat (.taskListed task result)) :
    Sound (taskListed task id folder newMessage result chat) := by
  cases result with
  | none => exact ⟨inv.coherent,inv.current,inv.running⟩
  | some entries =>
    simp only [kept,found,Option.all_eq_true,decide_eq_true_eq] at met
    refine ⟨?_,inv.current,inv.running⟩
    intro other browser present
    rcases lookup_updateKey_some present with ⟨rfl,before,was,rfl⟩ | ⟨_,was⟩
    · exact (inv.coherent other before was).stored (met.imp_right (fun same => same before was))
    · exact inv.coherent other browser was

private theorem Sound.taskProceed {chat after : Chat} (inv : Sound chat) {id : Nat} {task : Task}
    (went : taskProceed id task chat = some after) : Sound after := by
  cases task with
  | closing path mid =>
    cases Option.some.inj went
    have installed := inv.install path mid
    exact ⟨installed.coherent,installed.current,installed.running⟩
  | fetching browser name folder =>
    obtain ⟨state,_,rfl⟩ := Option.map_eq_some_iff.mp went
    exact ⟨inv.coherent,inv.current,inv.running⟩
  | transferring browser =>
    cases Option.some.inj went
    unfold transferred
    split
    · split <;> exact ⟨inv.coherent,inv.current,inv.running⟩
    · exact ⟨inv.coherent,inv.current,inv.running⟩
  | finishing =>
    cases Option.some.inj went
    exact ⟨inv.coherent,inv.current,inv.running⟩
  | listing browser folder newMessage => contradiction
  | sending browser => contradiction

private theorem Sound.frame {before after : Chat} (inv : Sound before)
    (browsers : after.browsers = before.browsers) (handler : after.handler = before.handler)
    (next : after.nextBrowser = before.nextBrowser)
    (current : ∀ id, after.current = some id → before.current = some id) : Sound after := by
  refine ⟨by rw [handler,browsers]; exact inv.coherent,?_,?_⟩
  · intro id is
    rw [next]
    exact inv.current id (current id is)
  · rw [handler,next]
    exact inv.running

theorem Sound.step {before after : Chat} {event : Event} (inv : Sound before)
    (met : fresh before event) (stepped : step before event = some after) : Sound after := by
  cases taken_of_step stepped with
  | nav mid button free held =>
    have pressed := met.1
    simp only [opened,free] at pressed
    exact inv.cbNav mid button free pressed
  | text name mid free flow =>
    have coherent := free ▸ inv.coherent
    exact .waits coherent inv.current (fun _ _ settled => settled) inv.current
  | document fileName uniqueId size after free went =>
    obtain ⟨id,_,rest⟩ := Option.bind_eq_some_iff.mp went
    obtain ⟨browser,_,went⟩ := Option.bind_eq_some_iff.mp rest
    cases Option.some.inj went
    have coherent := free ▸ inv.coherent
    split
    · exact .waits coherent inv.current (fun _ _ settled => settled) (by simp [browserOf])
    · exact inv.frame rfl rfl rfl (fun _ is => is)
  | launch path mid =>
    unfold Sftp.launch
    split
    · exact inv.frame rfl rfl rfl (by simp [createTask])
    · have installed := inv.install path mid
      exact ⟨installed.coherent,installed.current,installed.running⟩
  | close => exact inv.frame rfl rfl rfl (by simp)
  | drop => exact inv.frame rfl rfl rfl (fun _ is => is)
  | proceed handler after running went => exact inv.proceed running went
  | listed result id folder follows running => exact inv.listed running result met.2
  | shown mid handler after running went =>
    have coherent := running ▸ inv.coherent
    unfold Sftp.shown at went
    split at went
    next =>
      cases Option.some.inj went
      exact ⟨coherent,inv.current,by simp⟩
    next =>
      cases Option.some.inj went
      exact ⟨coherent,inv.current,by simp⟩
    next => contradiction
  | fail handler running may =>
    have coherent := running ▸ inv.coherent
    refine .rest (coherent.mono ?_) inv.current
    intro id browser settled
    cases handler with
    | answering button other => exact settled.1
    | confirming confirm => exact settled
    | asking => exact settled
    | finishing => exact settled
    | _ => contradiction
  | taskProceed id task after found went => exact inv.taskProceed went
  | taskFail id browser name folder found => exact inv.frame rfl rfl rfl (fun _ is => is)
  | taskListed id browser folder newMessage result found => exact inv.taskListed result found met.2
  | taskSent id browser mid found =>
    unfold Sftp.taskSent
    split
    · exact inv.frame rfl rfl rfl (fun _ is => is)
    next mid =>
      have written := inv.write browser (fun state => {state with mid := mid}) (fun _ => rfl)
        (fun _ => rfl)
      exact ⟨written.coherent,written.current,written.running⟩
  | cancel id => exact inv.frame rfl rfl rfl (fun _ is => is)

theorem sound_idle : Sound idle :=
  ⟨fun id browser found => by simp [idle] at found,by simp [idle],by simp [idle]⟩

/-- As long as no failed and no late listing leaves a list of another folder behind, an
update of `cb_nav` finds entries that are a listing of the path. -/
theorem nav_listed {chat : Chat} (reached : Reach step fresh idle chat) : Listed chat := by
  have sound : Sound chat := reached.invariant Sound sound_idle
    (fun _ _ _ before met taken => before.step met taken)
  intro button id browser running found
  have settled := sound.coherent id browser found
  rw [running] at settled
  obtain ⟨source,is⟩ := Option.isSome_iff_exists.mp (settled.2 rfl)
  rw [is,settled.1 source is]

instance (chat : Chat) (event : Event) : Decidable (opened chat event) := by
  unfold opened
  split <;> infer_instance

instance (chat : Chat) (event : Event) : Decidable (kept chat event) := by
  unfold kept
  split
  · infer_instance
  · split <;> infer_instance
  · infer_instance

instance (chat : Chat) (event : Event) : Decidable (fresh chat event) :=
  inferInstanceAs (Decidable (_ ∧ _))

def folderEntry : Entry := ⟨"sub",true,false,0⟩

def opening : List Event :=
  [.launch "/home" 1,.taskListed 0 (some [folderEntry]),.taskProceed 0]

/-- A button that leads into another folder, whose listing fails. -/
def failing (button : Button) : List Event := [.nav 1 button,.proceed,.listed none,.proceed]

def pressing (button : Button) : List Event := [.nav 1 button]

theorem nav_listed_entering :
    ∃ chat, (opening ++ failing (.cd 0) ++ pressing .rf).foldlM (guarded step fresh) idle =
      some chat ∧ chat.handler = some (.answering .rf 0) ∧ Listed chat := by
  obtain ⟨chat,run,running⟩ : ∃ chat,
      (opening ++ failing (.cd 0) ++ pressing .rf).foldlM (guarded step fresh) idle = some chat ∧
      chat.handler = some (.answering .rf 0) := ⟨_,rfl,rfl⟩
  exact ⟨chat,run,running,nav_listed (reach_of_run _ run)⟩

/-- After a failed `up` the old entries stand under the new path. -/
theorem failed_up_keeps_entries : ¬ ∀ chat, Reach step opened idle chat → Listed chat := by
  intro claimed
  obtain ⟨chat,run,running,found⟩ : ∃ chat,
      (opening ++ failing .up ++ pressing (.cd 0)).foldlM (guarded step opened) idle =
        some chat ∧ chat.handler = some (.answering (.cd 0) 0) ∧
      chat.browsers.lookup 0 = some ⟨"/",[folderEntry],0,.browse,1,some "/home"⟩ :=
    ⟨_,rfl,rfl,rfl⟩
  have listed := claimed chat (reach_of_run _ run) _ _ _ running found
  simp at listed

end AtronixX.SftpCoherence
