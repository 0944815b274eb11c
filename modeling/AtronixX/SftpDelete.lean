import AtronixX.Library.Transition
import AtronixX.Sftp

/-! What a confirmed delete removes. The confirmation carries an index only, so it names
what is removed while the browser still holds the list that the index was taken from. -/
namespace AtronixX.SftpDelete
open Library.Transition Sftp

def target (confirm : Confirm) : String := join confirm.folder confirm.entry.name

/-- Every path removed is the one that the pressed confirmation was shown for. -/
def Named (chat : Chat) : Prop := ∀ removal ∈ chat.removals, removal.path = target removal.confirm

/-- A confirmed index that finds an entry is looked up in the folder and the list that it
was taken from. -/
def sameList (chat : Chat) (event : Event) : Prop :=
  match event, chat.handler with
  | .proceed, some (.answering (.delyes confirm) id) =>
    (chat.browsers.lookup id).all (fun browser => browser.entries[confirm.index]? = none ∨
      browser.path = confirm.folder ∧ browser.entries = confirm.entries) = true
  | _, _ => True

def Drawn (confirm : Confirm) : Prop := confirm.entries[confirm.index]? = some confirm.entry

def Drawing (handler : Option Handler) : Prop :=
  match handler with
  | some (.confirming confirm) => Drawn confirm
  | some (.answering (.delyes confirm) _) => Drawn confirm
  | _ => True

structure Intact (chat : Chat) : Prop where
  named : Named chat
  confirms : ∀ shown ∈ chat.confirms, Drawn shown.2
  handler : Drawing chat.handler

private theorem Intact.frame {before after : Chat} (inv : Intact before)
    (removals : after.removals = before.removals) (confirms : after.confirms = before.confirms)
    (drawing : Drawing after.handler) : Intact after := by
  refine ⟨?_,?_,drawing⟩
  · unfold Named
    rw [removals]
    exact inv.named
  · rw [confirms]
    exact inv.confirms

private theorem Intact.render {chat : Chat} (inv : Intact chat) (id : Nat) (follows : After) :
    Intact (render id follows chat) := by
  unfold Sftp.render
  split <;> exact inv.frame rfl rfl trivial

private theorem Intact.cbNav {chat : Chat} (inv : Intact chat) (mid : Int) (button : Button)
    (drawn : ∀ confirm, button = .delyes confirm → Drawn confirm) :
    Intact (cbNav mid button chat) := by
  unfold Sftp.cbNav
  split
  next => exact inv.frame rfl rfl trivial
  next id current =>
    refine inv.frame rfl rfl ?_
    cases button with
    | delyes confirm => exact drawn confirm rfl
    | _ => trivial

private theorem Intact.answered {chat : Chat} (inv : Intact chat) {button : Button} {id : Nat}
    {browser : Browser} (running : chat.handler = some (.answering button id))
    (found : chat.browsers.lookup id = some browser) (met : sameList chat .proceed) :
    Intact (answered button id browser chat) := by
  have waits {handler : Handler} (drawing : Drawing (some handler)) : Intact (wait handler chat) :=
    inv.frame rfl rfl drawing
  have drawn (follows : After) (write : Browser → Browser) :
      Intact (Sftp.render id follows (change id write chat)) := by
    have changed : Intact (change id write chat) := inv.frame rfl rfl inv.handler
    exact changed.render id follows
  cases button with
  | uph => exact waits trivial
  | exit => exact inv.frame rfl rfl trivial
  | rf =>
    have dropped : Intact {chat with flow := none} := inv.frame rfl rfl inv.handler
    exact dropped.render id .plain
  | pg page => exact drawn .plain _
  | up => exact drawn .plain _
  | dm => exact drawn .plain _
  | md => exact waits trivial
  | cd index =>
    simp only [Sftp.answered]
    split
    · exact inv.render id .plain
    · exact drawn _ _
  | dl index =>
    simp only [Sftp.answered]
    split
    · exact inv.render id .plain
    · unfold startDownload
      split <;> exact inv.frame rfl rfl trivial
  | del index =>
    simp only [Sftp.answered]
    split
    · exact inv.render id .plain
    next entry at_ => exact waits at_
  | delyes confirm =>
    simp only [Sftp.answered]
    split
    · exact inv.render id .plain
    next entry present =>
      have shown : Drawn confirm := by
        have drawing := inv.handler
        rw [running] at drawing
        exact drawing
      have same : browser.path = confirm.folder ∧ browser.entries = confirm.entries := by
        simp only [sameList,running,found,Option.all_some,decide_eq_true_eq,present] at met
        exact met.resolve_left (by simp)
      have one : entry = confirm.entry := by
        rw [same.2,shown] at present
        exact (Option.some.inj present).symm
      refine ⟨?_,inv.confirms,trivial⟩
      intro removal member
      rcases List.mem_cons.mp member with rfl | before
      · simp only [target,same.1,one]
      · exact inv.named removal before

private theorem Intact.proceed {chat after : Chat} (inv : Intact chat) {handler : Handler}
    (running : chat.handler = some handler) (met : sameList chat .proceed)
    (went : proceed handler chat = some after) : Intact after := by
  cases handler with
  | answering button id =>
    obtain ⟨browser,found,rfl⟩ := Option.map_eq_some_iff.mp went
    exact inv.answered running found met
  | failing id follows => cases follows <;> cases Option.some.inj went <;> exact inv.frame rfl rfl trivial
  | removing id =>
    cases Option.some.inj went
    exact inv.render id .plain
  | naming name browser mid =>
    cases Option.some.inj went
    unfold Sftp.named
    split
    · exact inv.frame rfl rfl trivial
    · split <;> exact inv.frame rfl rfl trivial
  | making id =>
    cases Option.some.inj went
    exact inv.render id .plain
  | finishing =>
    cases Option.some.inj went
    exact inv.frame rfl rfl trivial
  | listing id folder follows => contradiction
  | confirming confirm => contradiction
  | asking => contradiction

private theorem Intact.taskProceed {chat after : Chat} (inv : Intact chat) {id : Nat} {task : Task}
    (went : taskProceed id task chat = some after) : Intact after := by
  cases task with
  | closing path mid =>
    cases Option.some.inj went
    exact inv.frame rfl rfl inv.handler
  | fetching browser name folder =>
    obtain ⟨state,_,rfl⟩ := Option.map_eq_some_iff.mp went
    exact inv.frame rfl rfl inv.handler
  | transferring browser =>
    cases Option.some.inj went
    unfold transferred
    split
    · split <;> exact inv.frame rfl rfl inv.handler
    · exact inv.frame rfl rfl inv.handler
  | finishing =>
    cases Option.some.inj went
    exact inv.frame rfl rfl inv.handler
  | listing browser folder newMessage => contradiction
  | sending browser => contradiction

theorem Intact.step {before after : Chat} {event : Event} (inv : Intact before)
    (met : sameList before event) (stepped : step before event = some after) : Intact after := by
  cases taken_of_step stepped with
  | nav mid button free held =>
    exact inv.cbNav mid button (fun confirm same => inv.confirms _ (held confirm same))
  | text name mid free flow => exact inv.frame rfl rfl trivial
  | document fileName uniqueId size after free went =>
    obtain ⟨id,_,rest⟩ := Option.bind_eq_some_iff.mp went
    obtain ⟨browser,_,went⟩ := Option.bind_eq_some_iff.mp rest
    cases Option.some.inj went
    split
    · exact inv.frame rfl rfl trivial
    · exact inv.frame rfl rfl inv.handler
  | launch path mid =>
    unfold Sftp.launch
    split <;> exact inv.frame rfl rfl inv.handler
  | close => exact inv.frame rfl rfl inv.handler
  | drop => exact inv.frame rfl rfl inv.handler
  | proceed handler after running went => exact inv.proceed running met went
  | listed result id folder follows running => cases result <;> exact inv.frame rfl rfl trivial
  | shown mid handler after running went =>
    have drawing := inv.handler
    rw [running] at drawing
    unfold Sftp.shown at went
    split at went
    next confirm =>
      cases Option.some.inj went
      refine ⟨inv.named,?_,trivial⟩
      intro display member
      rcases List.mem_cons.mp member with rfl | before
      · exact drawing
      · exact inv.confirms display before
    next =>
      cases Option.some.inj went
      exact inv.frame rfl rfl trivial
    next => contradiction
  | fail handler running may => exact inv.frame rfl rfl trivial
  | taskProceed id task after found went => exact inv.taskProceed went
  | taskFail id browser name folder found => exact inv.frame rfl rfl inv.handler
  | taskListed id browser folder newMessage result found =>
    cases result <;> exact inv.frame rfl rfl inv.handler
  | taskSent id browser mid found => cases mid <;> exact inv.frame rfl rfl inv.handler
  | cancel id => exact inv.frame rfl rfl inv.handler

theorem intact_idle : Intact idle := ⟨by simp [Named,idle],by simp [idle],trivial⟩

/-- As long as every confirmed index is looked up in the list that it was taken from,
every removed path is the one that the pressed confirmation was shown for. -/
theorem removals_named {chat : Chat} (reached : Reach step sameList idle chat) : Named chat :=
  (reached.invariant Intact intact_idle (fun _ _ _ before met taken => before.step met taken)).named

instance (chat : Chat) (event : Event) : Decidable (sameList chat event) := by
  apply event.casesOn (motive := fun event => Decidable (sameList chat event))
  all_goals
    intros
    unfold sameList
  case proceed =>
    exact match chat.handler with
      | some (.answering button id) => match button with
        | .delyes _ => inferInstanceAs (Decidable (_ = _))
        | .uph | .exit | .rf | .pg _ | .up | .dm | .md | .cd _ | .dl _ | .del _ => isTrue trivial
      | none | some (.confirming ..) | some .asking | some (.removing ..) | some (.naming ..)
      | some (.making ..) | some (.listing ..) | some (.failing ..)
      | some .finishing => isTrue trivial
  all_goals exact isTrue trivial

def file (name : String) : Entry := ⟨name,false,false,1⟩

def shownFor : Confirm := ⟨0,file "b","/home",[file "b"]⟩

def sending : List Event :=
  [.launch "/home" 1,.taskListed 0 (some [file "b"]),.taskProceed 0,.document (some "a") "x" 1]

def arriving : List Event :=
  [.taskProceed 1,.taskProceed 1,.taskListed 1 (some [file "a",file "b"])]

def asking : List Event := [.nav 1 (.del 0),.proceed,.shown 1]

def confirming : List Event := [.nav 1 (.delyes shownFor),.proceed]

theorem removals_named_before_arrival :
    ∃ chat, (sending ++ asking ++ confirming ++ arriving).foldlM (guarded step sameList) idle =
      some chat ∧ chat.removals = [⟨"/home/b",false,shownFor,"/home",[file "b"]⟩] ∧
        Named chat := by
  obtain ⟨chat,run,removed⟩ : ∃ chat,
      (sending ++ asking ++ confirming ++ arriving).foldlM (guarded step sameList) idle =
        some chat ∧ chat.removals = [⟨"/home/b",false,shownFor,"/home",[file "b"]⟩] :=
    ⟨_,rfl,rfl⟩
  exact ⟨chat,run,removed,removals_named (reach_of_run _ run)⟩

/-- The index of `b` stands for `a` when the upload is listed before the press. -/
theorem upload_moves_confirmed_index : ¬ ∀ chat, Reach step always idle chat → Named chat := by
  intro claimed
  obtain ⟨chat,run,removed⟩ : ∃ chat,
      (sending ++ asking ++ arriving ++ confirming).foldlM (guarded step always) idle =
        some chat ∧ chat.removals = [⟨"/home/a",false,shownFor,"/home",[file "a",file "b"]⟩] :=
    ⟨_,rfl,rfl⟩
  have named := claimed chat (reach_of_run _ run) _ (removed ▸ List.mem_singleton_self _)
  revert named
  decide

end AtronixX.SftpDelete
