import AtronixX.Library.Transition
import AtronixX.Sftp

/-! Where an upload lands. The name of a file is cleaned at its message, but the folder is
read after the download, and `.` and `..` pass the cleaning. -/
namespace AtronixX.SftpUpload
open Library.Transition Library.Tables Sftp

def component (name : String) : Bool :=
  !(name == "" || name == "." || name == ".." ||
    name.toList.any (fun letter => letter == '/' || letter == Char.ofNat 0))

/-- The file becomes a child of the folder at its message, with a name that `rule` takes. -/
def Lands (rule : String → Bool) (upload : Upload) : Prop :=
  ∃ part, rule part = true ∧ upload.path = join upload.folder part

/-- When the file is there, the browser is in the folder at its message, up to a slash at
the end, and the name is one of `allowed`. -/
def stays (allowed : String → Bool) (chat : Chat) (event : Event) : Prop :=
  match event with
  | .taskProceed id => match chat.tasks.lookup id with
    | some (.fetching browser name folder) => allowed name = true ∧
      (chat.browsers.lookup browser).all (fun state => join state.path "" = join folder "") = true
    | _ => True
  | _ => True

def undotted (name : String) : Bool := name != "." && name != ".."

def undottedShort (name : String) : Bool := undotted name && decide (name.length ≤ 100)

structure Cleaned (name : String) : Prop where
  nonempty : name ≠ ""
  good : ∀ letter ∈ name.toList, badName letter = false

private theorem good_replaced (letter : Char) :
    badName (if badName letter then '_' else letter) = false := by
  split
  next => decide
  next good => simpa using good

theorem cleaned_uploadName (fileName : Option String) (uniqueId : String) :
    Cleaned (uploadName fileName uniqueId) := by
  unfold uploadName
  extract_lets given name cleaned
  by_cases empty : cleaned = ""
  · rw [if_pos empty]
    have good : ("file".toList.all fun letter => !badName letter) = true := rfl
    refine ⟨by decide,?_⟩
    simpa using List.all_eq_true.mp good
  · rw [if_neg empty]
    refine ⟨empty,?_⟩
    intro letter member
    rw [String.toList_ofList] at member
    obtain ⟨before,_,rfl⟩ := List.mem_map.mp member
    exact good_replaced before

example : uploadName (some "dir/..") "x" = ".." := by decide

theorem Cleaned.single {name : String} (clean : Cleaned name) : '/' ∉ name.toList := by
  intro member
  have good := clean.good '/' member
  revert good
  decide

theorem Cleaned.component {name : String} (clean : Cleaned name) :
    component name = undotted name := by
  have letters : name.toList.any (fun letter => letter == '/' || letter == Char.ofNat 0) = false := by
    rw [List.any_eq_false]
    intro letter member
    have good := clean.good letter member
    simp only [badName,Bool.or_eq_false_iff] at good
    simp [good.1.2,good.2]
  have filled : (name == "") = false := beq_eq_false_iff_ne.mpr clean.nonempty
  simp [SftpUpload.component,undotted,letters,filled,bne]

theorem Cleaned.validName {name : String} (clean : Cleaned name) :
    validName name = undottedShort name := by
  have letters : name.toList.any badName = false := by
    rw [List.any_eq_false]
    intro letter member
    simp [clean.good letter member]
  have filled : (name == "") = false := beq_eq_false_iff_ne.mpr clean.nonempty
  have long : decide (name.length > 100) = !decide (name.length ≤ 100) := by
    rw [← decide_not]
    exact decide_eq_decide.mpr (by omega)
  simp [Sftp.validName,undottedShort,undotted,letters,filled,long,bne]

theorem single_of_component {name : String} (taken : component name = true) :
    '/' ∉ name.toList := by
  intro member
  have slash : name.toList.any (fun letter => letter == '/' || letter == Char.ofNat 0) = true :=
    List.any_eq_true.mpr ⟨'/',member,rfl⟩
  simp [component,slash] at taken

theorem single_of_validName {name : String} (taken : validName name = true) :
    '/' ∉ name.toList := by
  intro member
  have slash : name.toList.any badName = true := List.any_eq_true.mpr ⟨'/',member,rfl⟩
  simp [Sftp.validName,slash] at taken

theorem lands_join_iff {rule : String → Bool} {path folder name : String}
    (single : '/' ∉ name.toList) (singles : ∀ part, rule part = true → '/' ∉ part.toList) :
    Lands rule ⟨join path name,name,folder⟩ ↔
      rule name = true ∧ join path "" = join folder "" := by
  constructor
  · rintro ⟨part,taken,same⟩
    have part_single := singles part taken
    have one : name = part := by
      have bases := congrArg basename same
      rwa [basename_join path single,basename_join folder part_single] at bases
    subst one
    refine ⟨taken,?_⟩
    have texts : (join path name).toList = (join folder name).toList := congrArg String.toList same
    rw [join_single path single,join_single folder single,String.toList_append,
      String.toList_append] at texts
    exact String.toList_inj.mp (List.append_cancel_right texts)
  · rintro ⟨taken,same⟩
    refine ⟨name,taken,?_⟩
    rw [join_single path single,join_single folder single,same]

def Fetches (chat : Chat) : Prop :=
  ∀ id browser name folder, chat.tasks.lookup id = some (.fetching browser name folder) →
    Cleaned name

structure Quiet (before after : Chat) : Prop where
  uploads : after.uploads = before.uploads
  fetches : Fetches before → Fetches after

private theorem Quiet.rest {before after : Chat} (uploads : after.uploads = before.uploads)
    (tasks : after.tasks = before.tasks) : Quiet before after := by
  refine ⟨uploads,?_⟩
  intro fetches id browser name folder found
  rw [tasks] at found
  exact fetches id browser name folder found

private theorem Quiet.insert {before after : Chat} (id : Nat) (task : Task)
    (uploads : after.uploads = before.uploads) (tasks : after.tasks = before.tasks.insert id task)
    (clean : ∀ browser name folder, task = .fetching browser name folder → Cleaned name) :
    Quiet before after := by
  refine ⟨uploads,?_⟩
  intro fetches other browser name folder found
  rw [tasks] at found
  rcases lookup_insert_some found with ⟨_,same⟩ | ⟨_,present⟩
  · exact clean browser name folder same.symm
  · exact fetches other browser name folder present

private theorem quiet_setTask (chat : Chat) (id : Nat) (task : Task)
    (other : ∀ browser name folder, task ≠ .fetching browser name folder) :
    Quiet chat (setTask id task chat) :=
  .insert id task rfl rfl (fun browser name folder same => absurd same (other browser name folder))

private theorem quiet_endTask (chat : Chat) (id : Nat) : Quiet chat (endTask id chat) := by
  refine ⟨rfl,?_⟩
  intro fetches other browser name folder found
  exact fetches other browser name folder (lookup_erase_some found).2

private theorem quiet_render (chat : Chat) (id : Nat) (follows : After) :
    Quiet chat (render id follows chat) := by
  unfold Sftp.render
  split <;> exact .rest rfl rfl

private theorem quiet_answered (button : Button) (id : Nat) (browser : Browser) (chat : Chat) :
    Quiet chat (answered button id browser chat) := by
  have drawn (follows : After) (write : Browser → Browser) :
      Quiet chat (Sftp.render id follows (change id write chat)) := by
    have after := quiet_render (change id write chat) id follows
    exact ⟨after.uploads,after.fetches⟩
  cases button with
  | uph => exact .rest rfl rfl
  | exit => exact .rest rfl rfl
  | rf =>
    have after := quiet_render {chat with flow := none} id .plain
    exact ⟨after.uploads,after.fetches⟩
  | pg page => exact drawn .plain _
  | up => exact drawn .plain _
  | dm => exact drawn .plain _
  | md => exact .rest rfl rfl
  | cd index =>
    simp only [Sftp.answered]
    split
    · exact quiet_render chat id .plain
    · exact drawn _ _
  | dl index =>
    simp only [Sftp.answered]
    split
    · exact quiet_render chat id .plain
    · unfold startDownload
      split
      · exact .rest rfl rfl
      · exact .insert chat.nextTask _ rfl rfl (by simp)
  | del index =>
    simp only [Sftp.answered]
    split
    · exact quiet_render chat id .plain
    · exact .rest rfl rfl
  | delyes confirm =>
    simp only [Sftp.answered]
    split
    · exact quiet_render chat id .plain
    · exact .rest rfl rfl

private theorem quiet_proceed {chat after : Chat} {handler : Handler}
    (went : proceed handler chat = some after) : Quiet chat after := by
  cases handler with
  | answering button id =>
    obtain ⟨browser,_,rfl⟩ := Option.map_eq_some_iff.mp went
    exact quiet_answered button id browser chat
  | failing id follows => cases follows <;> cases Option.some.inj went <;> exact .rest rfl rfl
  | removing id =>
    cases Option.some.inj went
    exact quiet_render chat id .plain
  | naming name browser mid =>
    cases Option.some.inj went
    unfold Sftp.named
    split
    · exact .rest rfl rfl
    · split <;> exact .rest rfl rfl
  | making id =>
    cases Option.some.inj went
    exact quiet_render chat id .plain
  | finishing =>
    cases Option.some.inj went
    exact .rest rfl rfl
  | listing id folder follows => contradiction
  | confirming confirm => contradiction
  | asking => contradiction

private theorem quiet_transferred (id task : Nat) (chat : Chat) :
    Quiet chat (transferred id task chat) := by
  unfold transferred
  split
  · split
    · exact quiet_endTask chat task
    · exact quiet_setTask chat task _ (by simp)
  · exact quiet_endTask chat task

theorem quiet_or_uploads {before after : Chat} {event : Event}
    (stepped : step before event = some after) :
    Quiet before after ∨ ∃ id browser name folder state, event = .taskProceed id ∧
      before.tasks.lookup id = some (.fetching browser name folder) ∧
      before.browsers.lookup browser = some state ∧
      after = setTask id (.transferring browser) {before with
        uploads := ⟨join state.path name,name,folder⟩ :: before.uploads} := by
  cases taken_of_step stepped with
  | nav mid button free held =>
    left
    unfold cbNav
    split <;> exact .rest rfl rfl
  | text name mid free flow => exact .inl (.rest rfl rfl)
  | document fileName uniqueId size after free went =>
    left
    obtain ⟨id,_,rest⟩ := Option.bind_eq_some_iff.mp went
    obtain ⟨browser,_,went⟩ := Option.bind_eq_some_iff.mp rest
    cases Option.some.inj went
    split
    · exact .rest rfl rfl
    · refine .insert before.nextTask _ rfl rfl ?_
      intro _ name _ same
      cases same
      exact cleaned_uploadName fileName uniqueId
  | launch path mid =>
    left
    unfold Sftp.launch
    split <;> exact .insert before.nextTask _ rfl rfl (by simp)
  | close => exact .inl (.rest rfl rfl)
  | drop => exact .inl (.rest rfl rfl)
  | proceed handler after running went => exact .inl (quiet_proceed went)
  | listed result id folder follows running =>
    left
    cases result <;> exact .rest rfl rfl
  | shown mid handler after running went =>
    left
    unfold Sftp.shown at went
    split at went
    next => cases Option.some.inj went; exact .rest rfl rfl
    next => cases Option.some.inj went; exact .rest rfl rfl
    next => contradiction
  | fail handler running may => exact .inl (.rest rfl rfl)
  | taskProceed id task after found went =>
    cases task with
    | closing path mid =>
      cases Option.some.inj went
      exact .inl (.insert id _ rfl rfl (by simp))
    | fetching browser name folder =>
      obtain ⟨state,present,rfl⟩ := Option.map_eq_some_iff.mp went
      exact .inr ⟨id,browser,name,folder,state,rfl,found,present,rfl⟩
    | transferring browser =>
      cases Option.some.inj went
      exact .inl (quiet_transferred browser id before)
    | finishing =>
      cases Option.some.inj went
      exact .inl (quiet_endTask before id)
    | listing browser folder newMessage => contradiction
    | sending browser => contradiction
  | taskFail id browser name folder found =>
    exact .inl (quiet_setTask before id _ (by simp))
  | taskListed id browser folder newMessage result found =>
    left
    cases result with
    | none => exact quiet_setTask before id _ (by simp)
    | some entries => cases newMessage <;> exact .insert id _ rfl rfl (by simp)
  | taskSent id browser mid found =>
    left
    cases mid with
    | none => exact quiet_endTask before id
    | some mid => exact .insert id _ rfl rfl (by simp)
  | cancel id => exact .inl (quiet_endTask before id)

theorem fetches_step {before after : Chat} {event : Event} (fetches : Fetches before)
    (stepped : step before event = some after) : Fetches after := by
  rcases quiet_or_uploads stepped with quiet | ⟨id,browser,name,folder,state,_,_,_,rfl⟩
  · exact quiet.fetches fetches
  · exact (quiet_setTask {before with
      uploads := ⟨join state.path name,name,folder⟩ :: before.uploads} id
      (.transferring browser) (by simp)).fetches fetches

instance (allowed : String → Bool) (chat : Chat) (event : Event) :
    Decidable (stays allowed chat event) := by
  apply event.casesOn (motive := fun event => Decidable (stays allowed chat event))
  all_goals
    intros
    unfold stays
  case taskProceed id =>
    dsimp only
    exact match chat.tasks.lookup id with
      | some (.fetching ..) => inferInstanceAs (Decidable (_ ∧ _))
      | none | some (.closing ..) | some (.transferring ..) | some (.listing ..)
      | some (.sending ..) | some .finishing => isTrue trivial
  all_goals exact isTrue trivial

def Landed (rule : String → Bool) (chat : Chat) : Prop := ∀ upload ∈ chat.uploads, Lands rule upload

variable {rule allowed : String → Bool}

private theorem fetching_of_strays {chat : Chat} {event : Event}
    (strays : ¬ stays allowed chat event) : ∃ id browser name folder, event = .taskProceed id ∧
      chat.tasks.lookup id = some (.fetching browser name folder) := by
  unfold stays at strays
  split at strays
  next id =>
    split at strays
    next browser name folder found => exact ⟨id,browser,name,folder,rfl,found⟩
    next => exact absurd trivial strays
  next => exact absurd trivial strays

private theorem uploads_of_fetching {chat after : Chat} {id browser : Nat} {name folder : String}
    (found : chat.tasks.lookup id = some (.fetching browser name folder))
    (stepped : step chat (.taskProceed id) = some after) :
    ∃ state, chat.browsers.lookup browser = some state ∧
      ⟨join state.path name,name,folder⟩ ∈ after.uploads := by
  have went : taskProceed id (.fetching browser name folder) chat = some after := by
    simpa [step,found] using stepped
  obtain ⟨state,present,rfl⟩ := Option.map_eq_some_iff.mp went
  exact ⟨state,present,List.mem_cons_self⟩

private theorem lands_iff_stays {chat : Chat} (fetches : Fetches chat)
    (singles : ∀ part, rule part = true → '/' ∉ part.toList)
    (clean : ∀ name, Cleaned name → rule name = allowed name) {id browser : Nat}
    {name folder : String} {state : Browser}
    (found : chat.tasks.lookup id = some (.fetching browser name folder))
    (present : chat.browsers.lookup browser = some state) :
    Lands rule ⟨join state.path name,name,folder⟩ ↔ stays allowed chat (.taskProceed id) := by
  have cleaned := fetches id browser name folder found
  rw [lands_join_iff cleaned.single singles,clean name cleaned]
  simp [stays,found,present]

private theorem landed_iff_stays (singles : ∀ part, rule part = true → '/' ∉ part.toList)
    (clean : ∀ name, Cleaned name → rule name = allowed name) (events : List Event) (last : Chat)
    (ran : events.foldlM step idle = some last) :
    Landed rule last ↔ events.foldlM (guarded step (stays allowed)) idle = some last := by
  have keeps : ∀ before event after, Fetches before ∧ Landed rule before →
      stays allowed before event → step before event = some after →
      Fetches after ∧ Landed rule after := by
    intro before event after sound met stepped
    obtain ⟨fetches,landed⟩ := sound
    refine ⟨fetches_step fetches stepped,?_⟩
    intro upload member
    rcases quiet_or_uploads stepped with quiet | ⟨id,browser,name,folder,state,rfl,found,present,rfl⟩
    · exact landed upload (quiet.uploads ▸ member)
    · rcases List.mem_cons.mp member with rfl | earlier
      · exact (lands_iff_stays fetches singles clean found present).mpr met
      · exact landed upload earlier
  have leaves : ∀ before event after, Fetches before ∧ Landed rule before →
      ¬ stays allowed before event → step before event = some after → ¬ Landed rule after := by
    intro before event after sound strays stepped landed
    obtain ⟨id,browser,name,folder,rfl,found⟩ := fetching_of_strays strays
    obtain ⟨state,present,uploaded⟩ := uploads_of_fetching found stepped
    exact strays ((lands_iff_stays sound.1 singles clean found present).mp (landed _ uploaded))
  have misses : ∀ before event after, ¬ Landed rule before → step before event = some after →
      ¬ Landed rule after := by
    intro before event after missed stepped landed
    apply missed
    intro upload member
    apply landed
    rcases quiet_or_uploads stepped with quiet | ⟨id,browser,name,folder,state,_,_,_,rfl⟩
    · exact quiet.uploads ▸ member
    · exact List.mem_cons_of_mem _ member
  have initial : Fetches idle ∧ Landed rule idle := by simp [Fetches,Landed,idle]
  rcases guarded_or_left keeps leaves misses events initial ran with ⟨met,sound⟩ | ⟨broken,missed⟩
  · exact iff_of_true sound.2 met
  · exact iff_of_false missed (by rw [broken]; simp)

/-- The uploads of a run become children of the folders at their messages if and only if
each finds its browser in that folder and has another name than `.` and `..`; by the rule
for new folders, if it is also no longer than theirs. -/
theorem uploads_land_iff (events : List Event) (last : Chat)
    (ran : events.foldlM step idle = some last) :
    ((∀ upload ∈ last.uploads, Lands component upload) ↔
      events.foldlM (guarded step (stays undotted)) idle = some last) ∧
    ((∀ upload ∈ last.uploads, Lands validName upload) ↔
      events.foldlM (guarded step (stays undottedShort)) idle = some last) :=
  ⟨landed_iff_stays (fun _ => single_of_component) (fun _ clean => clean.component) events last ran,
    landed_iff_stays (fun _ => single_of_validName) (fun _ clean => clean.validName) events last ran⟩

def sub : Entry := ⟨"sub",true,false,0⟩

def sending : List Event :=
  [.launch "/home" 1,.taskListed 0 (some [sub]),.taskProceed 0,.document (some "dir/a") "x" 1]

def entering : List Event := [.nav 1 (.cd 0),.proceed,.listed (some []),.proceed]

def leaving : List Event := [.nav 1 .up,.proceed,.listed (some [sub]),.proceed]

def arriving : List Event := [.taskProceed 1]

def returning : List Event := sending ++ entering ++ leaving ++ arriving

theorem uploads_land_after_return : ∃ last, returning.foldlM step idle = some last ∧
    last.uploads = [⟨"/home/a","a","/home"⟩] ∧
    (∀ upload ∈ last.uploads, Lands component upload) ∧
    ∀ upload ∈ last.uploads, Lands validName upload := by
  obtain ⟨last,ran,uploads,near,short⟩ : ∃ last, returning.foldlM step idle = some last ∧
      last.uploads = [⟨"/home/a","a","/home"⟩] ∧
      returning.foldlM (guarded step (stays undotted)) idle = some last ∧
      returning.foldlM (guarded step (stays undottedShort)) idle = some last :=
    ⟨_,rfl,rfl,rfl,rfl⟩
  have landed := uploads_land_iff returning last ran
  exact ⟨last,ran,uploads,landed.1.mpr near,landed.2.mpr short⟩

theorem upload_follows_browser : ¬ ∀ (events : List Event) (last : Chat),
    events.foldlM step idle = some last → ∀ upload ∈ last.uploads, Lands component upload := by
  intro claimed
  obtain ⟨last,ran,uploads⟩ : ∃ last, (sending ++ entering ++ arriving).foldlM step idle =
      some last ∧ last.uploads = [⟨join "/home/sub" "a","a","/home"⟩] := ⟨_,rfl,rfl⟩
  have landed := claimed _ last ran ⟨join "/home/sub" "a","a","/home"⟩ (by simp [uploads])
  have same := ((lands_join_iff (by decide) (fun _ => single_of_component)).mp landed).2
  revert same
  decide

end AtronixX.SftpUpload
