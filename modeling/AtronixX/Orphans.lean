import AtronixX.Library.Transition
import AtronixX.Ownership

/-! No connection is orphaned by careful steps: each step lets go only of what is closed,
or passes a connection on to the place that is next. -/
namespace AtronixX.Orphans
open Library.Custody Library.Tables Library.Transition Live

private theorem storing_unhandled {chat : Chat} (inv : Kept chat) {id : Nat}
    (is : Storing chat id) (other : Chat) : Handled other chat.handler := by
  have handled := inv.handled
  unfold Handled at handled ⊢
  split
  case h_5 => trivial
  all_goals
    rename_i running
    rw [running] at handled
    exact absurd is (handled.1 id)

private theorem only {chat : Chat} (inv : Kept chat) {id other : Nat} (is : Storing chat id)
    (also : Storing chat other) : other = id :=
  Option.some.inj ((inv.tracked other also).symm.trans (inv.tracked id is))

private theorem storing_fewer {chat after : Chat} {id other : Nat} {new : Task}
    (is : Storing chat id) (tasks : after.tasks = chat.tasks.insert id new)
    (still : Storing after other) : Storing chat other := by
  obtain ⟨task,found,rest⟩ := still
  rcases lookup_insert_some (tasks ▸ found) with ⟨rfl,_⟩ | ⟨_,was⟩
  · exact is
  · exact ⟨task,was,rest⟩

private theorem known_insert {chat after : Chat} (inv : Kept chat) {id other : Nat}
    {task new another : Task} (found : chat.tasks.lookup id = some task)
    (tasks : after.tasks = chat.tasks.insert id new)
    (present : after.tasks.lookup other = some another) : other < chat.next := by
  rcases lookup_insert_some (tasks ▸ present) with ⟨rfl,_⟩ | ⟨_,was⟩
  · exact inv.known other task found
  · exact inv.known other another was

private theorem Kept.put {chat after : Chat} (inv : Kept chat) {id connection : Nat} {task : Task}
    (found : chat.tasks.lookup id = some task) (alive : task.cancelled = false)
    (may : mayStore task.phase = true) (owns : owned task.phase = some connection) (phase : Phase)
    (done : owned phase = none) (late : mayStore phase = false) (entry : Entry)
    (held : stored after entry = some connection)
    (others : ∀ other, other ≠ entry → stored after other = stored chat other)
    (room : ∀ old, stored chat entry = some old → old ∈ chat.closed)
    (rest : after = {setPhase id task phase chat with
      session := after.session, sftp := after.sftp}) : Kept after := by
  have is : Storing chat id := ⟨task,found,alive,may⟩
  have tasks : after.tasks = chat.tasks.insert id {task with phase := phase} := by rw [rest]; rfl
  have gone : ¬ Storing after id := by
    rintro ⟨task',found',_,may'⟩
    rw [tasks,AList.lookup_insert] at found'
    cases Option.some.inj found'
    rw [late] at may'
    contradiction
  have fewer (other : Nat) (still : Storing after other) : Storing chat other :=
    storing_fewer is tasks still
  refine ⟨?_,?_,?_,?_,?_,?_⟩
  · have opened : after.opened = chat.opened := by rw [rest]; rfl
    have closed : after.closed = chat.closed := by rw [rest]; rfl
    rw [opened,closed]
    refine inv.accounted.pass (.task id) (.entry entry) connection ?_ held ?_ room ?_
      (fun _ member => member)
    · simp [content,found,owns]
    · simp [content,tasks,done]
    · rintro (other | _ | other) apart apart'
      · exact others other (fun same => apart' (congrArg Place.entry same))
      · rw [rest]
        rfl
      · have differs : other ≠ id := fun same => apart (congrArg Place.task same)
        simp [content,tasks,AList.lookup_insert_ne differs]
  · intro other task' found'
    have next : after.next = chat.next := by rw [rest]; rfl
    rw [next]
    exact known_insert inv found tasks found'
  · intro other still
    have same : other = id := only inv is (fewer other still)
    exact absurd (same ▸ still) gone
  · intro _ other still
    have same : other = id := only inv is (fewer other still)
    exact gone (same ▸ still)
  · rintro other ⟨task',found',alive',connection',at_⟩
    have still : Storing after other := ⟨task',found',alive',by rw [at_]; rfl⟩
    have same : other = id := only inv is (fewer other still)
    exact absurd (same ▸ still) gone
  · have handler : after.handler = chat.handler := by rw [rest]; rfl
    rw [handler]
    exact storing_unhandled inv is after

private theorem Kept.create {chat : Chat} (inv : Kept chat) (clear : Clear chat) (task : Task)
    (tables : Database.Tables) (owns : owned task.phase = chat.handler.bind carried)
    (elsewhere : ∀ connection, task.phase ≠ .replacing connection) :
    Kept (createTask task {chat with handler := none, tables := tables}) := by
  have fresh : chat.tasks.lookup chat.next = none := by
    cases found : chat.tasks.lookup chat.next with
    | none => rfl
    | some old => exact absurd (inv.known chat.next old found) (Nat.lt_irrefl _)
  have unchanged (place : Place) (apart : place ≠ .handler)
      (apart' : place ≠ .task chat.next) : content (createTask task
        {chat with handler := none, tables := tables}) place = content chat place := by
    rcases place with (_ | _ | _) | _ | other
    · rfl
    · rfl
    · rfl
    · exact absurd rfl apart
    · have differs : other ≠ chat.next := fun same => apart' (congrArg Place.task same)
      simp [content,createTask,AList.lookup_insert_ne differs]
  have lone (id : Nat) (is : Storing (createTask task
      {chat with handler := none, tables := tables}) id) : id = chat.next := by
    obtain ⟨task',found,rest⟩ := is
    rcases lookup_insert_some found with ⟨same,_⟩ | ⟨_,was⟩
    · exact same
    · exact absurd ⟨task',was,rest⟩ (clear.1 id)
  refine ⟨?_,?_,?_,?_,?_,trivial⟩
  · cases had : chat.handler.bind carried with
    | none =>
      refine inv.accounted.released ⟨?_,fun _ member => member⟩
      intro place
      by_cases apart : place = .handler
      · subst apart
        exact .inl had.symm
      · by_cases apart' : place = .task chat.next
        · subst apart'
          rw [had] at owns
          exact .inl (by simp [content,createTask,fresh,owns])
        · exact .inl (unchanged place apart apart')
    | some connection =>
      rw [had] at owns
      refine inv.accounted.pass .handler (.task chat.next) connection had ?_ rfl ?_ ?_
        (fun _ member => member)
      · simp [content,createTask,owns]
      · intro old held
        simp [content,fresh] at held
      · intro place apart apart'
        exact unchanged place apart apart'
  · intro id task' found
    rcases lookup_insert_some found with ⟨rfl,_⟩ | ⟨_,was⟩
    · exact Nat.lt_succ_self _
    · exact Nat.lt_succ_of_lt (inv.known id task' was)
  · intro id is
    exact congrArg some (lone id is).symm
  · intro waits
    exact absurd clear.2 waits
  · rintro id ⟨task',found,alive,connection,at_⟩
    rcases lookup_insert_some found with ⟨_,rfl⟩ | ⟨_,was⟩
    · exact absurd at_ (elsewhere connection)
    · exact inv.replacing id ⟨task',was,alive,connection,at_⟩

private theorem Kept.cbTrustYes {chat : Chat} (inv : Kept chat) (mid : Int)
    (free : chat.handler = none) : Kept (cbTrustYes mid chat) := by
  have idle : chat.handler.bind carried = none := by rw [free]; rfl
  unfold Live.cbTrustYes
  split
  · exact inv.quieter (quieter_wait .finishing idle rfl) trivial
  next pending stored =>
    have calm := inv.waiting (by simp [stored])
    refine ⟨?_,inv.known,inv.tracked,fun waits => absurd rfl waits,inv.replacing,⟨calm,rfl⟩⟩
    refine inv.accounted.pass (.entry .pendingTrust) .handler pending.connection ?_ rfl rfl ?_ ?_
      (fun _ member => member)
    · simp [content,Orphans.stored,stored]
    · intro old held
      simp [content,free] at held
    · rintro ((_ | _ | _) | _ | other) apart apart'
      · rfl
      · rfl
      · exact absurd rfl apart
      · exact absurd rfl apart'
      · rfl

private theorem Kept.begin {chat : Chat} (inv : Kept chat) (update : Update)
    (free : chat.handler = none) : Kept (begin update chat) := by
  have idle : chat.handler.bind carried = none := by rw [free]; rfl
  cases update with
  | start attempt force allowed closed =>
    unfold Live.begin Live.startAction
    dsimp only
    split
    · exact inv.quieter (quieter_wait _ idle rfl) trivial
    · split
      · exact inv.quieter (quieter_wait _ idle rfl) trivial
      · split
        · exact inv.quieter (quieter_wait _ idle rfl) trivial
        · split
          · exact inv.quieter (quieter_wait _ idle rfl) trivial
          · exact inv.quieter ((quieter_closeSession none chat).trans
              (quieter_wait (.closing attempt) idle rfl)) trivial
  | connCancel => exact inv.quieter (quieter_wait .cancelling idle rfl) trivial
  | trustYes mid => exact inv.cbTrustYes mid free
  | trustNo => exact inv.quieter (quieter_wait .declining idle rfl) trivial
  | reset keepTerminal =>
    have handler : (resetChat chat).handler = chat.handler := by
      unfold resetChat cancelConnecting
      split <;> rfl
    exact inv.quieter ((quieter_reset chat).trans
      (quieter_wait (.discarding (.leave keepTerminal)) (by rw [handler,idle]) rfl)) trivial
  | exitTerminal => exact inv.quieter (quieter_wait .exitingTerminal idle rfl) trivial
  | exitSftp => exact inv.quieter (quieter_wait .exitingSftp idle rfl) trivial
  | write statement => exact inv.quieter (quieter_wait (.writing statement) idle rfl) trivial

private theorem resetChat_handler (chat : Chat) : (resetChat chat).handler = chat.handler := by
  unfold resetChat cancelConnecting
  split <;> rfl

private theorem cancelConnecting_handler (chat : Chat) :
    (cancelConnecting chat).handler = chat.handler := by
  unfold cancelConnecting
  split <;> rfl

private theorem Kept.proceed {chat : Chat} (inv : Kept chat) (handler : Handler)
    (answer : Answer) (running : chat.handler = some handler)
    (careful : Careful chat (.proceed answer)) : Kept (proceed handler answer chat) := by
  have handled := inv.handled
  rw [running] at handled
  have exited (closes : closesBrowser handler = true) : exits chat answer :=
    careful handler running closes
  have empty (idle : carried handler = none) : chat.handler.bind carried = none := by
    rw [running]
    exact idle
  cases handler with
  | closing attempt => exact inv.quieter (quieter_wait _ (empty rfl) rfl) trivial
  | counting attempt =>
    unfold Live.proceed
    dsimp only
    split <;> exact inv.quieter (quieter_wait _ (empty rfl) rfl) trivial
  | answering attempt => exact inv.quieter (quieter_wait _ (empty rfl) rfl) trivial
  | loading attempt =>
    unfold Live.proceed
    dsimp only
    split
    · exact inv.quieter (quieter_wait _ (empty rfl) rfl) trivial
    next row _ =>
      have idle : (resetChat chat).handler.bind carried = none := by
        rw [resetChat_handler,empty rfl]
      have waits := quieter_wait (.discarding
        (.connect (hostOf attempt.hostId row) attempt.operation attempt.mid)) idle rfl
      exact inv.quieter ((quieter_reset chat).trans waits) (inv.cancelled.quieter waits)
  | discarding follow =>
    have quieter := (quieter_closeSftp answer (exited rfl)).trans
      (quieter_wait (.closingSftp follow) (empty rfl) rfl)
    cases follow with
    | connect host operation mid => exact inv.quieter quieter (Clear.quieter handled quieter)
    | leave keepTerminal => exact inv.quieter quieter trivial
  | closingSftp follow => cases follow with
    | connect host operation mid =>
      exact inv.create handled ⟨host,operation,mid,.fresh,false⟩ chat.tables (empty rfl).symm
        (fun _ same => by contradiction)
    | leave keepTerminal =>
      cases keepTerminal with
      | true => exact inv.quieter (quieter_wait .finishing (empty rfl) rfl) trivial
      | false => exact inv.quieter ((quieter_closeSession none chat).trans
          (quieter_wait .finishing (empty rfl) rfl)) trivial
  | approving pending mid =>
    have same : chat.handler.bind carried = some pending.connection := by rw [running]; rfl
    have quieter : Quieter chat (wait (.storing pending mid) chat) :=
      .entries rfl rfl same.symm rfl (Nat.le_refl _) (.same _ _) (.same _ _) (.same _ _)
        (fun _ member => member)
    exact inv.quieter quieter (Clear.quieter handled quieter)
  | storing pending mid =>
    have same : chat.handler.bind carried = some pending.connection := by rw [running]; rfl
    exact inv.create handled _ _ same.symm (fun _ same => by contradiction)
  | declining => exact inv.quieter ((quieter_discard chat).trans
      (quieter_wait .finishing (empty rfl) rfl)) trivial
  | cancelling => exact inv.quieter ((quieter_cancel chat).trans
      (quieter_wait .finishing (by rw [cancelConnecting_handler,empty rfl]) rfl)) trivial
  | exitingTerminal => exact inv.quieter ((quieter_closeSession none chat).trans
      (quieter_wait .finishing (empty rfl) rfl)) trivial
  | exitingSftp => exact inv.quieter ((quieter_closeSftp answer (exited rfl)).trans
      (quieter_wait .finishing (empty rfl) rfl)) trivial
  | writing statement =>
    have idle : (Live.proceed (.writing statement) answer chat).handler.bind carried = none := by
      unfold Live.proceed
      dsimp only
      cases statement.run chat.owner chat.tables <;> rfl
    refine inv.quieter (.entries rfl rfl (idle.trans (empty rfl).symm) rfl (Nat.le_refl _)
      (.same _ _) (.same _ _) (.same _ _) (fun _ member => member)) ?_
    unfold Live.proceed
    dsimp only
    cases statement.run chat.owner chat.tables <;> exact trivial
  | finishing => exact inv.quieter (quieter_finished (empty rfl)) trivial

private theorem Kept.unhandled_quieter {chat after : Chat} (inv : Kept chat)
    (quieter : Quieter chat after) (handler : after.handler = chat.handler) : Kept after := by
  refine inv.quieter quieter ?_
  rw [handler]
  exact inv.handled.quieter quieter

private theorem Kept.setPhase {chat : Chat} (inv : Kept chat) {id : Nat} {task : Task}
    (found : chat.tasks.lookup id = some task) (phase : Phase)
    (owns : owned phase = owned task.phase)
    (still : mayStore phase = true → mayStore task.phase = true)
    (elsewhere : ∀ connection, phase ≠ .replacing connection) :
    Kept (setPhase id task phase chat) :=
  inv.unhandled_quieter (quieter_insert {task with phase := phase} found (.inl owns)
    (fun may alive => ⟨still may,alive⟩) elsewhere) rfl

private theorem Kept.given_up {chat : Chat} (inv : Kept chat) {id : Nat} {task : Task}
    (found : chat.tasks.lookup id = some task) (cancelled : Bool) (phase : Phase)
    (connection : Nat) (owns : ∀ one, owned task.phase = some one → one = connection)
    (done : owned phase = none) (late : mayStore phase = false)
    (elsewhere : ∀ connection, phase ≠ .replacing connection) :
    Kept (Live.setPhase id {task with cancelled := cancelled} phase
      (closeConn connection chat)) := by
  have free (one : Nat) (had : owned task.phase = some one) :
      one ∈ (closeConn connection chat).closed := by
    rw [owns one had]
    exact List.mem_cons_self
  exact inv.unhandled_quieter ((quieter_closeConn connection chat).trans
    (quieter_insert ⟨task.host,task.operation,task.mid,phase,cancelled⟩
      (show (closeConn connection chat).tasks.lookup id = some task from found)
      (.inr ⟨done,free⟩)
      (fun may => by rw [late] at may; contradiction) elsewhere)) rfl

private theorem Kept.ended {chat : Chat} (inv : Kept chat) {id : Nat} {task : Task}
    (found : chat.tasks.lookup id = some task) (owns : owned task.phase = none) :
    Kept (endTask id chat) :=
  inv.unhandled_quieter (quieter_endTask found (fun _ had => by rw [owns] at had; contradiction))
    rfl

private theorem Kept.launched {chat : Chat} (inv : Kept chat) {id : Nat} {task : Task}
    (mid : Int) (found : chat.tasks.lookup id = some task) (owns : owned task.phase = none) :
    Kept (launched id mid chat) := by
  have aside : Quieter chat {chat with
      liveMessage := some mid
      renderTask := some chat.next
      loops := chat.loops.insert chat.next .sleeping
      next := chat.next + 1} :=
    quieter_aside rfl rfl rfl rfl (Nat.le_succ _) rfl rfl rfl rfl
  exact (inv.unhandled_quieter aside rfl).ended
    (show chat.tasks.lookup id = some task from found) owns

private theorem Kept.replacing_ {chat : Chat} (inv : Kept chat) {id connection : Nat} {task : Task}
    (found : chat.tasks.lookup id = some task) (alive : task.cancelled = false)
    (phase : task.phase = .resolving connection) (empty : chat.sftp = none) :
    Kept (Live.setPhase id task (.replacing connection) chat) := by
  have is : Storing chat id := ⟨task,found,alive,by rw [phase]; rfl⟩
  have fewer (other : Nat) (still : Storing (Live.setPhase id task (.replacing connection) chat)
      other) : Storing chat other := by
    obtain ⟨task',found',rest⟩ := still
    rcases lookup_insert_some found' with ⟨rfl,_⟩ | ⟨_,was⟩
    · exact is
    · exact ⟨task',was,rest⟩
  refine ⟨?_,?_,fun other still => inv.tracked other (fewer other still),
    fun waits other still => inv.waiting waits other (fewer other still),fun _ _ => empty,
    storing_unhandled inv is _⟩
  · refine inv.accounted.released ⟨?_,fun _ member => member⟩
    rintro ((_ | _ | _) | _ | other)
    · exact .inl rfl
    · exact .inl rfl
    · exact .inl rfl
    · exact .inl rfl
    · by_cases same : other = id
      · subst same
        exact .inl (by simp [content,Live.setPhase,found,phase,owned])
      · exact .inl (by simp [content,Live.setPhase,AList.lookup_insert_ne same])
  · intro other task' found'
    rcases lookup_insert_some found' with ⟨rfl,_⟩ | ⟨_,was⟩
    · exact inv.known other task found
    · exact inv.known other task' was

private theorem entry_owned (operation : Registry.Operation) (connection : Nat) :
    owned (entry operation connection) = some connection ∧
      ∀ other, entry operation connection ≠ .replacing other := by
  cases operation <;> exact ⟨rfl,fun _ same => by contradiction⟩

private theorem owned_moves {operation : Registry.Operation} {before after : Phase}
    (moves : Moves operation before after) : owned after = owned before := by
  cases moves with
  | entering connection => exact (entry_owned operation connection).1
  | _ => rfl

private theorem mayStore_moves {operation : Registry.Operation} {before after : Phase}
    (moves : Moves operation before after) (may : mayStore after = true) :
    mayStore before = true := by
  cases moves <;> first | rfl | contradiction

private theorem not_replacing_moves {operation : Registry.Operation} {before after : Phase}
    (moves : Moves operation before after) : ∀ connection, after ≠ .replacing connection := by
  cases moves with
  | entering connection => exact (entry_owned operation connection).2
  | _ => exact fun _ same => by contradiction

private theorem owned_last {phase : Phase} (last : Last phase) : owned phase = none := by
  cases last <;> rfl

private theorem owned_raising {phase : Phase} {connection : Nat}
    (raising : Raising phase connection) :
    ∀ one, owned phase = some one → one = connection := by
  cases raising <;> simp [owned]

private theorem Kept.advance {chat after : Chat} (inv : Kept chat) {id : Nat} {task : Task}
    (answer : Answer) (found : chat.tasks.lookup id = some task) (alive : task.cancelled = false)
    (careful : Careful chat (.advance id answer))
    (went : advance id task answer chat = some after) : Kept after := by
  have careful := careful task found
  cases advanced_of_advance went with
  | moved phase moves =>
    exact inv.setPhase found phase (owned_moves moves) (mayStore_moves moves)
      (not_replacing_moves moves)
  | ended last => exact inv.ended found (owned_last last)
  | raised connection raising =>
    exact inv.given_up found task.cancelled .abandoning connection (owned_raising raising)
      rfl rfl (fun _ same => by contradiction)
  | stored connection phase ok =>
    rw [phase] at careful
    exact inv.put found alive (by rw [phase]; rfl) (by rw [phase]; rfl) (.editing connection)
      rfl rfl .activeSessions rfl
      (fun other apart => by cases other <;> first | exact absurd rfl apart | rfl)
      (careful ok) rfl
  | launched mid connection phase =>
    apply inv.launched mid found
    rcases phase with phase | phase <;> rw [phase] <;> rfl
  | emptied connection phase ok =>
    rw [phase] at careful
    have closed := inv.unhandled_quieter (quieter_closeSftp answer (careful ok)) rfl
    exact closed.replacing_ found alive phase rfl
  | browsing connection phase =>
    have empty := inv.replacing id ⟨task,found,alive,connection,phase⟩
    exact inv.put found alive (by rw [phase]; rfl) (by rw [phase]; rfl) (.rendering connection)
      rfl rfl .sftpState rfl
      (fun other apart => by cases other <;> first | exact absurd rfl apart | rfl)
      (fun old held => by simp [stored,empty] at held) rfl
  | released connection phase =>
    exact inv.given_up found task.cancelled (.releasing connection (!answer.ok)) connection
      (by simp [phase,owned]) rfl rfl (fun _ same => by contradiction)
  | failed connection phase =>
    exact inv.given_up found task.cancelled .failing connection (by simp [phase,owned])
      rfl rfl (fun _ same => by contradiction)
  | closed phase =>
    have closed := inv.unhandled_quieter (quieter_closeSession none chat) rfl
    refine closed.setPhase found .ending ?_ (by simp [mayStore]) (fun _ same => by contradiction)
    rcases phase with ⟨phase,_⟩ | phase <;> rw [phase] <;> rfl

private theorem Kept.acquire {chat after : Chat} (inv : Kept chat) {id : Nat} {task : Task}
    (found : chat.tasks.lookup id = some task) (is : Storing chat id) (new : Task)
    (tasks : after.tasks = chat.tasks.insert id new) (place : Place)
    (put : content after place = some chat.opened)
    (room : ∀ old, content chat place = some old → old ∈ chat.closed)
    (same : ∀ other, other ≠ place → content after other = content chat other)
    (waits : after.pendingTrust ≠ none → ¬ Storing after id)
    (elsewhere : ∀ connection, new.phase ≠ .replacing connection)
    (rest : after = {chat with
      opened := chat.opened + 1, presented := after.presented
      pendingTrust := after.pendingTrust, tasks := after.tasks}) : Kept after := by
  have fewer (other : Nat) (still : Storing after other) : Storing chat other :=
    storing_fewer is tasks still
  refine ⟨?_,?_,?_,?_,?_,?_⟩
  · have opened : after.opened = chat.opened + 1 := by rw [rest]
    have closed : after.closed = chat.closed := by rw [rest]
    rw [opened,closed]
    exact inv.accounted.acquire place put room same (fun _ member => member)
  · intro other task' found'
    have next : after.next = chat.next := by rw [rest]
    rw [next]
    exact known_insert inv found tasks found'
  · intro other still
    have connecting : after.connecting = chat.connecting := by rw [rest]
    rw [connecting]
    exact inv.tracked other (fewer other still)
  · intro pending other still
    have same : other = id := only inv is (fewer other still)
    exact waits pending (same ▸ still)
  · rintro other ⟨task',found',alive',connection',at_⟩
    have sftp : after.sftp = chat.sftp := by rw [rest]
    rw [sftp]
    rcases lookup_insert_some (tasks ▸ found') with ⟨_,rfl⟩ | ⟨_,was⟩
    · exact absurd at_ (elsewhere connection')
    · exact inv.replacing other ⟨task',was,alive',connection',at_⟩
  · have handler : after.handler = chat.handler := by rw [rest]
    rw [handler]
    exact storing_unhandled inv is after

private theorem Kept.opened {chat : Chat} (inv : Kept chat) {id : Nat} {task : Task}
    (fingerprint : Option String) (found : chat.tasks.lookup id = some task)
    (alive : task.cancelled = false) (phase : task.phase = .opening) :
    Kept (opened id task fingerprint chat) := by
  have is : Storing chat id := ⟨task,found,alive,by rw [phase]; rfl⟩
  have clear : chat.pendingTrust = none := by
    cases waits : chat.pendingTrust with
    | none => rfl
    | some pending => exact absurd is (inv.waiting (by simp [waits]) id)
  unfold Live.opened
  split
  · exact inv.setPhase found .reporting (by rw [phase]; rfl) (by simp [mayStore])
      (fun _ same => by contradiction)
  next presented =>
    dsimp only
    split
    · have starts := entry_owned task.operation chat.opened
      refine inv.acquire found is _ rfl (.task id) ?_ ?_ ?_ (fun waits => absurd clear waits)
        starts.2 rfl
      · simp [content,Live.setPhase,starts.1]
      · intro old held
        simp [content,found,phase,owned] at held
      · rintro ((_ | _ | _) | _ | other) apart
        · rfl
        · rfl
        · rfl
        · rfl
        · have differs : other ≠ id := fun same => apart (congrArg Place.task same)
          simp [content,Live.setPhase,AList.lookup_insert_ne differs]
    · refine inv.acquire found is _ rfl (.entry .pendingTrust) rfl ?_ ?_ ?_
        (fun _ same => by contradiction) rfl
      · intro old held
        simp [content,stored,clear] at held
      · rintro ((_ | _ | _) | _ | other) apart
        · rfl
        · rfl
        · exact absurd rfl apart
        · rfl
        · by_cases same : other = id
          · subst same
            simp [content,Live.setPhase,found,phase,owned]
          · simp [content,Live.setPhase,AList.lookup_insert_ne same]
      · rintro _ ⟨task',found',_,may⟩
        simp only [Live.setPhase,AList.lookup_insert,Option.some.injEq] at found'
        rw [← found'] at may
        contradiction

private theorem Kept.unwind {chat : Chat} (inv : Kept chat) {id : Nat} {task : Task}
    (found : chat.tasks.lookup id = some task) (careful : Careful chat (.unwind id)) :
    Kept (unwind id task chat) := by
  have started := careful task found
  unfold Live.unwind
  split
  next early =>
    have owns : owned task.phase = none := started early
    exact inv.unhandled_quieter (quieter_dropTask found
      (fun _ had => by rw [owns] at had; contradiction)) rfl
  next =>
    split
    next connection held =>
      refine inv.given_up found false .unwinding connection ?_ rfl rfl
        (fun _ same => by contradiction)
      intro one had
      cases phase : task.phase <;> simp_all [inHand,owned]
    next free =>
      have owns : owned task.phase = none := by
        cases phase : task.phase <;> simp_all [inHand,owned,unstarted]
      exact inv.ended found owns

private theorem quieter_noticed (self : Option Nat) (examined : Nat) (chat : Chat) :
    Quieter chat (closeNoticed self examined chat) :=
  (quieter_closeSession self chat).trans
    (quieter_aside rfl rfl rfl rfl (Nat.le_refl _) rfl rfl rfl rfl)

private theorem quieter_closers (closers : Table Nat Closer) (next : Nat) (chat : Chat)
    (more : chat.next ≤ next) : Quieter chat {chat with closers := closers, next := next} :=
  quieter_aside rfl rfl rfl rfl more rfl rfl rfl rfl

private theorem quieter_loops (loops : Table Nat Loop) (chat : Chat) :
    Quieter chat {chat with loops := loops} :=
  quieter_aside rfl rfl rfl rfl (Nat.le_refl _) rfl rfl rfl rfl

private theorem Kept.outside {chat : Chat} (inv : Kept chat) {id : Nat} {closer : Closer}
    (answer : Answer) (found : chat.closers.lookup id = some closer)
    (careful : Careful chat (.outside id answer)) : Kept (outside id closer answer chat) := by
  have careful := careful closer found
  have aside (chat : Chat) (closers : Table Nat Closer) :=
    quieter_closers closers chat.next chat (Nat.le_refl _)
  unfold Live.outside
  split
  · exact inv.unhandled_quieter ((quieter_closeSftp answer (careful rfl)).trans (aside _ _)) rfl
  · exact inv.unhandled_quieter ((quieter_closeSession none chat).trans (aside _ _)) rfl
  · split
    · exact inv.unhandled_quieter (aside chat _) rfl
    · split
      · split <;> exact inv.unhandled_quieter (aside chat _) rfl
      · exact inv.unhandled_quieter ((quieter_noticed none _ chat).trans (aside _ _)) rfl
  · exact inv.unhandled_quieter ((quieter_noticed none _ chat).trans (aside _ _)) rfl
  next browser ends =>
    split
    · exact inv.unhandled_quieter (aside chat _) rfl
    next go =>
      have exited := careful (by simpa [Closer.closesBrowser] using go)
      have kept := inv.unhandled_quieter (quieter_closeSftp answer exited) rfl
      exact kept.unhandled_quieter
        (quieter_aside rfl rfl rfl rfl (Nat.le_refl _) rfl rfl rfl rfl) rfl

private theorem Kept.ticked {chat : Chat} (inv : Kept chat) (id : Nat) (tick : Tick) :
    Kept (ticked id tick chat) := by
  unfold Live.ticked
  split
  · exact inv.unhandled_quieter (quieter_loops _ chat) rfl
  · split
    · exact inv
    · split
      · exact inv.unhandled_quieter (quieter_loops _ chat) rfl
      · exact inv.unhandled_quieter ((quieter_noticed _ _ chat).trans (quieter_loops _ _)) rfl
    · split <;> exact inv.unhandled_quieter (quieter_loops _ chat) rfl
    · exact inv.unhandled_quieter (quieter_loops _ chat) rfl

theorem Kept.step {chat after : Chat} {event : Event} (inv : Kept chat)
    (careful : Careful chat event) (stepped : step chat event = some after) : Kept after := by
  cases taken_of_step stepped with
  | update update free => exact inv.begin update free
  | proceed answer handler running => exact inv.proceed handler answer running careful
  | fail handler running may => exact inv.quieter (quieter_finished careful) trivial
  | cancel id => exact inv.unhandled_quieter (quieter_cancelTask id chat) rfl
  | advance id answer task _ found alive went => exact inv.advance answer found alive careful went
  | opened id fingerprint task found alive phase => exact inv.opened fingerprint found alive phase
  | unwind id task found cancelled => exact inv.unwind found careful
  | ban =>
    exact inv.unhandled_quieter ((quieter_reset chat).trans
      (quieter_closers _ _ _ (Nat.le_succ _))) (resetChat_handler chat)
  | examine ends session stored =>
    exact inv.unhandled_quieter (quieter_closers _ _ chat (Nat.le_succ _)) rfl
  | examineSftp ends browser stored =>
    exact inv.unhandled_quieter (quieter_closers _ _ chat (Nat.le_succ _)) rfl
  | outside id answer closer found => exact inv.outside answer found careful
  | ticked id tick found => exact inv.ticked id tick
  | drawn id error found =>
    unfold Live.drawn
    split <;> exact inv.unhandled_quieter (quieter_loops _ chat) rfl
  | noticed id session found =>
    exact inv.unhandled_quieter ((quieter_noticed _ _ chat).trans (quieter_loops _ _)) rfl
  | left id found => exact inv.unhandled_quieter (quieter_loops _ chat) rfl

theorem Kept.start (owner : Int) (tables : Database.Tables) : Kept (idleChat owner tables) := by
  refine ⟨⟨?_,?_,fun one known => absurd known (Nat.not_lt_zero one)⟩,?_,?_,?_,?_,trivial⟩
  · rintro ((_ | _ | _) | _ | id) one held <;> contradiction
  · rintro ((_ | _ | _) | _ | id) other one held <;> contradiction
  · intro id task found
    contradiction
  · rintro id ⟨task,found,_⟩
    contradiction
  · intro waits
    exact absurd rfl waits
  · rintro id ⟨task,found,_⟩
    contradiction

theorem Kept.noOrphan {chat : Chat} (inv : Kept chat) (quiet : Quiet chat) : NoOrphan chat := by
  intro connection known
  rcases inv.accounted.kept connection known with closed | ⟨place,held⟩
  · exact .inl closed
  · rcases place with entry | _ | id
    · refine .inr ⟨entry,held,?_⟩
      intro other also
      have same := inv.accounted.alone (.entry other) (.entry entry) connection also held
      cases same
      rfl
    · simp [content,quiet.1] at held
    · simp [content,quiet.2 id] at held

/-- A run whose steps are careful orphans no connection. -/
theorem careful_run_no_orphan (owner : Int) (tables : Database.Tables) (chat : Chat)
    (reached : Reach step Careful (idleChat owner tables) chat) (quiet : Quiet chat) :
    NoOrphan chat := by
  have kept : Kept chat := reached.invariant Kept (Kept.start owner tables)
    (fun _ _ _ inv careful stepped => inv.step careful stepped)
  exact kept.noOrphan quiet

def approving : List Event :=
  [.update (.trustYes 5),.proceed done,.proceed done,.advance 1 done,.advance 1 done,
    .advance 1 done,.advance 1 done,.advance 1 done]

def failing : List Event := [.update (.trustYes 5),.fail]

instance (chat : Chat) (answer : Answer) : Decidable (exits chat answer) :=
  inferInstanceAs (Decidable (_ → _))

instance (chat : Chat) (answer : Answer) (phase : Phase) :
    Decidable (Phase.careful chat answer phase) := by
  apply phase.casesOn (motive := fun phase => Decidable (Phase.careful chat answer phase))
  all_goals
    intros
    unfold Phase.careful
    infer_instance

instance (chat : Chat) (event : Event) : Decidable (Careful chat event) := by
  apply event.casesOn (motive := fun event => Decidable (Careful chat event))
  all_goals
    intros
    unfold Careful
    infer_instance

theorem careful_run_no_orphan_approved :
    ∃ chat, (prompting ++ approving).foldlM (guarded step Careful) (idleChat 7 oneHost) =
      some chat ∧ chat.opened = 1 ∧ chat.closed = [] ∧ NoOrphan chat := by
  obtain ⟨chat,run,opened,closed,handler,tasks⟩ : ∃ chat,
      (prompting ++ approving).foldlM (guarded step Careful) (idleChat 7 oneHost) = some chat ∧
      chat.opened = 1 ∧ chat.closed = [] ∧ chat.handler = none ∧ chat.tasks.entries = [] :=
    ⟨_,rfl,rfl,rfl,rfl,rfl⟩
  have quiet : Quiet chat := ⟨handler,fun id => by simp [AList.lookup,tasks]⟩
  exact ⟨chat,run,opened,closed,careful_run_no_orphan 7 oneHost chat (reach_of_run _ run) quiet⟩

/-- `q.answer` of `trust:yes` raises after the pending trust was taken out. -/
theorem failed_answer_orphans : ¬ ∀ (owner : Int) (tables : Database.Tables) (chat : Chat),
    Reach step always (idleChat owner tables) chat → Quiet chat → NoOrphan chat := by
  intro claimed
  obtain ⟨chat,run,opened,closed,handler,tasks,session,sftp,pending⟩ : ∃ chat,
      (prompting ++ failing).foldlM (guarded step always) (idleChat 7 oneHost) = some chat ∧
      chat.opened = 1 ∧ chat.closed = [] ∧ chat.handler = none ∧ chat.tasks.entries = [] ∧
      chat.session = none ∧ chat.sftp = none ∧ chat.pendingTrust = none :=
    ⟨_,rfl,rfl,rfl,rfl,rfl,rfl,rfl,rfl⟩
  have quiet : Quiet chat := ⟨handler,fun id => by simp [AList.lookup,tasks]⟩
  rcases claimed 7 oneHost chat (reach_of_run _ run) quiet 0 (by omega) with shut | ⟨entry,held,_⟩
  · simp [closed] at shut
  · cases entry <;> simp [stored,session,sftp,pending] at held

end AtronixX.Orphans
