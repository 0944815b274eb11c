import AtronixX.Library.Transition
import AtronixX.Registry

/-! What a press of `trust:yes` approves. The pending trust of a chat is one slot for
all its prompts; the press is bound to the prompt it was made on only when that is
the prompt of the pending trust. -/
namespace AtronixX.TrustBinding
open Library.Transition Library.Tables Registry

/-- Every stored fingerprint is the one that the pressed message showed. -/
def Bound (chat : Chat) : Prop :=
  ∀ approval ∈ chat.approvals, approval.seen = .prompt approval.hostId approval.fingerprint

/-- A press that finds a pending trust is made on its own message, after the prompt
was put there and before anything else is shown in it. -/
def onItsPrompt (chat : Chat) (action : Limits × Event) : Prop :=
  match action.2, chat.handler, chat.pendingTrust with
  | .trustYes mid seen, none, some pending =>
    pending.mid = mid ∧ pending.shown = true ∧ chat.screen mid = some seen
  | _, _, _ => True

def early : Phase → Bool
  | .connecting => true
  | .opening => true
  | .prompting _ => true
  | _ => false

def Early (chat : Chat) (id : Nat) (task : Task) : Prop :=
  chat.tasks.lookup id = some task ∧ early task.phase = true

def Calm (chat : Chat) : Prop := ∀ id task, ¬ Early chat id task

/-- The task that can still store a pending trust or show its prompt is the one in `connecting`. -/
structure Owned (chat : Chat) (pending : PendingTrust) : Prop where
  owner : ∀ id task, Early chat id task → id = pending.owner ∧
    task.phase = .prompting pending.fingerprint ∧ task.attempt.hostId = pending.hostId ∧
    task.attempt.mid = pending.mid
  calm : pending.shown = true → Calm chat
  screen : pending.shown = true → ∀ hostId fingerprint,
    chat.screen pending.mid = some (.prompt hostId fingerprint) →
    hostId = pending.hostId ∧ fingerprint = pending.fingerprint

def Handled (chat : Chat) (handler : Option Handler) : Prop :=
  match handler with
  | some (.resetting _) => Calm chat ∧ chat.pendingTrust = none
  | some (.approving pending _ seen) =>
    Calm chat ∧ seen = .prompt pending.hostId pending.fingerprint
  | some (.storing pending _ seen) =>
    Calm chat ∧ seen = .prompt pending.hostId pending.fingerprint
  | _ => True

structure Tracked (chat : Chat) : Prop where
  bound : Bound chat
  tracked : ∀ id task, Early chat id task → chat.connecting = some id
  owned : ∀ pending, chat.pendingTrust = some pending → Owned chat pending
  handled : Handled chat chat.handler

structure Quieter (before after : Chat) : Prop where
  early : ∀ id task, Early after id task → Early before id task
  connecting : ∀ id task, Early after id task → before.connecting = some id →
    after.connecting = some id
  pending : after.pendingTrust = before.pendingTrust ∨ after.pendingTrust = none
  screen : ∀ mid hostId fingerprint, after.screen mid = some (.prompt hostId fingerprint) →
    before.screen mid = some (.prompt hostId fingerprint)
  approvals : after.approvals = before.approvals

theorem Quieter.refl (chat : Chat) : Quieter chat chat :=
  ⟨fun _ _ => id,fun _ _ _ => id,.inl rfl,fun _ _ _ => id,rfl⟩

theorem Quieter.trans {first second third : Chat} (one : Quieter first second)
    (two : Quieter second third) : Quieter first third := by
  refine ⟨fun id task is => one.early id task (two.early id task is),?_,?_,
    fun mid hostId fingerprint shown => one.screen mid hostId fingerprint
      (two.screen mid hostId fingerprint shown),two.approvals.trans one.approvals⟩
  · intro id task is connecting
    exact two.connecting id task is (one.connecting id task (two.early id task is) connecting)
  · rcases two.pending with same | none
    · rw [same]
      exact one.pending
    · exact .inr none

theorem Calm.quieter {before after : Chat} (calm : Calm before) (quieter : Quieter before after) :
    Calm after := fun id task is => calm id task (quieter.early id task is)

theorem Handled.quieter {before after : Chat} {handler : Option Handler}
    (handled : Handled before handler) (quieter : Quieter before after) :
    Handled after handler := by
  unfold Handled at handled ⊢
  split
  · refine ⟨handled.1.quieter quieter,?_⟩
    rcases quieter.pending with same | none
    · exact same.trans handled.2
    · exact none
  · exact ⟨handled.1.quieter quieter,handled.2⟩
  · exact ⟨handled.1.quieter quieter,handled.2⟩
  · trivial

theorem Tracked.quieter {before after : Chat} (inv : Tracked before)
    (quieter : Quieter before after) (handled : Handled after after.handler) : Tracked after := by
  refine ⟨?_,?_,?_,handled⟩
  · unfold Bound
    rw [quieter.approvals]
    exact inv.bound
  · intro id task is
    exact quieter.connecting id task is (inv.tracked id task (quieter.early id task is))
  · intro pending stored
    rcases quieter.pending with same | none
    · have owned := inv.owned pending (same ▸ stored)
      refine ⟨fun id task is => owned.owner id task (quieter.early id task is),
        fun shown => (owned.calm shown).quieter quieter,?_⟩
      intro shown hostId fingerprint now
      exact owned.screen shown hostId fingerprint
        (quieter.screen pending.mid hostId fingerprint now)
    · rw [none] at stored
      contradiction

theorem quieter_wait (handler : Handler) (chat : Chat) : Quieter chat (wait handler chat) :=
  ⟨fun _ _ => id,fun _ _ _ => id,.inl rfl,fun _ _ _ => id,rfl⟩

theorem quieter_session (session : Option Int) (chat : Chat) :
    Quieter chat {chat with session := session} :=
  ⟨fun _ _ => id,fun _ _ _ => id,.inl rfl,fun _ _ _ => id,rfl⟩

theorem quieter_finished (chat : Chat) : Quieter chat {chat with handler := none} :=
  ⟨fun _ _ => id,fun _ _ _ => id,.inl rfl,fun _ _ _ => id,rfl⟩

theorem quieter_discard (chat : Chat) : Quieter chat (discardPendingTrust chat) :=
  ⟨fun _ _ => id,fun _ _ _ => id,.inr rfl,fun _ _ _ => id,rfl⟩

theorem quieter_display (mid : Int) (chat : Chat) : Quieter chat (display mid .other chat) := by
  refine ⟨fun _ _ => id,fun _ _ _ => id,.inl rfl,?_,rfl⟩
  intro other hostId fingerprint shown
  unfold Chat.screen display at shown
  by_cases same : mid = other
  · simp [same] at shown
  · simpa [same,Chat.screen] using shown

theorem quieter_uiEdit (done : Bool) (mid : Int) (chat : Chat) :
    Quieter chat (uiEdit done mid .other chat) := by
  unfold uiEdit
  split
  · exact quieter_display mid chat
  · exact .refl chat

theorem quieter_endTask (id : Nat) (chat : Chat) : Quieter chat (endTask id chat) := by
  refine ⟨?_,?_,.inl rfl,fun _ _ _ => fun shown => shown,rfl⟩
  · rintro other task ⟨found,is⟩
    exact ⟨(lookup_erase_some found).2,is⟩
  · rintro other task ⟨found,_⟩ connecting
    have differs := (lookup_erase_some found).1
    simp [endTask,connecting,differs]

theorem quieter_cancel (chat : Chat) : Quieter chat (cancelConnecting chat) := by
  unfold cancelConnecting
  split
  · exact .refl chat
  next id connecting =>
    refine ⟨?_,?_,.inl rfl,fun _ _ _ => fun shown => shown,rfl⟩
    · rintro other task ⟨found,is⟩
      exact ⟨(lookup_erase_some found).2,is⟩
    · rintro other task ⟨found,_⟩ same
      rw [connecting] at same
      exact absurd (Option.some.inj same).symm (lookup_erase_some found).1

theorem quieter_setPhase (id : Nat) (task : Task) (phase : Phase) (chat : Chat)
    (late : early phase = false) : Quieter chat (setPhase id task phase chat) := by
  refine ⟨?_,fun _ _ _ => fun connecting => connecting,.inl rfl,
    fun _ _ _ => fun shown => shown,rfl⟩
  rintro other changed ⟨found,is⟩
  rcases lookup_insert_some found with ⟨_,rfl⟩ | ⟨_,before⟩
  · simp [late] at is
  · exact ⟨before,is⟩

theorem Tracked.cancelled {chat : Chat} (inv : Tracked chat) : Calm (cancelConnecting chat) := by
  rintro id task ⟨found,is⟩
  unfold cancelConnecting at found
  split at found
  next none =>
    have tracked := inv.tracked id task ⟨found,is⟩
    rw [none] at tracked
    contradiction
  next other connecting =>
    obtain ⟨differs,before⟩ := lookup_erase_some found
    have tracked := inv.tracked id task ⟨before,is⟩
    rw [connecting] at tracked
    exact differs (Option.some.inj tracked).symm

private theorem Tracked.startAction {chat : Chat} (inv : Tracked chat) (limits : Limits)
    (attempt : Attempt) (force allowed closed : Bool) :
    Tracked (startAction limits attempt force allowed closed chat) := by
  unfold Registry.startAction
  split
  · exact inv.quieter (quieter_wait _ chat) trivial
  · split
    · exact inv.quieter (quieter_wait _ chat) trivial
    · split
      · exact inv.quieter (quieter_wait _ chat) trivial
      · split
        · exact inv.quieter (quieter_wait _ chat) trivial
        · exact inv.quieter ((quieter_session none chat).trans (quieter_wait _ _)) trivial

private theorem Tracked.cbTrustYes {chat : Chat} (inv : Tracked chat) (limits : Limits)
    (mid hostId : Int) (fingerprint : String) (free : chat.handler = none)
    (met : onItsPrompt chat (limits,.trustYes mid (.prompt hostId fingerprint))) :
    Tracked (cbTrustYes mid (.prompt hostId fingerprint) chat) := by
  unfold Registry.cbTrustYes
  split
  · exact inv.quieter (quieter_wait _ chat) trivial
  next pending stored =>
    have owned := inv.owned pending stored
    obtain ⟨rfl,shown,now⟩ : pending.mid = mid ∧ pending.shown = true ∧
        chat.screen mid = some (.prompt hostId fingerprint) := by
      simpa [onItsPrompt,free,stored] using met
    obtain ⟨rfl,rfl⟩ := owned.screen shown hostId fingerprint now
    have quieter : Quieter chat (wait (.approving pending pending.mid
        (.prompt pending.hostId pending.fingerprint)) {chat with pendingTrust := none}) :=
      (quieter_discard chat).trans (quieter_wait _ _)
    exact inv.quieter quieter ⟨(owned.calm shown).quieter quieter,rfl⟩

private theorem Tracked.create {chat : Chat} (inv : Tracked chat) (calm : Calm chat)
    (task : Task) (prompts : early task.phase = true → chat.pendingTrust = none)
    (approvals : List Approval) (bound : ∀ approval ∈ approvals,
      approval.seen = .prompt approval.hostId approval.fingerprint) :
    Tracked (createTask task {chat with handler := none, approvals := approvals}) := by
  have fresh (id : Nat) (other : Task) (is : Early (createTask task
      {chat with handler := none, approvals := approvals}) id other) :
      id = chat.nextTask ∧ other = task := by
    rcases lookup_insert_some is.1 with same | ⟨_,before⟩
    · exact same
    · exact absurd ⟨before,is.2⟩ (calm id other)
  refine ⟨bound,?_,?_,trivial⟩
  · intro id other is
    rw [(fresh id other is).1]
    rfl
  · intro pending stored
    have owned := inv.owned pending stored
    have late (id : Nat) (other : Task) : ¬ Early (createTask task
        {chat with handler := none, approvals := approvals}) id other := by
      intro is
      have none := prompts ((fresh id other is).2 ▸ is.2)
      have some : chat.pendingTrust = some pending := stored
      rw [none] at some
      contradiction
    exact ⟨fun id other is => absurd is (late id other),fun _ => late,owned.screen⟩

private theorem Tracked.proceed {chat : Chat} (inv : Tracked chat) (limits : Limits)
    (found : Bool) (handler : Handler) (running : chat.handler = some handler) :
    Tracked (proceed limits found handler chat) := by
  have handled := inv.handled
  rw [running] at handled
  cases handler with
  | closing attempt => exact inv.quieter (quieter_wait _ chat) trivial
  | counting attempt live =>
    unfold Registry.proceed
    dsimp only
    split <;> exact inv.quieter (quieter_wait _ chat) trivial
  | answering attempt => exact inv.quieter (quieter_wait _ chat) trivial
  | loading attempt =>
    cases found with
    | false => exact inv.quieter (quieter_wait _ chat) trivial
    | true =>
      have quieter : Quieter chat (wait (.resetting attempt)
          (discardPendingTrust (cancelConnecting chat))) :=
        ((quieter_cancel chat).trans (quieter_discard _)).trans (quieter_wait _ _)
      have calm : Calm (discardPendingTrust (cancelConnecting chat)) :=
        inv.cancelled.quieter (quieter_discard _)
      exact inv.quieter quieter ⟨calm,rfl⟩
  | resetting attempt =>
    exact inv.create handled.1 ⟨attempt,.connecting⟩ (fun _ => handled.2) chat.approvals inv.bound
  | approving pending mid seen =>
    have quieter := quieter_wait (.storing pending mid seen) chat
    exact inv.quieter quieter (handled : Handled chat (some (.storing pending mid seen)))
  | storing pending mid seen =>
    obtain ⟨calm,same⟩ := handled
    refine inv.create calm ⟨⟨pending.hostId,pending.operation,mid⟩,.dispatching⟩
      (by simp [early]) _ ?_
    intro approval member
    rcases List.mem_cons.mp member with rfl | before
    · exact same
    · exact inv.bound approval before
  | declining =>
    exact inv.quieter ((quieter_discard chat).trans (quieter_wait _ _)) trivial
  | cancelling =>
    exact inv.quieter ((quieter_cancel chat).trans (quieter_wait _ _)) trivial
  | finishing => exact inv.quieter (quieter_finished chat) trivial

private theorem Tracked.unhandled {chat : Chat} (inv : Tracked chat) {id : Nat} {task : Task}
    (is : Early chat id task) (other : Chat) : Handled other chat.handler := by
  have handled := inv.handled
  unfold Handled at handled ⊢
  split
  case h_4 => trivial
  all_goals
    rename_i running
    rw [running] at handled
    exact absurd is (handled.1 id task)

private theorem Tracked.only {chat : Chat} (inv : Tracked chat) {id other : Nat}
    {task another : Task} (is : Early chat id task) (also : Early chat other another) :
    other = id := by
  have first := inv.tracked id task is
  rw [inv.tracked other another also] at first
  exact Option.some.inj first

private theorem Tracked.opening {chat : Chat} (inv : Tracked chat) {id : Nat} {task : Task}
    (is : Early chat id task) (before : task.phase = .connecting) :
    Tracked (setPhase id task .opening chat) := by
  have none : chat.pendingTrust = none := by
    cases stored : chat.pendingTrust with
    | none => rfl
    | some pending =>
      have prompting := ((inv.owned pending stored).owner id task is).2.1
      rw [before] at prompting
      contradiction
  refine ⟨inv.bound,?_,?_,inv.unhandled is _⟩
  · rintro other changed ⟨found,early⟩
    rcases lookup_insert_some found with ⟨rfl,_⟩ | ⟨_,kept⟩
    · exact inv.tracked other task is
    · exact inv.tracked other changed ⟨kept,early⟩
  · intro pending stored
    have some : chat.pendingTrust = some pending := stored
    rw [none] at some
    contradiction

private theorem Tracked.untrusted {chat : Chat} (inv : Tracked chat) {id : Nat} {task : Task}
    (is : Early chat id task) (fingerprint : String) :
    Tracked (opened id task (.untrusted fingerprint) chat) := by
  have fresh (other : Nat) (changed : Task)
      (early : Early (opened id task (.untrusted fingerprint) chat) other changed) :
      other = id ∧ changed = {task with phase := .prompting fingerprint} := by
    rcases lookup_insert_some early.1 with same | ⟨differs,kept⟩
    · exact same
    · exact absurd (inv.only is ⟨kept,early.2⟩) differs
  refine ⟨inv.bound,?_,?_,inv.unhandled is _⟩
  · intro other changed early
    rw [(fresh other changed early).1]
    exact inv.tracked id task is
  · intro pending stored
    cases Option.some.inj stored
    refine ⟨?_,by simp,by simp⟩
    intro other changed early
    obtain ⟨rfl,rfl⟩ := fresh other changed early
    exact ⟨rfl,rfl,rfl,rfl⟩

private theorem Tracked.prompted {chat : Chat} (inv : Tracked chat) {id : Nat} {task : Task}
    {fingerprint : String} (is : Early chat id task) (phase : task.phase = .prompting fingerprint)
    (done : Bool) (after : Chat) (went : edited id task done chat = some after) :
    Tracked after := by
  unfold edited at went
  rw [phase] at went
  cases done with
  | false =>
    cases Option.some.inj went
    exact inv.quieter (quieter_endTask id chat) (inv.unhandled is _)
  | true =>
    cases Option.some.inj went
    have calm : Calm (endTask id {display task.attempt.mid
        (.prompt task.attempt.hostId fingerprint) chat with
          pendingTrust := chat.pendingTrust.map (PendingTrust.markShown id)}) := by
      rintro other changed ⟨found,early⟩
      obtain ⟨differs,kept⟩ := lookup_erase_some found
      exact differs (inv.only is ⟨kept,early⟩)
    refine ⟨inv.bound,fun other changed early => absurd early (calm other changed),?_,
      inv.unhandled is _⟩
    intro pending stored
    obtain ⟨before,present,same⟩ := Option.map_eq_some_iff.mp stored
    obtain ⟨owner,prompting,host,mid⟩ := (inv.owned before present).owner id task is
    have shown : fingerprint = before.fingerprint := by simpa [phase] using prompting
    subst owner shown
    have marked : pending = {before with shown := true} := by
      rw [← same]
      simp [PendingTrust.markShown]
    subst marked
    refine ⟨fun other changed early => absurd early (calm other changed),fun _ => calm,?_⟩
    intro _ hostId other now
    have prompt : Shown.prompt task.attempt.hostId before.fingerprint = .prompt hostId other := by
      simpa [Chat.screen,endTask,uiEdit,display,mid] using now
    cases prompt
    exact ⟨host,rfl⟩

private theorem Tracked.edited {chat after : Chat} (inv : Tracked chat) {id : Nat} {task : Task}
    (found : chat.tasks.lookup id = some task) (done : Bool)
    (went : edited id task done chat = some after) : Tracked after := by
  cases phase : task.phase with
  | connecting =>
    have is : Early chat id task := ⟨found,by rw [phase]; rfl⟩
    rw [Registry.edited,phase] at went
    cases Option.some.inj went
    have quieter := quieter_uiEdit done task.attempt.mid chat
    have drawn := inv.quieter quieter (by
      rw [show (uiEdit done task.attempt.mid .other chat).handler = chat.handler by
        cases done <;> rfl]
      exact inv.unhandled is _)
    refine drawn.opening ?_ phase
    cases done <;> exact is
  | prompting fingerprint =>
    exact inv.prompted ⟨found,by rw [phase]; rfl⟩ phase done after went
  | reporting =>
    rw [Registry.edited,phase] at went
    cases Option.some.inj went
    have quieter := (quieter_uiEdit done task.attempt.mid chat).trans (quieter_endTask id _)
    apply inv.quieter quieter
    cases done <;> exact inv.handled.quieter quieter
  | showing =>
    rw [Registry.edited,phase] at went
    cases Option.some.inj went
    have quieter := (quieter_uiEdit done task.attempt.mid chat).trans (quieter_endTask id _)
    apply inv.quieter quieter
    cases done <;> exact inv.handled.quieter quieter
  | opening => simp [Registry.edited,phase] at went
  | dispatching => simp [Registry.edited,phase] at went
  | abandoning => simp [Registry.edited,phase] at went

private theorem Tracked.late {chat : Chat} (inv : Tracked chat) (id : Nat) (task : Task)
    (phase : Phase) (session : Option Int) (late : early phase = false) :
    Tracked (setPhase id task phase {chat with session := session}) := by
  have quieter := (quieter_session session chat).trans
    (quieter_setPhase id task phase {chat with session := session} late)
  exact inv.quieter quieter (inv.handled.quieter quieter)

private theorem Tracked.ended {chat : Chat} (inv : Tracked chat) (id : Nat) :
    Tracked (endTask id chat) :=
  inv.quieter (quieter_endTask id chat) (inv.handled.quieter (quieter_endTask id chat))

theorem Tracked.step {before after : Chat} {action : Limits × Event} (inv : Tracked before)
    (met : onItsPrompt before action) (stepped : step before action = some after) :
    Tracked after := by
  obtain ⟨limits,event⟩ := action
  cases taken_of_step stepped with
  | start attempt force allowed closed free =>
    exact inv.startAction limits attempt force allowed closed
  | trustYes mid hostId fingerprint free displayed =>
    exact inv.cbTrustYes limits mid hostId fingerprint free met
  | trustNo free => exact inv.quieter (quieter_wait _ before) trivial
  | connCancel free => exact inv.quieter (quieter_wait _ before) trivial
  | proceed found handler running => exact inv.proceed limits found handler running
  | fail handler running => exact inv.quieter (quieter_finished before) trivial
  | interrupt =>
    have quieter := (quieter_cancel before).trans (quieter_discard _)
    apply inv.quieter quieter
    have same : (discardPendingTrust (cancelConnecting before)).handler = before.handler := by
      unfold discardPendingTrust cancelConnecting
      split <;> rfl
    rw [same]
    exact inv.handled.quieter quieter
  | closeSession =>
    have quieter := quieter_session none before
    exact inv.quieter quieter (inv.handled.quieter quieter)
  | draw mid =>
    have quieter := quieter_display mid before
    exact inv.quieter quieter (inv.handled.quieter quieter)
  | edited id done task after found went => exact inv.edited found done went
  | opened id outcome task found phase =>
    cases outcome with
    | trusted => exact inv.late id task .dispatching before.session rfl
    | failed => exact inv.late id task .reporting before.session rfl
    | untrusted fingerprint => exact inv.untrusted ⟨found,by rw [phase]; rfl⟩ fingerprint
  | launched id done task found phase =>
    unfold Registry.launched
    split
    · exact inv.late id task .abandoning before.session rfl
    · split
      · exact inv.late id task .showing (some task.attempt.hostId) rfl
      · exact inv.late id task .showing before.session rfl
  | abandoned id task found phase =>
    unfold Registry.abandoned
    split
    · exact inv.late id task .reporting none rfl
    · exact inv.late id task .reporting before.session rfl
  | crashed id task found =>
    unfold Registry.crashed
    split
    · exact inv.late id task .abandoning before.session rfl
    · exact inv.late id task .abandoning before.session rfl
    · exact inv.ended id
    · exact inv.ended id
    · exact inv.late id task .reporting before.session rfl

theorem tracked_idle (session : Option Int) (displayed : List Display) :
    Tracked (idleChat session displayed) := by
  refine ⟨by simp [Bound,idleChat],?_,by simp [idleChat],trivial⟩
  rintro id task ⟨found,_⟩
  simp [idleChat] at found

/-- As long as every press that finds a pending trust is made on its own prompt, every
fingerprint stored is the one that the pressed message showed for its host. -/
theorem presses_bound {session : Option Int} {displayed : List Display} {chat : Chat}
    (reached : Reach step onItsPrompt (idleChat session displayed) chat) : Bound chat :=
  (reached.invariant Tracked (tracked_idle session displayed)
    (fun _ _ _ before met taken => before.step met taken)).bound

def prompting (hostId mid : Int) (task : Nat) (fingerprint : String) : List Event :=
  [.start ⟨hostId,.sftp,mid⟩ false true false,.proceed true,.proceed true,.proceed true,
    .edited task true,.opened task (.untrusted fingerprint),.edited task true]

def pressing (mid hostId : Int) (fingerprint : String) : List Event :=
  [.trustYes mid (.prompt hostId fingerprint),.proceed true,.proceed true]

def limited (events : List Event) : List (Limits × Event) :=
  events.map (fun event => (⟨0,20⟩,event))

instance (chat : Chat) (action : Limits × Event) : Decidable (onItsPrompt chat action) := by
  unfold onItsPrompt
  split <;> infer_instance

theorem presses_bound_own_prompt :
    ∃ chat, (limited (prompting 1 10 0 "A" ++ prompting 2 20 1 "B" ++ pressing 20 2 "B")).foldlM
      (guarded step onItsPrompt) (idleChat none []) = some chat ∧
      chat.approvals = [⟨2,"B",.prompt 2 "B"⟩] ∧ Bound chat := by
  obtain ⟨chat,run,stored⟩ : ∃ chat, (limited (prompting 1 10 0 "A" ++ prompting 2 20 1 "B" ++
      pressing 20 2 "B")).foldlM (guarded step onItsPrompt) (idleChat none []) = some chat ∧
      chat.approvals = [⟨2,"B",.prompt 2 "B"⟩] := ⟨_,rfl,rfl⟩
  exact ⟨chat,run,stored,presses_bound (reach_of_run _ run)⟩

/-- A press on the prompt left over in message 10 approves the key of the other host. -/
theorem leftover_prompt_approves : ¬ ∀ chat,
    Reach step always (idleChat none []) chat → Bound chat := by
  intro claimed
  obtain ⟨chat,run,stored⟩ : ∃ chat, (limited (prompting 1 10 0 "A" ++ prompting 2 20 1 "B" ++
      pressing 10 1 "A")).foldlM (guarded step always) (idleChat none []) = some chat ∧
      chat.approvals = [⟨2,"B",.prompt 1 "A"⟩] := ⟨_,rfl,rfl⟩
  have bound := claimed chat (reach_of_run _ run) ⟨2,"B",.prompt 1 "A"⟩ (by simp [stored])
  simp at bound

end AtronixX.TrustBinding
