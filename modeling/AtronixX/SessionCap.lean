import AtronixX.Library.Transition
import AtronixX.Registry

/-! The cap on live sessions. `start_action` tests it once; the session appears when
the action of the attempt runs, in another chat's sight or after it. -/
namespace AtronixX.SessionCap
open Library.Transition Library.Tables Registry

structure Bot where
  chats : Table Int Chat

def Bot.chat (bot : Bot) (id : Int) : Chat := (bot.chats.lookup id).getD (idleChat none [])

def Bot.sessions (bot : Bot) : Nat := countWhere (fun _ chat => chat.session.isSome) bot.chats

/-- A step of one chat, with `max_live` constant. -/
def step (maxLive : Nat) (bot : Bot) (move : Int × Event) : Option Bot :=
  (Registry.step (bot.chat move.1) (⟨bot.sessions,maxLive⟩,move.2)).map
    (fun chat => ⟨bot.chats.insert move.1 chat⟩)

def opensSession (operation : Operation) : Bool := operation = .terminal

def taskOpens (task : Task) : Bool :=
  match task.phase with
  | .connecting => opensSession task.attempt.operation
  | .opening => opensSession task.attempt.operation
  | .dispatching => opensSession task.attempt.operation
  | _ => false

def handlerOpens (handler : Handler) : Bool :=
  match handler with
  | .answering attempt => opensSession attempt.operation
  | .loading attempt => opensSession attempt.operation
  | .resetting attempt => opensSession attempt.operation
  | .approving pending _ _ => opensSession pending.operation
  | .storing pending _ _ => opensSession pending.operation
  | _ => false

inductive Claims (chat : Chat) : Prop
  | session (host : Int) (live : chat.session = some host)
  | pending (pending : PendingTrust) (stored : chat.pendingTrust = some pending)
      (opens : opensSession pending.operation = true)
  | handler (handler : Handler) (running : chat.handler = some handler)
      (opens : handlerOpens handler = true)
  | task (id : Nat) (task : Task) (found : chat.tasks.lookup id = some task)
      (opens : taskOpens task = true)

def claims (chat : Chat) : Bool :=
  chat.session.isSome || chat.pendingTrust.any (fun pending => opensSession pending.operation) ||
    chat.handler.any handlerOpens || someWhere (fun _ task => taskOpens task) chat.tasks

theorem claims_iff (chat : Chat) : claims chat = true ↔ Claims chat := by
  unfold claims
  simp only [Bool.or_eq_true,Option.isSome_iff_exists,Option.any_eq_true,someWhere_iff]
  constructor
  · rintro (((⟨host,live⟩ | ⟨pending,stored,opens⟩) | ⟨handler,running,opens⟩) |
      ⟨id,task,found,opens⟩)
    · exact .session host live
    · exact .pending pending stored opens
    · exact .handler handler running opens
    · exact .task id task found opens
  · intro is
    cases is with
    | session host live => exact .inl (.inl (.inl ⟨host,live⟩))
    | pending pending stored opens => exact .inl (.inl (.inr ⟨pending,stored,opens⟩))
    | handler handler running opens => exact .inl (.inr ⟨handler,running,opens⟩)
    | task id task found opens => exact .inr ⟨id,task,found,opens⟩

def Bot.claimed (bot : Bot) : Nat := countWhere (fun _ chat => claims chat) bot.chats

def Bot.others (bot : Bot) (id : Int) : Nat :=
  countWhere (fun _ chat => claims chat) (bot.chats.erase id)

/-- The test of `start_action` passes only when the other chats that have a session or
are past the test leave room for this one. -/
def roomLeft (maxLive : Nat) (bot : Bot) (move : Int × Event) : Prop :=
  match move.2, (bot.chat move.1).handler with
  | .proceed _, some (.counting _ live) => live < maxLive → bot.others move.1 < maxLive
  | _, _ => True

theorem Claims.wait {chat : Chat} {handler : Handler} (claim : Claims (wait handler chat)) :
    Claims chat ∨ handlerOpens handler = true := by
  cases claim with
  | session host live => exact .inl (.session host live)
  | pending pending stored opens => exact .inl (.pending pending stored opens)
  | handler other running opens =>
    cases Option.some.inj running
    exact .inr opens
  | task id task found opens => exact .inl (.task id task found opens)

theorem Claims.waitIdle {chat : Chat} {handler : Handler} (claim : Claims (Registry.wait handler chat))
    (opens : handlerOpens handler = false) : Claims chat :=
  claim.wait.resolve_right (by simp [opens])

theorem Claims.released {chat : Chat} (claim : Claims {chat with handler := none}) :
    Claims chat := by
  cases claim with
  | session host live => exact .session host live
  | pending pending stored opens => exact .pending pending stored opens
  | handler handler running opens => contradiction
  | task id task found opens => exact .task id task found opens

theorem Claims.closed {chat : Chat} (claim : Claims {chat with session := none}) :
    Claims chat := by
  cases claim with
  | session host live => contradiction
  | pending pending stored opens => exact .pending pending stored opens
  | handler handler running opens => exact .handler handler running opens
  | task id task found opens => exact .task id task found opens

theorem Claims.discarded {chat : Chat} (claim : Claims (discardPendingTrust chat)) :
    Claims chat := by
  cases claim with
  | session host live => exact .session host live
  | pending pending stored opens => contradiction
  | handler handler running opens => exact .handler handler running opens
  | task id task found opens => exact .task id task found opens

theorem Claims.displayed {chat : Chat} {mid : Int} {shown : Shown}
    (claim : Claims (display mid shown chat)) : Claims chat := by
  cases claim with
  | session host live => exact .session host live
  | pending pending stored opens => exact .pending pending stored opens
  | handler handler running opens => exact .handler handler running opens
  | task id task found opens => exact .task id task found opens

theorem Claims.uiEdited {chat : Chat} {done : Bool} {mid : Int} {shown : Shown}
    (claim : Claims (uiEdit done mid shown chat)) : Claims chat := by
  cases done with
  | false => exact claim
  | true => exact claim.displayed

theorem Claims.cancelled {chat : Chat} (claim : Claims (cancelConnecting chat)) :
    Claims chat := by
  unfold cancelConnecting at claim
  split at claim
  · exact claim
  · cases claim with
    | session host live => exact .session host live
    | pending pending stored opens => exact .pending pending stored opens
    | handler handler running opens => exact .handler handler running opens
    | task id task found opens => exact .task id task (lookup_erase_some found).2 opens

theorem Claims.ended {chat : Chat} {id : Nat} (claim : Claims (endTask id chat)) :
    Claims chat := by
  cases claim with
  | session host live => exact .session host live
  | pending pending stored opens => exact .pending pending stored opens
  | handler handler running opens => exact .handler handler running opens
  | task id task found opens => exact .task id task (lookup_erase_some found).2 opens

theorem Claims.created {chat : Chat} {task : Task} (claim : Claims (createTask task chat)) :
    Claims chat ∨ taskOpens task = true := by
  cases claim with
  | session host live => exact .inl (.session host live)
  | pending pending stored opens => exact .inl (.pending pending stored opens)
  | handler handler running opens => exact .inl (.handler handler running opens)
  | task id other found opens =>
    rcases lookup_insert_some found with ⟨_,rfl⟩ | ⟨_,before⟩
    · exact .inr opens
    · exact .inl (.task id other before opens)

theorem Claims.moved {chat : Chat} {id : Nat} {task : Task} {phase : Phase}
    (claim : Claims (setPhase id task phase chat)) :
    Claims chat ∨ taskOpens {task with phase := phase} = true := by
  cases claim with
  | session host live => exact .inl (.session host live)
  | pending pending stored opens => exact .inl (.pending pending stored opens)
  | handler handler running opens => exact .inl (.handler handler running opens)
  | task other changed found opens =>
    rcases lookup_insert_some found with ⟨_,rfl⟩ | ⟨_,before⟩
    · exact .inr opens
    · exact .inl (.task other changed before opens)

/-- The step with which the test of `start_action` passes. -/
def Passes (chat : Chat) (action : Limits × Event) : Prop :=
  ∃ attempt live found, chat.handler = some (.counting attempt live) ∧
    action.2 = .proceed found ∧ live < action.1.maxLive

private theorem claims_startAction {chat : Chat} {limits : Limits} {attempt : Attempt}
    {force allowed closed : Bool}
    (claim : Claims (startAction limits attempt force allowed closed chat)) : Claims chat := by
  unfold startAction at claim
  split at claim
  · exact claim.waitIdle rfl
  · split at claim
    next other =>
      exact claim.waitIdle (by simpa [handlerOpens,opensSession] using other)
    · split at claim
      · exact claim.waitIdle rfl
      · split at claim
        · exact claim.waitIdle rfl
        · exact (claim.waitIdle rfl).closed

private theorem claims_cbTrustYes {chat : Chat} {mid : Int} {seen : Shown}
    (claim : Claims (cbTrustYes mid seen chat)) : Claims chat := by
  unfold cbTrustYes at claim
  split at claim
  · exact claim.waitIdle rfl
  next pending stored =>
    rcases claim.wait with before | opens
    · exact Claims.discarded before
    · exact .pending pending stored opens

private theorem claims_proceed {chat : Chat} {limits : Limits} {found : Bool} {handler : Handler}
    (running : chat.handler = some handler) (claim : Claims (proceed limits found handler chat)) :
    Claims chat ∨ Passes chat (limits,.proceed found) := by
  have own (opens : handlerOpens handler = true) : Claims chat := .handler handler running opens
  cases handler with
  | closing attempt => exact .inl (claim.waitIdle rfl)
  | counting attempt live =>
    by_cases full : live ≥ limits.maxLive
    · simp only [proceed,full,if_true] at claim
      exact .inl (claim.waitIdle rfl)
    · exact .inr ⟨attempt,live,found,running,rfl,Nat.lt_of_not_le full⟩
  | answering attempt => exact .inl (claim.wait.elim id own)
  | loading attempt =>
    cases found with
    | false => exact .inl (claim.waitIdle rfl)
    | true => exact .inl (claim.wait.elim (fun before => before.discarded.cancelled) own)
  | resetting attempt => exact .inl (claim.created.elim Claims.released own)
  | approving pending mid seen => exact .inl (claim.wait.elim id own)
  | storing pending mid seen =>
    rcases claim.created with before | opens
    · cases before with
      | session host live => exact .inl (.session host live)
      | pending pending stored opens => exact .inl (.pending pending stored opens)
      | handler handler running opens => contradiction
      | task id task found opens => exact .inl (.task id task found opens)
    · exact .inl (own opens)
  | declining => exact .inl (claim.waitIdle rfl).discarded
  | cancelling => exact .inl (claim.waitIdle rfl).cancelled
  | finishing => exact .inl claim.released

private theorem claims_edited {chat after : Chat} {id : Nat} {task : Task} {done : Bool}
    (found : chat.tasks.lookup id = some task) (went : edited id task done chat = some after)
    (claim : Claims after) : Claims chat := by
  unfold edited at went
  split at went
  next phase =>
    cases Option.some.inj went
    rcases claim.moved with before | opens
    · exact before.uiEdited
    · exact .task id task found (by simpa [taskOpens,phase] using opens)
  next fingerprint phase =>
    cases Option.some.inj went
    have before := claim.ended
    cases done with
    | false => exact before
    | true =>
      cases before with
      | session host live => exact .session host live
      | pending shown stored opens =>
        obtain ⟨pending,present,same⟩ := Option.map_eq_some_iff.mp stored
        refine .pending pending present ?_
        rw [← same] at opens
        unfold PendingTrust.markShown at opens
        split at opens <;> exact opens
      | handler handler running opens => exact .handler handler running opens
      | task id task found opens => exact .task id task found opens
  next =>
    cases Option.some.inj went
    exact claim.ended.uiEdited
  next =>
    cases Option.some.inj went
    exact claim.ended.uiEdited
  next => contradiction

private theorem claims_opened {chat : Chat} {id : Nat} {task : Task} {outcome : Outcome}
    (found : chat.tasks.lookup id = some task) (phase : task.phase = .opening)
    (claim : Claims (opened id task outcome chat)) : Claims chat := by
  have own (opens : opensSession task.attempt.operation = true) : Claims chat :=
    .task id task found (by simpa [taskOpens,phase] using opens)
  cases outcome with
  | trusted => exact claim.moved.elim (fun before => before) own
  | failed => exact claim.moved.resolve_right (by simp [taskOpens])
  | untrusted fingerprint =>
    cases claim.moved.resolve_right (by simp [taskOpens]) with
    | session host live => exact .session host live
    | pending pending stored opens =>
      cases Option.some.inj stored
      exact own opens
    | handler handler running opens => exact .handler handler running opens
    | task id task found opens => exact .task id task found opens

private theorem claims_launched {chat : Chat} {id : Nat} {task : Task} {done : Bool}
    (found : chat.tasks.lookup id = some task) (phase : task.phase = .dispatching)
    (claim : Claims (launched id task done chat)) : Claims chat := by
  unfold launched at claim
  split at claim
  · exact claim.moved.resolve_right (by simp [taskOpens])
  · have before := claim.moved.resolve_right (by simp [taskOpens])
    split at before
    next terminal =>
      exact .task id task found (by simp [taskOpens,phase,opensSession,terminal])
    · exact before

private theorem claims_abandoned {chat : Chat} {id : Nat} {task : Task}
    (claim : Claims (abandoned id task chat)) : Claims chat := by
  have before := claim.moved.resolve_right (by simp [taskOpens])
  split at before
  · exact before.closed
  · exact before

private theorem claims_crashed {chat : Chat} {id : Nat} {task : Task}
    (claim : Claims (crashed id task chat)) : Claims chat := by
  unfold crashed at claim
  split at claim
  · exact claim.moved.resolve_right (by simp [taskOpens])
  · exact claim.moved.resolve_right (by simp [taskOpens])
  · exact claim.ended
  · exact claim.ended
  · exact claim.moved.resolve_right (by simp [taskOpens])

/-- Only the test of `start_action` lets a chat claim a session. -/
theorem claims_step {before after : Chat} {action : Limits × Event}
    (stepped : Registry.step before action = some after) (claim : Claims after) :
    Claims before ∨ Passes before action := by
  obtain ⟨limits,event⟩ := action
  cases taken_of_step stepped with
  | start attempt force allowed closed free => exact .inl (claims_startAction claim)
  | trustYes mid hostId fingerprint free displayed => exact .inl (claims_cbTrustYes claim)
  | trustNo free => exact .inl (claim.waitIdle rfl)
  | connCancel free => exact .inl (claim.waitIdle rfl)
  | proceed found handler running => exact claims_proceed running claim
  | fail handler running => exact .inl claim.released
  | interrupt => exact .inl claim.discarded.cancelled
  | closeSession => exact .inl claim.closed
  | draw mid => exact .inl claim.displayed
  | edited id done task after found went => exact .inl (claims_edited found went claim)
  | opened id outcome task found phase => exact .inl (claims_opened found phase claim)
  | launched id done task found phase => exact .inl (claims_launched found phase claim)
  | abandoned id task found phase => exact .inl (claims_abandoned claim)
  | crashed id task found => exact .inl (claims_crashed claim)

private theorem chat_claims (bot : Bot) (id : Int) :
    claims (bot.chat id) = (bot.chats.lookup id).any claims := by
  unfold Bot.chat
  cases bot.chats.lookup id <;> rfl

theorem Bot.claimed_eq (bot : Bot) (id : Int) :
    bot.claimed = bot.others id + if claims (bot.chat id) then 1 else 0 := by
  rw [chat_claims]
  exact countWhere_split (fun _ chat => claims chat) bot.chats id

theorem Bot.sessions_le (bot : Bot) : bot.sessions ≤ bot.claimed := by
  apply countWhere_mono bot.chats
  intro _ chat _ live
  obtain ⟨host,is⟩ := Option.isSome_iff_exists.mp live
  exact (claims_iff chat).mpr (.session host is)

theorem Bot.claimed_idle (bot : Bot)
    (idle : ∀ id chat, bot.chats.lookup id = some chat →
      ∃ session displayed, chat = idleChat session displayed) : bot.claimed = bot.sessions := by
  apply Nat.le_antisymm
  · apply countWhere_mono bot.chats
    intro id chat found claim
    obtain ⟨session,displayed,rfl⟩ := idle id chat found
    cases (claims_iff _).mp claim with
    | session host live => exact Option.isSome_iff_exists.mpr ⟨host,live⟩
    | pending pending stored opens => contradiction
    | handler handler running opens => contradiction
    | task id task found opens => contradiction
  · exact bot.sessions_le

theorem claimed_step {maxLive : Nat} {before after : Bot} {move : Int × Event}
    (within : before.claimed ≤ maxLive) (room : roomLeft maxLive before move)
    (taken : step maxLive before move = some after) : after.claimed ≤ maxLive := by
  obtain ⟨id,event⟩ := move
  obtain ⟨chat,went,rfl⟩ := Option.map_eq_some_iff.mp taken
  have apart := before.claimed_eq id
  have counted : Bot.claimed ⟨before.chats.insert id chat⟩ =
      before.others id + if claims chat then 1 else 0 :=
    countWhere_insert (fun _ chat => claims chat) before.chats id chat
  rw [counted]
  cases claim : claims chat with
  | false =>
    simp only [Bool.false_eq_true,if_false]
    omega
  | true =>
    rcases claims_step went ((claims_iff chat).mp claim) with earlier | passes
    · rw [(claims_iff _).mpr earlier] at apart
      omega
    · obtain ⟨attempt,live,found,running,rfl,free⟩ := passes
      have left : before.others id < maxLive := by
        simp only [roomLeft,running] at room
        exact room free
      simp only [if_true]
      omega

/-- As long as the test of `start_action` passes only with room for one more chat beside
those that have a session or are past the test, the live sessions stay within the cap. -/
theorem sessions_capped {maxLive : Nat} {start bot : Bot} (within : start.claimed ≤ maxLive)
    (reached : Reach (step maxLive) (roomLeft maxLive) start bot) : bot.sessions ≤ maxLive := by
  have kept : bot.claimed ≤ maxLive := reached.invariant (fun bot => bot.claimed ≤ maxLive) within
    (fun _ _ _ inv room taken => claimed_step inv room taken)
  exact Nat.le_trans bot.sessions_le kept

instance (maxLive : Nat) (bot : Bot) (move : Int × Event) :
    Decidable (roomLeft maxLive bot move) := by
  unfold roomLeft
  split <;> infer_instance

def testing (chat : Int) : List (Int × Event) :=
  [(chat,.start ⟨chat,.terminal,1⟩ false true false),(chat,.proceed true)]

def connecting (chat : Int) : List (Int × Event) :=
  [(chat,.proceed true),(chat,.proceed true),(chat,.proceed true),(chat,.edited 0 true),
    (chat,.opened 0 .trusted),(chat,.launched 0 true)]

theorem sessions_capped_turned_away :
    ∃ bot, (testing 1 ++ connecting 1 ++ testing 2).foldlM (guarded (step 1) (roomLeft 1)) ⟨∅⟩ =
      some bot ∧ bot.sessions = 1 ∧ bot.sessions ≤ 1 := by
  obtain ⟨bot,run,one⟩ : ∃ bot, (testing 1 ++ connecting 1 ++ testing 2).foldlM
      (guarded (step 1) (roomLeft 1)) ⟨∅⟩ = some bot ∧ bot.sessions = 1 := ⟨_,rfl,rfl⟩
  exact ⟨bot,run,one,sessions_capped (by decide) (reach_of_run _ run)⟩

/-- Both chats pass the test before either session is there. -/
theorem cap_exceeded : ¬ ∀ (maxLive : Nat) (start bot : Bot), start.sessions ≤ maxLive →
    Reach (step maxLive) always start bot → bot.sessions ≤ maxLive := by
  intro claimed
  obtain ⟨bot,run,two⟩ : ∃ bot, (testing 1 ++ testing 2 ++ connecting 1 ++ connecting 2).foldlM
      (guarded (step 1) always) ⟨∅⟩ = some bot ∧ bot.sessions = 2 := ⟨_,rfl,rfl⟩
  have capped := claimed 1 ⟨∅⟩ bot (by decide) (reach_of_run _ run)
  omega

end AtronixX.SessionCap
