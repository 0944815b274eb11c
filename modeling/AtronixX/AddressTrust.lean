import AtronixX.Library.Transition
import AtronixX.Live

/-! What a stored fingerprint belongs to. `_edit_text` clears it when the address of the
host changes, and `cb_trust_yes` stores it from the record of a host that was read before
the connection was made. -/
namespace AtronixX.AddressTrust
open Library.Tables Library.Transition Database Live

def edited : List HostColumn → Bool
  | [.plain (.label _)] => true
  | [.plain (.ip _),.plain (.hostFingerprint none)] => true
  | [.plain (.port _),.plain (.hostFingerprint none)] => true
  | [.plain (.username _)] => true
  | [.secret (some _)] => true
  | _ => false

def Made (owner : Int) : HostStatement → Prop
  | .update _ columns => edited columns = true
  | .insert row => row.ownerId = owner ∧ row.hostFingerprint = none
  | .delete _ => True

def Offered (chat : Chat) : Event → Prop
  | .update (.write statement) => Made chat.owner statement
  | _ => True

/-- The row of the host, if it is still there, has the address that was connected to. -/
def Current (tables : Tables) (host : Host) : Prop :=
  ∀ row ∈ tables.hosts.lookup host.id, row.ip = host.ip ∧ row.port = host.port

/-- `trust:yes` stores a fingerprint only while its host has the same address. -/
def Unmoved (chat : Chat) (event : Event) : Prop :=
  Offered chat event ∧ match event,chat.handler with
    | .proceed _,some (.storing pending _) => Current chat.tables pending.host
    | _,_ => True

def Backed (chat : Chat) (id : Int) (row : HostRow) (fingerprint : String) : Prop :=
  ∃ item ∈ chat.approvals, item ∈ chat.presented ∧ item.host.id = id ∧ item.host.ip = row.ip ∧
    item.host.port = row.port ∧ item.fingerprint = fingerprint

def Trusted (chat : Chat) : Prop :=
  ∀ id row fingerprint, chat.tables.hosts.lookup id = some row → row.ownerId = chat.owner →
    row.hostFingerprint = some fingerprint → Backed chat id row fingerprint

/-- Nothing is going on in the chat; `history` is what was presented and approved before. -/
def resumed (owner : Int) (tables : Tables) (history : List Presented) : Chat :=
  {idleChat owner tables with presented := history, approvals := history}

def shown (pending : PendingTrust) : Presented := ⟨pending.host,pending.fingerprint⟩

def Held (chat : Chat) : Option Handler → Prop
  | some (.approving pending _) => shown pending ∈ chat.presented ∧ shown pending ∈ chat.approvals
  | some (.storing pending _) => shown pending ∈ chat.presented ∧ shown pending ∈ chat.approvals
  | some (.writing statement) => Made chat.owner statement
  | _ => True

structure Kept (chat : Chat) : Prop where
  trusted : Trusted chat
  pending : ∀ pending, chat.pendingTrust = some pending → shown pending ∈ chat.presented
  handler : Held chat chat.handler

structure Beside (before after : Chat) : Prop where
  owner : after.owner = before.owner
  tables : after.tables = before.tables
  presented : before.presented ⊆ after.presented
  approvals : before.approvals ⊆ after.approvals
  pending : ∀ pending, after.pendingTrust = some pending →
    before.pendingTrust = some pending ∨ shown pending ∈ after.presented

theorem Beside.trans {first second third : Chat} (one : Beside first second)
    (two : Beside second third) : Beside first third := by
  refine ⟨two.owner.trans one.owner,two.tables.trans one.tables,
    fun _ member => two.presented (one.presented member),
    fun _ member => two.approvals (one.approvals member),?_⟩
  intro pending waits
  rcases two.pending pending waits with was | seen
  · rcases one.pending pending was with before | seen
    · exact .inl before
    · exact .inr (two.presented seen)
  · exact .inr seen

theorem Held.mono {before after : Chat} (beside : Beside before after) {handler : Option Handler}
    (held : Held before handler) : Held after handler := by
  unfold Held at held ⊢
  split
  · exact ⟨beside.presented held.1,beside.approvals held.2⟩
  · exact ⟨beside.presented held.1,beside.approvals held.2⟩
  · rw [beside.owner]
    exact held
  · trivial

theorem Backed.mono {before after : Chat} {id : Int} {row : HostRow} {fingerprint : String}
    (presented : before.presented ⊆ after.presented) (approvals : before.approvals ⊆ after.approvals)
    (backed : Backed before id row fingerprint) : Backed after id row fingerprint := by
  obtain ⟨item,approved,seen,is⟩ := backed
  exact ⟨item,approvals approved,presented seen,is⟩

theorem Kept.beside {before after : Chat} (inv : Kept before) (beside : Beside before after)
    (handler : Held after after.handler) : Kept after := by
  refine ⟨?_,?_,handler⟩
  · intro id row fingerprint found own stored
    rw [beside.tables] at found
    rw [beside.owner] at own
    exact (inv.trusted id row fingerprint found own stored).mono beside.presented beside.approvals
  · intro pending waits
    rcases beside.pending pending waits with was | seen
    · exact beside.presented (inv.pending pending was)
    · exact seen

theorem Kept.unhandled {before after : Chat} (inv : Kept before) (beside : Beside before after)
    (same : after.handler = before.handler) : Kept after :=
  inv.beside beside (Held.mono beside (same ▸ inv.handler))

def view (chat : Chat) : Int × Tables × List Presented × List Presented × Option PendingTrust :=
  (chat.owner,chat.tables,chat.presented,chat.approvals,chat.pendingTrust)

theorem beside_view {before after : Chat} (same : view after = view before) :
    Beside before after := by
  simp only [view,Prod.mk.injEq] at same
  obtain ⟨owner,tables,presented,approvals,pending⟩ := same
  refine ⟨owner,tables,?_,?_,fun _ waits => .inl (pending ▸ waits)⟩
  · rw [presented]
    exact List.Subset.refl _
  · rw [approvals]
    exact List.Subset.refl _

theorem beside_discarded {before after : Chat}
    (same : view after = view {before with pendingTrust := none}) : Beside before after := by
  have none : Beside before {before with pendingTrust := none} :=
    ⟨rfl,rfl,List.Subset.refl _,List.Subset.refl _,fun _ waits => by contradiction⟩
  exact none.trans (beside_view same)

theorem Kept.same {before after : Chat} (inv : Kept before) (same : view after = view before)
    (handler : after.handler = before.handler ∨ Held before after.handler) : Kept after := by
  have beside := beside_view same
  refine inv.beside beside (Held.mono beside ?_)
  rcases handler with unchanged | held
  · rw [unchanged]
    exact inv.handler
  · exact held

private theorem cancelConnecting_same (chat : Chat) :
    view (cancelConnecting chat) = view chat ∧ (cancelConnecting chat).handler = chat.handler := by
  unfold cancelConnecting
  split <;> exact ⟨rfl,rfl⟩

theorem beside_reset (chat : Chat) : Beside chat (resetChat chat) := by
  refine beside_discarded ?_
  have same := (cancelConnecting_same chat).1
  simp only [view,Prod.mk.injEq] at same
  simp [view,resetChat,discardPendingTrust,same]

private theorem advance_same {chat after : Chat} {id : Nat} {task : Task} {answer : Answer}
    (went : advance id task answer chat = some after) :
    view after = view chat ∧ after.handler = chat.handler := by
  cases advanced_of_advance went <;> exact ⟨rfl,rfl⟩

private theorem unwind_same (id : Nat) (task : Task) (chat : Chat) :
    view (unwind id task chat) = view chat ∧ (unwind id task chat).handler = chat.handler := by
  unfold unwind
  split
  · exact ⟨rfl,rfl⟩
  · split <;> exact ⟨rfl,rfl⟩

private theorem outside_same (id : Nat) (closer : Closer) (answer : Answer) (chat : Chat) :
    view (outside id closer answer chat) = view chat ∧
      (outside id closer answer chat).handler = chat.handler := by
  unfold outside
  cases closer with
  | discarding => exact ⟨rfl,rfl⟩
  | closingSftp => exact ⟨rfl,rfl⟩
  | examined session ends =>
    dsimp only
    split
    next => exact ⟨rfl,rfl⟩
    next =>
      split
      next => split <;> exact ⟨rfl,rfl⟩
      next => exact ⟨rfl,rfl⟩
  | noticing session => exact ⟨rfl,rfl⟩
  | examinedSftp browser ends =>
    dsimp only
    split <;> exact ⟨rfl,rfl⟩

private theorem ticked_same (id : Nat) (tick : Tick) (chat : Chat) :
    view (ticked id tick chat) = view chat ∧ (ticked id tick chat).handler = chat.handler := by
  unfold ticked
  split
  · exact ⟨rfl,rfl⟩
  · split
    · exact ⟨rfl,rfl⟩
    · split <;> exact ⟨rfl,rfl⟩
    · split <;> exact ⟨rfl,rfl⟩
    · exact ⟨rfl,rfl⟩

private theorem drawn_same (id : Nat) (error : Option Errors.TelegramError) (chat : Chat) :
    view (drawn id error chat) = view chat ∧ (drawn id error chat).handler = chat.handler := by
  unfold drawn
  split <;> exact ⟨rfl,rfl⟩

private theorem Kept.opened {chat : Chat} (inv : Kept chat) (id : Nat) (task : Task)
    (fingerprint : Option String) : Kept (opened id task fingerprint chat) := by
  unfold Live.opened
  split
  · exact inv.same rfl (.inl rfl)
  next fingerprint =>
    have connected : Beside chat {chat with
        opened := chat.opened + 1
        presented := ⟨task.host,fingerprint⟩ :: chat.presented} :=
      ⟨rfl,rfl,List.subset_cons_self _ _,List.Subset.refl _,fun _ waits => .inl waits⟩
    split
    · exact inv.unhandled (connected.trans (beside_view rfl)) rfl
    · have prompted : Beside chat (setPhase id task .prompting {chat with
          opened := chat.opened + 1
          presented := ⟨task.host,fingerprint⟩ :: chat.presented
          pendingTrust :=
            some ⟨task.host,chat.opened,fingerprint,task.operation,task.mid⟩}) := by
        refine ⟨rfl,rfl,List.subset_cons_self _ _,List.Subset.refl _,?_⟩
        intro pending waits
        cases Option.some.inj waits
        exact .inr List.mem_cons_self
      exact inv.unhandled prompted rfl

private theorem Kept.approve {chat : Chat} (inv : Kept chat) {pending : PendingTrust} (mid : Int)
    (held : shown pending ∈ chat.presented ∧ shown pending ∈ chat.approvals)
    (current : Current chat.tables pending.host) : Kept (approve pending mid chat) := by
  refine ⟨?_,inv.pending,trivial⟩
  intro id row fingerprint found own stored
  rcases lookup_updateKey_some found with ⟨rfl,before,was,rfl⟩ | ⟨_,was⟩
  · cases Option.some.inj stored
    obtain ⟨ip,port⟩ := current before was
    exact ⟨shown pending,held.2,held.1,rfl,ip.symm,port.symm,rfl⟩
  · exact inv.trusted id row fingerprint was own stored

private theorem setColumns_edited {columns : List HostColumn} (is : edited columns = true)
    {row changed : HostRow} (set : setColumns columns row = some changed) :
    changed.ownerId = row.ownerId ∧ (changed.hostFingerprint = none ∨
      changed.ip = row.ip ∧ changed.port = row.port ∧
        changed.hostFingerprint = row.hostFingerprint) := by
  unfold edited at is
  split at is <;> simp_all [setColumns,HostColumn.set,PlainColumn.set] <;> subst set <;> simp

private theorem run_row {owner : Int} {statement : HostStatement} (made : Made owner statement)
    {tables after : Tables} (ran : statement.run owner tables = some after) {id : Int}
    {row : HostRow} (found : after.hosts.lookup id = some row) : row.hostFingerprint = none ∨
      ∃ old, tables.hosts.lookup id = some old ∧ old.ownerId = row.ownerId ∧ row.ip = old.ip ∧
        row.port = old.port ∧ row.hostFingerprint = old.hostFingerprint := by
  cases statement with
  | update key columns =>
    simp only [HostStatement.run,updateHost] at ran
    split at ran
    next =>
      cases Option.some.inj ran
      exact .inr ⟨row,found,rfl,rfl,rfl,rfl⟩
    next old present =>
      split at ran
      next =>
        obtain ⟨changed,set,rfl⟩ := Option.map_eq_some_iff.mp ran
        rcases lookup_updateKey_some found with ⟨rfl,before,was,rfl⟩ | ⟨_,was⟩
        · obtain ⟨own,cleared | same⟩ := setColumns_edited made set
          · exact .inl cleared
          · exact .inr ⟨old,present,own.symm,same⟩
        · exact .inr ⟨row,was,rfl,rfl,rfl,rfl⟩
      next =>
        cases Option.some.inj ran
        exact .inr ⟨row,found,rfl,rfl,rfl,rfl⟩
  | insert new =>
    cases Option.some.inj ran
    rcases lookup_insert_some found with ⟨_,rfl⟩ | ⟨_,was⟩
    · exact .inl made.2
    · exact .inr ⟨row,was,rfl,rfl,rfl,rfl⟩
  | delete key =>
    cases Option.some.inj ran
    have was := (lookup_deleteWhere _ tables.hosts id).symm.trans found
    exact .inr ⟨row,(Option.filter_eq_some_iff.mp was).1,rfl,rfl,rfl,rfl⟩

private theorem Kept.wrote {chat : Chat} (inv : Kept chat) {statement : HostStatement}
    (made : Made chat.owner statement) : Kept {chat with
      handler := (statement.run chat.owner chat.tables).map (fun _ => .finishing)
      tables := (statement.run chat.owner chat.tables).getD chat.tables} := by
  cases ran : statement.run chat.owner chat.tables with
  | none => exact inv.same rfl (.inr trivial)
  | some after =>
    refine ⟨?_,inv.pending,trivial⟩
    intro id row fingerprint found own stored
    rcases run_row made ran found with cleared | ⟨old,was,same,ip,port,kept⟩
    · rw [cleared] at stored
      contradiction
    · obtain ⟨item,approved,seen,isId,isIp,isPort,is⟩ :=
        inv.trusted id old fingerprint was (same.trans own) (kept ▸ stored)
      exact ⟨item,approved,seen,isId,isIp.trans ip.symm,isPort.trans port.symm,is⟩

private theorem Kept.begin {chat : Chat} (inv : Kept chat) (update : Update)
    (offered : Offered chat (.update update)) : Kept (begin update chat) := by
  cases update with
  | start attempt force allowed closed =>
    simp only [Live.begin,startAction]
    split
    · exact inv.same rfl (.inr trivial)
    · split
      · exact inv.same rfl (.inr trivial)
      · split
        · exact inv.same rfl (.inr trivial)
        · split <;> exact inv.same rfl (.inr trivial)
  | connCancel => exact inv.same rfl (.inr trivial)
  | trustYes mid =>
    simp only [Live.begin,cbTrustYes]
    split
    · exact inv.same rfl (.inr trivial)
    next pending waits =>
      have popped : Beside chat (wait (.approving pending mid) {chat with
          pendingTrust := none
          approvals := ⟨pending.host,pending.fingerprint⟩ :: chat.approvals}) :=
        ⟨rfl,rfl,List.Subset.refl _,List.subset_cons_self _ _,fun _ waits => by contradiction⟩
      exact inv.beside popped ⟨inv.pending pending waits,List.mem_cons_self⟩
  | trustNo => exact inv.same rfl (.inr trivial)
  | reset keepTerminal => exact inv.beside ((beside_reset chat).trans (beside_view rfl)) trivial
  | exitTerminal => exact inv.same rfl (.inr trivial)
  | exitSftp => exact inv.same rfl (.inr trivial)
  | write statement => exact inv.same rfl (.inr offered)

private theorem Kept.proceed {chat : Chat} (inv : Kept chat) {handler : Handler} (answer : Answer)
    (running : chat.handler = some handler) (unmoved : Unmoved chat (.proceed answer)) :
    Kept (proceed handler answer chat) := by
  have held := inv.handler
  rw [running] at held
  cases handler with
  | closing attempt => exact inv.same rfl (.inr trivial)
  | counting attempt =>
    simp only [Live.proceed]
    split <;> exact inv.same rfl (.inr trivial)
  | answering attempt => exact inv.same rfl (.inr trivial)
  | loading attempt =>
    simp only [Live.proceed]
    split
    · exact inv.same rfl (.inr trivial)
    · exact inv.beside ((beside_reset chat).trans (beside_view rfl)) trivial
  | discarding follow => exact inv.same rfl (.inr trivial)
  | closingSftp follow =>
    cases follow with
    | connect host operation mid => exact inv.same rfl (.inr trivial)
    | leave keepTerminal => cases keepTerminal <;> exact inv.same rfl (.inr trivial)
  | approving pending mid => exact inv.same rfl (.inr held)
  | storing pending mid => exact inv.approve mid held (by simpa [Unmoved,running] using unmoved.2)
  | declining => exact inv.beside (beside_discarded rfl) trivial
  | cancelling =>
    refine inv.same ?_ (.inr trivial)
    exact (cancelConnecting_same chat).1
  | exitingTerminal => exact inv.same rfl (.inr trivial)
  | exitingSftp => exact inv.same rfl (.inr trivial)
  | writing statement => exact inv.wrote held
  | finishing => exact inv.same rfl (.inr trivial)

theorem Kept.step {chat after : Chat} {event : Event} (inv : Kept chat)
    (unmoved : Unmoved chat event) (stepped : step chat event = some after) : Kept after := by
  cases taken_of_step stepped with
  | update update free => exact inv.begin update unmoved.1
  | proceed answer handler running => exact inv.proceed answer running unmoved
  | fail handler running may => exact inv.same rfl (.inr trivial)
  | cancel id => exact inv.same rfl (.inl rfl)
  | advance id answer task after found alive went =>
    exact inv.same (advance_same went).1 (.inl (advance_same went).2)
  | opened id fingerprint task found alive phase => exact inv.opened id task fingerprint
  | unwind id task found cancelled =>
    exact inv.same (unwind_same id task chat).1 (.inl (unwind_same id task chat).2)
  | ban =>
    exact inv.unhandled ((beside_reset chat).trans (beside_view rfl)) (cancelConnecting_same chat).2
  | examine ends session stored => exact inv.same rfl (.inl rfl)
  | examineSftp ends browser stored => exact inv.same rfl (.inl rfl)
  | outside id answer closer found =>
    exact inv.same (outside_same id closer answer chat).1
      (.inl (outside_same id closer answer chat).2)
  | ticked id tick found =>
    exact inv.same (ticked_same id tick chat).1 (.inl (ticked_same id tick chat).2)
  | drawn id error found =>
    exact inv.same (drawn_same id error chat).1 (.inl (drawn_same id error chat).2)
  | noticed id session found => exact inv.same rfl (.inl rfl)
  | left id found => exact inv.same rfl (.inl rfl)

/-- In a run that stores no fingerprint after its host has moved, every stored fingerprint was
presented by the current address of its host and approved. -/
theorem unmoved_run_trusted (owner : Int) (tables : Tables) (history : List Presented)
    (chat : Chat) (backed : Trusted (resumed owner tables history))
    (reached : Reach step Unmoved (resumed owner tables history) chat) : Trusted chat := by
  have kept : Kept chat := by
    refine reached.invariant Kept ⟨backed,fun _ waits => by contradiction,trivial⟩ ?_
    intro before event after inv unmoved stepped
    exact inv.step unmoved stepped
  exact kept.trusted

def moving : List Event :=
  [.update (.write (.update 1 [.plain (.ip "1.1.1.1"),.plain (.hostFingerprint none)])),
    .proceed done,.proceed done]

def approving : List Event := [.update (.trustYes 5),.proceed done,.proceed done]

instance (owner : Int) (statement : HostStatement) : Decidable (Made owner statement) := by
  unfold Made
  split <;> infer_instance

instance (chat : Chat) (event : Event) : Decidable (Offered chat event) := by
  unfold Offered
  split <;> infer_instance

instance (tables : Tables) (host : Host) : Decidable (Current tables host) :=
  inferInstanceAs (Decidable (∀ row ∈ _, _))

instance (chat : Chat) (event : Event) : Decidable (Unmoved chat event) := by
  unfold Unmoved
  refine @instDecidableAnd _ _ inferInstance ?_
  split <;> infer_instance

theorem oneHost_trusted : Trusted (resumed 7 oneHost []) := by
  intro id row fingerprint found _ stored
  rcases lookup_insert_some found with ⟨_,rfl⟩ | ⟨_,was⟩
  · contradiction
  · contradiction

theorem unmoved_run_trusted_approved : ∃ chat,
    (prompting ++ approving).foldlM (guarded step Unmoved) (resumed 7 oneHost []) = some chat ∧
      (chat.tables.hosts.lookup 1).bind HostRow.hostFingerprint = some "SHA256:k" ∧
      Trusted chat := by
  obtain ⟨chat,run,stored⟩ : ∃ chat,
      (prompting ++ approving).foldlM (guarded step Unmoved) (resumed 7 oneHost []) = some chat ∧
        (chat.tables.hosts.lookup 1).bind HostRow.hostFingerprint = some "SHA256:k" :=
    ⟨_,rfl,rfl⟩
  exact ⟨chat,run,stored,unmoved_run_trusted 7 oneHost [] chat oneHost_trusted (reach_of_run _ run)⟩

/-- The address is edited while the prompt waits; `trust:yes` then stores the fingerprint of
the old address for the new one. -/
theorem moved_host_trusted : ¬ ∀ (owner : Int) (tables : Tables) (history : List Presented)
    (chat : Chat), Trusted (resumed owner tables history) →
    Reach step Offered (resumed owner tables history) chat → Trusted chat := by
  intro claimed
  obtain ⟨chat,run,rows,approvals,own⟩ : ∃ chat,
      (prompting ++ moving ++ approving).foldlM (guarded step Offered) (resumed 7 oneHost []) =
        some chat ∧ (chat.tables.hosts.lookup 1).map (fun row => (row.ip,row.hostFingerprint)) =
          some ("1.1.1.1",some "SHA256:k") ∧
        chat.approvals = [⟨⟨1,"8.8.8.8",22,none⟩,"SHA256:k"⟩] ∧
        (chat.tables.hosts.lookup 1).all (fun row => row.ownerId = chat.owner) = true :=
    ⟨_,rfl,rfl,rfl,rfl⟩
  obtain ⟨row,found,is⟩ := Option.map_eq_some_iff.mp rows
  obtain ⟨ip,stored⟩ := Prod.mk.inj is
  rw [found] at own
  obtain ⟨item,approved,_,_,sameIp,_⟩ := claimed 7 oneHost [] chat oneHost_trusted
    (reach_of_run _ run) 1 row "SHA256:k" found (by simpa using own) stored
  rw [approvals,List.mem_singleton] at approved
  rw [approved,ip] at sameIp
  contradiction

end AtronixX.AddressTrust
