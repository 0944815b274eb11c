import AtronixX.Gate
import AtronixX.Live

/-! `enforce_access` of `core/housekeeping.py`, one pass over the tables of
`core/registry.py` with no other task running, at one reading of the clock. Messages may
fail to be sent: `ui.edit` and `ui.send` swallow it. A screen that cannot be composed ends
the pass. -/
namespace AtronixX.Enforcement
open Library.Tables Database Gate
open Live (PendingTrust)

inductive Outgoing
  | edit (chatId mid : Int)
  | notice (chatId : Int) (lang key : String)
  deriving DecidableEq, Repr

/-- The dictionaries of `registry` for all chats; sessions, browsers and connections go by
the number of their connection. `closed`, `cancelled` and `sent` collect what was closed
for which chat, the tasks that were cancelled, and the messages. -/
structure Registry where
  activeSessions : Table Int Nat
  liveMessage : Table Int Int
  renderTasks : Table Int Nat
  pendingTrust : Table Int PendingTrust
  sftpState : Table Int Nat
  connecting : Table Int Nat
  closed : List (Int × Nat)
  cancelled : List Nat
  sent : List Outgoing

def closedFor (chatId : Int) (connection : Option Nat) : List (Int × Nat) :=
  (connection.map (fun connection => (chatId,connection))).toList

def closeSession (chatId : Int) (registry : Registry) : Registry :=
  {registry with
    activeSessions := registry.activeSessions.erase chatId
    renderTasks := registry.renderTasks.erase chatId
    liveMessage := registry.liveMessage.erase chatId
    cancelled := (registry.renderTasks.lookup chatId).toList ++ registry.cancelled
    closed := closedFor chatId (registry.activeSessions.lookup chatId) ++ registry.closed}

def discardPendingTrust (chatId : Int) (registry : Registry) : Registry :=
  {registry with
    pendingTrust := registry.pendingTrust.erase chatId
    closed := closedFor chatId
      ((registry.pendingTrust.lookup chatId).map PendingTrust.connection) ++ registry.closed}

def closeSftp (chatId : Int) (registry : Registry) : Registry :=
  {registry with
    sftpState := registry.sftpState.erase chatId
    closed := closedFor chatId (registry.sftpState.lookup chatId) ++ registry.closed}

def cancelConnecting (chatId : Int) (registry : Registry) : Registry :=
  {registry with
    connecting := registry.connecting.erase chatId
    cancelled := (registry.connecting.lookup chatId).toList ++ registry.cancelled}

def resetChat (chatId : Int) (keepTerminal : Bool) (registry : Registry) : Registry :=
  let reset := closeSftp chatId (discardPendingTrust chatId (cancelConnecting chatId registry))
  if keepTerminal then reset else closeSession chatId reset

def say (message : Outgoing) (registry : Registry) : Registry :=
  {registry with sent := message :: registry.sent}

-- Whether `_compose` of a session returns: it raises where `display` of pyte does.
variable (composes : Nat → Bool)

/-- `close_with_notice`; `none` when `_compose` raises, which comes first. -/
def closeWithNotice (chatId : Int) (lang key : String) (registry : Registry) : Option Registry :=
  match registry.activeSessions.lookup chatId,registry.liveMessage.lookup chatId with
  | some session,some mid =>
    if composes session then
      some (say (.notice chatId lang key) (closeSession chatId (say (.edit chatId mid) registry)))
    else none
  | _,_ => some (say (.notice chatId lang key) (closeSession chatId registry))

variable (env : Environment) (tables : Tables)

/-- The user that is `not u or not has_access(u, mode)` leaves alone. -/
def permitted (mode : Mode) (chatId : Int) : Bool :=
  (getUser chatId tables).any (fun user => hasAccess env user mode)

def language (chatId : Int) : String :=
  ((getUser chatId tables).map UserRow.language).getD "fa"

def visitSession (mode : Mode) (registry : Registry) (chatId : Int) : Option Registry :=
  if isAdmin env chatId then some registry
  else if permitted env tables mode chatId then some registry
  else closeWithNotice composes chatId (language tables chatId) "access_lost" registry

def visitSftp (mode : Mode) (registry : Registry) (chatId : Int) : Option Registry :=
  if isAdmin env chatId then some registry
  else if permitted env tables mode chatId then some registry
  else some (say (.notice chatId (language tables chatId) "access_lost")
    (closeSftp chatId registry))

/-- What the pass leaves, and whether it returns. -/
def enforceAccess (registry : Registry) : Registry × Bool :=
  let mode := getMode tables
  match visitAll (visitSession composes env tables mode) registry.activeSessions.keys registry with
  | (ended,false) => (ended,false)
  | (ended,true) => visitAll (visitSftp env tables mode) ended.sftpState.keys ended

structure Entries where
  session : Option Nat
  liveMessage : Option Int
  renderTask : Option Nat
  pendingTrust : Option PendingTrust
  sftp : Option Nat
  connecting : Option Nat
  closed : List Nat
  deriving DecidableEq

def closedOf (closed : List (Int × Nat)) (chatId : Int) : List Nat :=
  (closed.filter (fun item => item.1 = chatId)).map Prod.snd

def entries (registry : Registry) (chatId : Int) : Entries where
  session := registry.activeSessions.lookup chatId
  liveMessage := registry.liveMessage.lookup chatId
  renderTask := registry.renderTasks.lookup chatId
  pendingTrust := registry.pendingTrust.lookup chatId
  sftp := registry.sftpState.lookup chatId
  connecting := registry.connecting.lookup chatId
  closed := closedOf registry.closed chatId

def Entries.holds (entries : Entries) : Prop :=
  entries.session ≠ none ∨ entries.sftp ≠ none ∨ entries.pendingTrust ≠ none

/-- Who holds a connection is the admin or has access, and who has access has lost nothing. -/
structure Enforced (before after : Registry) : Prop where
  complete : ∀ chatId, isAdmin env chatId = false → (entries after chatId).holds →
    ∃ user, getUser chatId tables = some user ∧ hasAccess env user (getMode tables) = true
  harmless : ∀ chatId, isAdmin env chatId = true ∨
    (∃ user, getUser chatId tables = some user ∧ hasAccess env user (getMode tables) = true) →
    entries after chatId = entries before chatId

def Entries.endSession (entries : Entries) : Entries :=
  {entries with
    session := none, liveMessage := none, renderTask := none
    closed := entries.session.toList ++ entries.closed}

def Entries.endSftp (entries : Entries) : Entries :=
  {entries with sftp := none, closed := entries.sftp.toList ++ entries.closed}

def Entries.endPending (entries : Entries) : Entries :=
  {entries with
    pendingTrust := none
    closed := (entries.pendingTrust.map PendingTrust.connection).toList ++ entries.closed}

private theorem closedOf_here (chatId : Int) (connection : Option Nat)
    (closed : List (Int × Nat)) : closedOf (closedFor chatId connection ++ closed) chatId =
      connection.toList ++ closedOf closed chatId := by
  cases connection <;> simp [closedFor,closedOf]

private theorem closedOf_elsewhere {chatId other : Int} (differs : other ≠ chatId)
    (connection : Option Nat) (closed : List (Int × Nat)) :
    closedOf (closedFor chatId connection ++ closed) other = closedOf closed other := by
  cases connection <;> simp [closedFor,closedOf,differs.symm]

@[simp] theorem entries_say (message : Outgoing) (registry : Registry) (chatId : Int) :
    entries (say message registry) chatId = entries registry chatId := rfl

@[simp] theorem entries_closeSession (chatId : Int) (registry : Registry) :
    entries (closeSession chatId registry) chatId = (entries registry chatId).endSession := by
  simp [entries,closeSession,Entries.endSession,closedOf_here]

theorem entries_closeSession_ne {chatId other : Int} (differs : other ≠ chatId)
    (registry : Registry) :
    entries (closeSession chatId registry) other = entries registry other := by
  simp [entries,closeSession,closedOf_elsewhere differs,AList.lookup_erase_ne differs]

@[simp] theorem entries_closeSftp (chatId : Int) (registry : Registry) :
    entries (closeSftp chatId registry) chatId = (entries registry chatId).endSftp := by
  simp [entries,closeSftp,Entries.endSftp,closedOf_here]

theorem entries_closeSftp_ne {chatId other : Int} (differs : other ≠ chatId)
    (registry : Registry) :
    entries (closeSftp chatId registry) other = entries registry other := by
  simp [entries,closeSftp,closedOf_elsewhere differs,AList.lookup_erase_ne differs]

@[simp] theorem entries_discard (chatId : Int) (registry : Registry) :
    entries (discardPendingTrust chatId registry) chatId =
      (entries registry chatId).endPending := by
  simp [entries,discardPendingTrust,Entries.endPending,closedOf_here]

@[simp] theorem entries_cancel (chatId : Int) (registry : Registry) :
    entries (cancelConnecting chatId registry) chatId =
      {entries registry chatId with connecting := none} := by
  simp [entries,cancelConnecting]

theorem reset_leaves_nothing (chatId : Int) (registry : Registry) :
    ∃ closed, entries (resetChat chatId false registry) chatId =
      ⟨none,none,none,none,none,none,closed⟩ := by
  exact ⟨_,by
    simp [resetChat,Entries.endSession,Entries.endSftp,Entries.endPending]
    rfl⟩

/-- A screen that cannot be composed would have to be shown before the close. -/
def Entries.garbled (composes : Nat → Bool) (entries : Entries) : Prop :=
  entries.liveMessage ≠ none ∧ ∃ session, entries.session = some session ∧
    composes session = false

variable {composes}

private theorem entries_closeWithNotice {chatId : Int} {lang key : String}
    {registry after : Registry}
    (closed : closeWithNotice composes chatId lang key registry = some after) (other : Int) :
    entries after other = entries (closeSession chatId registry) other := by
  unfold closeWithNotice at closed
  split at closed
  next =>
    split at closed
    next =>
      cases closed
      rfl
    next => contradiction
  next =>
    cases closed
    rfl

private theorem closeWithNotice_eq_none (chatId : Int) (lang key : String) (registry : Registry) :
    closeWithNotice composes chatId lang key registry = none ↔
      (entries registry chatId).garbled composes := by
  unfold closeWithNotice Entries.garbled entries
  cases registry.activeSessions.lookup chatId with
  | none => simp
  | some session => cases registry.liveMessage.lookup chatId <;> simp

/-- The chat has to be left alone. -/
def spared (mode : Mode) (chatId : Int) : Bool :=
  isAdmin env chatId || permitted env tables mode chatId

theorem spared_iff (mode : Mode) (chatId : Int) : spared env tables mode chatId = true ↔
    isAdmin env chatId = true ∨
      ∃ user, getUser chatId tables = some user ∧ hasAccess env user mode = true := by
  simp [spared,permitted,Option.any_eq_true]

private theorem visitSession_spared (mode : Mode) (registry : Registry) (chatId : Int) :
    visitSession composes env tables mode registry chatId =
      if spared env tables mode chatId then some registry
      else closeWithNotice composes chatId (language tables chatId) "access_lost" registry := by
  unfold visitSession spared
  cases isAdmin env chatId <;> simp

private theorem visitSftp_spared (mode : Mode) (registry : Registry) (chatId : Int) :
    visitSftp env tables mode registry chatId =
      if spared env tables mode chatId then some registry
      else some (say (.notice chatId (language tables chatId) "access_lost")
        (closeSftp chatId registry)) := by
  unfold visitSftp spared
  cases isAdmin env chatId <;> simp

theorem local_sessions (mode : Mode) : Local entries (visitSession composes env tables mode)
    (fun chatId seen => if spared env tables mode chatId then seen else seen.endSession)
    fun chatId seen => spared env tables mode chatId = false ∧ seen.garbled composes where
  raises registry chatId := by
    rw [visitSession_spared]
    cases spared env tables mode chatId with
    | true => simp
    | false => simp [closeWithNotice_eq_none]
  elsewhere registry chatId after visited other differs := by
    rw [visitSession_spared] at visited
    split at visited
    next =>
      cases visited
      rfl
    next => rw [entries_closeWithNotice visited,entries_closeSession_ne differs]
  here registry chatId after visited := by
    rw [visitSession_spared] at visited
    split at visited
    next kept =>
      cases visited
      rw [if_pos kept]
    next lost => rw [if_neg lost,entries_closeWithNotice visited,entries_closeSession]

theorem local_browsers (mode : Mode) : Local entries (visitSftp env tables mode)
    (fun chatId seen => if spared env tables mode chatId then seen else seen.endSftp)
    fun _ _ => False where
  raises registry chatId := by
    rw [visitSftp_spared]
    split <;> simp
  elsewhere registry chatId after visited other differs := by
    rw [visitSftp_spared] at visited
    split at visited
    next =>
      cases visited
      rfl
    next =>
      cases visited
      rw [entries_say,entries_closeSftp_ne differs]
  here registry chatId after visited := by
    rw [visitSftp_spared] at visited
    split at visited
    next kept =>
      cases visited
      rw [if_pos kept]
    next lost =>
      cases visited
      rw [if_neg lost,entries_say,entries_closeSftp]

/-- Who is spared keeps every entry, also when the pass ends early. -/
theorem enforceAccess_spared (registry : Registry) (chatId : Int)
    (kept : spared env tables (getMode tables) chatId = true) :
    entries (enforceAccess composes env tables registry).1 chatId = entries registry chatId := by
  have sessions := (@local_sessions composes env tables (getMode tables)).between
    registry.activeSessions.keys_nodup registry chatId
  rw [if_pos kept,or_self] at sessions
  unfold enforceAccess
  dsimp only
  split
  next ended same => rwa [same] at sessions
  next ended same =>
    rw [same] at sessions
    have browsers := (local_browsers env tables (getMode tables)).between
      ended.sftpState.keys_nodup ended chatId
    rw [if_pos kept,or_self] at browsers
    exact browsers.trans sessions

/-- The pass never touches what waits for approval. -/
theorem enforceAccess_pending (registry : Registry) (chatId : Int) :
    (entries (enforceAccess composes env tables registry).1 chatId).pendingTrust =
      registry.pendingTrust.lookup chatId := by
  have same {before after seen : Entries} {condition : Prop} [Decidable condition]
      (between : after = before ∨ after = if condition then before else seen)
      (changed : seen.pendingTrust = before.pendingTrust) :
      after.pendingTrust = before.pendingTrust := by
    rcases between with rfl | rfl
    · rfl
    · split
      · rfl
      · exact changed
  have sessions := same ((@local_sessions composes env tables (getMode tables)).between
    registry.activeSessions.keys_nodup registry chatId) rfl
  unfold enforceAccess
  dsimp only
  split
  next ended is => rwa [is] at sessions
  next ended is =>
    rw [is] at sessions
    exact (same ((local_browsers env tables (getMode tables)).between
      ended.sftpState.keys_nodup ended chatId) rfl).trans sessions

/-- The pass comes to its end early at a chat that is not spared and cannot be told, which
keeps its session. -/
theorem enforceAccess_garbled (registry : Registry) (chatId : Int)
    (revoked : spared env tables (getMode tables) chatId = false)
    (garbled : (entries registry chatId).garbled composes) :
    (entries (enforceAccess composes env tables registry).1 chatId).session ≠ none := by
  obtain ⟨kept,raised⟩ := (@local_sessions composes env tables (getMode tables)).stuck
    registry.activeSessions.keys ⟨revoked,garbled⟩
  obtain ⟨_,session,live,_⟩ := garbled
  have member : chatId ∈ registry.activeSessions.keys :=
    AList.mem_keys.mp (AList.lookup_isSome.mp (Option.isSome_of_mem live))
  have ended := raised member
  unfold enforceAccess
  dsimp only
  split
  next ended' is =>
    rw [is] at kept
    rw [kept,live]
    simp
  next ended' is =>
    rw [is] at ended
    contradiction

private theorem lookup_none {ν : Type} {table : Table Int ν} {chatId : Int}
    (absent : chatId ∉ table.keys) : table.lookup chatId = none :=
  AList.lookup_eq_none.mpr (fun member => absent (AList.mem_keys.mp member))

theorem enforceAccess_revoked (registry : Registry)
    (clear : ∀ chatId, spared env tables (getMode tables) chatId = false →
      ¬ (entries registry chatId).garbled composes) (chatId : Int)
    (revoked : spared env tables (getMode tables) chatId = false) :
    (entries (enforceAccess composes env tables registry).1 chatId).session = none ∧
      (entries (enforceAccess composes env tables registry).1 chatId).sftp = none := by
  have fine : ∀ key ∈ registry.activeSessions.keys,
      ¬ (spared env tables (getMode tables) key = false ∧ (entries registry key).garbled composes) :=
    fun key _ stops => clear key stops.1 stops.2
  obtain ⟨whole,seen⟩ := (@local_sessions composes env tables (getMode tables)).returns
    registry.activeSessions.keys_nodup fine
  have sessions := seen chatId
  rw [revoked] at sessions
  unfold enforceAccess
  dsimp only
  split
  next ended is =>
    rw [is] at whole
    contradiction
  next ended is =>
    rw [is] at sessions
    dsimp only at sessions
    have session : (entries ended chatId).session = none := by
      rw [sessions]
      split
      next => rfl
      next absent => exact lookup_none absent
    have seen := (@Local.returns _ _ _ _ _ _ _ _ (local_browsers env tables (getMode tables))
      _ ended.sftpState.keys_nodup ended fun _ _ stops => stops).2 chatId
    rw [seen,revoked]
    split
    next => exact ⟨session,rfl⟩
    next absent => exact ⟨session,lookup_none absent⟩

/-- The pass enforces access exactly when, of the chats that are not spared, none has a
connection in `pending_trust` and none a live message for a screen that cannot be composed. -/
theorem enforced_iff_none_pending (composes : Nat → Bool) (registry : Registry) :
    Enforced env tables registry (enforceAccess composes env tables registry).1 ↔
      ∀ chatId, registry.pendingTrust.lookup chatId ≠ none ∨
          (entries registry chatId).garbled composes →
        isAdmin env chatId = true ∨
          ∃ user, getUser chatId tables = some user ∧ hasAccess env user (getMode tables) = true := by
  have other {chatId : Int} (revoked : spared env tables (getMode tables) chatId = false) :
      isAdmin env chatId = false := by
    simp only [spared,Bool.or_eq_false_iff] at revoked
    exact revoked.1
  constructor
  · intro enforced chatId bad
    rw [← spared_iff]
    cases kept : spared env tables (getMode tables) chatId with
    | true => rfl
    | false =>
      have holds : (entries (enforceAccess composes env tables registry).1 chatId).holds := by
        rcases bad with waits | garbled
        · exact .inr (.inr (by rwa [enforceAccess_pending]))
        · exact .inl (enforceAccess_garbled env tables registry chatId kept garbled)
      have access := enforced.complete chatId (other kept) holds
      have spares := (spared_iff env tables (getMode tables) chatId).mpr (.inr access)
      rw [kept] at spares
      contradiction
  · intro none
    have clear (chatId : Int) (revoked : spared env tables (getMode tables) chatId = false)
        (bad : registry.pendingTrust.lookup chatId ≠ Option.none ∨
          (entries registry chatId).garbled composes) : False := by
      have spares := (spared_iff env tables (getMode tables) chatId).mpr (none chatId bad)
      rw [revoked] at spares
      contradiction
    refine ⟨?_,?_⟩
    · intro chatId notAdmin holds
      cases kept : spared env tables (getMode tables) chatId with
      | true =>
        rcases (spared_iff env tables (getMode tables) chatId).mp kept with admin | access
        · rw [notAdmin] at admin
          contradiction
        · exact access
      | false =>
        obtain ⟨session,sftp⟩ := enforceAccess_revoked env tables registry
          (fun other lost garbled => clear other lost (.inr garbled)) chatId kept
        rcases holds with live | browsing | waits
        · exact absurd session live
        · exact absurd sftp browsing
        · rw [enforceAccess_pending] at waits
          exact absurd (.inl waits) (clear chatId kept)
    · intro chatId access
      exact enforceAccess_spared env tables registry chatId
        ((spared_iff env tables (getMode tables) chatId).mpr access)

def noon : Environment where
  settings := ⟨1,"@support","https://t.me/support"⟩
  seconds := 100
  accessTime := 100
  memberTime := 100
  alertTime := 100
  fails _ := none
  membership _ := ⟨"member",true⟩

def expired : Tables :=
  setSetting "mode" "paid" {Database.empty with
    users := (∅ : Table Int UserRow).insert 5
      {startedUser none (some "Sam") 10 with subExpiresAt := some 50}}

def waiting : Registry :=
  ⟨∅,∅,∅,(∅ : Table Int PendingTrust).insert 5
    ⟨⟨1,"8.8.8.8",22,none⟩,0,"SHA256:k",.sftp,3⟩,∅,∅,[],[],[]⟩

def clean : Nat → Bool := fun _ => true

theorem expired_pending_stays : ¬ ∀ (composes : Nat → Bool) (env : Environment) (tables : Tables)
    (registry : Registry),
    Enforced env tables registry (enforceAccess composes env tables registry).1 := by
  intro claimed
  have waits : (entries (enforceAccess clean noon expired waiting).1 5).pendingTrust ≠ none := by
    decide
  obtain ⟨user,found,access⟩ :=
    (claimed clean noon expired waiting).complete 5 rfl (.inr (.inr waits))
  have row : getUser 5 expired =
      some {startedUser none (some "Sam") 10 with subExpiresAt := some 50} := rfl
  cases Option.some.inj (row.symm.trans found)
  have none : hasAccess noon {startedUser none (some "Sam") 10 with subExpiresAt := some 50}
      (getMode expired) = false := by decide
  rw [none] at access
  contradiction

end AtronixX.Enforcement
