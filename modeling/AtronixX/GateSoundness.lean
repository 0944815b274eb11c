import Mathlib.Algebra.Order.Ring.Rat
import Mathlib.Tactic.Linarith
import AtronixX.Library.Fallible
import AtronixX.Gate

/-! Which updates pass the gate although the user is kept out. The last statement
of `pre_check` keeps the handlers of group 0 away; an exception that leaves the
gate before it is logged, and the update goes on. -/
namespace AtronixX.Gate
open Library.Tables Library.Fallible Database Errors

variable (env : Environment)

/-- The row that `ensure_user` returns. -/
def seenRow (user : TgUser) (world : World) : UserRow :=
  match getUser user.id world.tables with
  | none => startedUser user.username (some user.fullName) env.seconds
  | some row =>
    if outdated row user.username (some user.fullName) env.seconds then
      seen user.username (some user.fullName) env.seconds row
    else row

def isNew (user : TgUser) (world : World) : Bool := (getUser user.id world.tables).isNone

/-- A channel that the user has not joined, as far as Telegram tells. -/
def unjoined (uid : Int) (world : World) (channel : ChannelRow) : Bool :=
  !cached env uid world channel && (env.fails (.member channel.chatId)).isNone &&
    !(env.membership channel.chatId).present

/-- The reason that `evaluate` gives for a user when its reads of the database
and of Telegram come back. -/
def verdict (uid : Int) (row : UserRow) (world : World) : Option Reason :=
  if isAdmin env uid then none
  else if row.isBanned then some .banned
  else if !hasAccess env row (getMode world.tables) then some .noaccess
  else if !row.termsAccepted then some .terms
  else
    let missing := (listChannels world.tables).filter (unjoined env uid world)
    if missing.isEmpty then none else some (.join missing)

structure EnsureFine (user : TgUser) (world : World) : Prop where
  found : env.fails .getUser = none
  inserted : isNew user world = true →
    env.fails .insertUser = none ∧ env.fails .reloadUser = none
  updated : ∀ row, getUser user.id world.tables = some row →
    outdated row user.username (some user.fullName) env.seconds = true →
    env.fails .updateUser = none ∧ env.fails .reloadUser = none

structure NoticeFine (world : World) : Prop where
  mode : env.fails .noticeMode = none
  marked : getMode world.tables = .paid → env.fails .markRequestNotified = none
  sent : env.fails .noticeSend ≠ some .other

structure EvaluateFine (uid : Int) (row : UserRow) (world : World) : Prop where
  mode : isAdmin env uid = false → row.isBanned = false → env.fails .evaluateMode = none
  channels : isAdmin env uid = false → hasAccess env row (getMode world.tables) = true →
    row.termsAccepted = true → env.fails .listChannels = none ∧
      ∀ channel ∈ listChannels world.tables, cached env uid world channel = false →
        env.fails (.member channel.chatId) ≠ some .other

/-- `ui.show` gets its view to the user: the edit is accepted, or it fails in a
way that makes `show` send a new message and that message is sent. -/
def ShowFine (update : Update) : Prop :=
  match update.callbackQuery with
  | some ⟨_,true⟩ => match env.fails .edit with
    | none => True
    | some (.telegram error) => error = .notModified ∨ env.fails .send = none
    | some .other => False
  | _ => env.fails .send = none

def dataOf (update : Update) : Option String :=
  match update.callbackQuery with
  | none => some ""
  | some query => query.data

/-- Nothing that the gate does on its way to the final raise fails uncaught. -/
structure Unhindered (update : Update) (user : TgUser) (world : World) : Prop where
  ensured : EnsureFine env user world
  data : (dataOf update).isSome = true
  noticed : (isNew user world = true ∨
      (verdict env user.id (seenRow env user world) world = some .noaccess ∧
        (seenRow env user world).requestNotified = false)) → NoticeFine env world
  evaluated : EvaluateFine env user.id (seenRow env user world) world
  answered : update.callbackQuery.isSome = true → env.fails .answer ≠ some .other
  shown : ShowFine env update

def exempt (update : Update) : Bool :=
  update.callbackQuery.any (fun query => query.data.any (fun data => startsWith data alwaysOk))

/-- The update of a user whom `evaluate` keeps out reaches no handler of group 0. -/
def Gated (pattern : String → Bool) (update : Update) (user : TgUser) (world : World) : Prop :=
  verdict env user.id (seenRow env user world) world ≠ none → exempt update = false →
    (processUpdate env pattern update world).1 = false

def isFault (interrupt : Interrupt) : Prop := ∃ raised, interrupt = .fault raised

structure Unread (before after : World) : Prop where
  settings : after.tables.settings = before.tables.settings
  channels : after.tables.channels = before.tables.channels
  memberCache : after.memberCache = before.memberCache

theorem Unread.refl (world : World) : Unread world world := ⟨rfl,rfl,rfl⟩

theorem Unread.trans {first second third : World} (one : Unread first second)
    (two : Unread second third) : Unread first third :=
  ⟨two.settings.trans one.settings,two.channels.trans one.channels,
    two.memberCache.trans one.memberCache⟩

theorem Unread.getMode {before after : World} (same : Unread before after) :
    Database.getMode after.tables = Database.getMode before.tables := by
  unfold Database.getMode getSetting
  rw [same.settings]

theorem Unread.verdict {before after : World} (same : Unread before after) (uid : Int)
    (row : UserRow) : verdict env uid row after = verdict env uid row before := by
  have listed : listChannels after.tables = listChannels before.tables := by
    simp only [listChannels,same.channels]
  have member : unjoined env uid after = unjoined env uid before := by
    funext channel
    simp only [unjoined,cached,same.memberCache]
  simp only [Gate.verdict,same.getMode,listed,member]

theorem perform_settles (call : Call) (effect : World → World) (world : World) :
    Settles isFault (perform env call effect) world (env.fails call = none) ()
      (fun last => last = effect world) where
  returns fine := ⟨effect world,by simp [perform,fine],rfl⟩
  stops fails := by
    obtain ⟨raised,failed⟩ := Option.ne_none_iff_exists'.mp fails
    exact ⟨.fault raised,world,by simp [perform,failed],raised,rfl⟩

theorem fetch_settles {α : Type} (call : Call) (query : Tables → α) (world : World) (value : α)
    (read : query world.tables = value) :
    Settles isFault (fetch env call query) world (env.fails call = none) value
      (fun last => world = last) where
  returns fine := ⟨world,by simp [fetch,fine,read],rfl⟩
  stops fails := by
    obtain ⟨raised,failed⟩ := Option.ne_none_iff_exists'.mp fails
    exact ⟨.fault raised,world,by simp [fetch,failed],raised,rfl⟩

theorem tolerate_settles (call : Call) (effect : World → World) (world : World) :
    Settles isFault (catchTelegram (perform env call effect) (fun _ => pure ())) world
      (env.fails call ≠ some .other) () (fun last => last = effect world ∨ last = world) where
  returns fine := by
    cases failed : env.fails call with
    | none => exact ⟨effect world,by simp [catchTelegram,perform,failed],.inl rfl⟩
    | some raised =>
      cases raised with
      | telegram error =>
        exact ⟨world,by simp only [catchTelegram,perform,failed]; rfl,.inr rfl⟩
      | other => exact absurd failed fine
  stops fails := by
    have failed : env.fails call = some .other := not_not.mp fails
    exact ⟨.fault .other,world,by simp [catchTelegram,perform,failed],.other,rfl⟩

theorem onlyIf_settles {condition : Prop} [Decidable condition] {action : Handler Unit}
    {world : World} {fine : Prop} {after : World → Prop} (unchanged : after world)
    (settles : Settles isFault action world fine () after) :
    Settles isFault (onlyIf condition action) world (condition → fine) () after := by
  by_cases holds : condition
  · simp only [onlyIf,holds,if_true,true_implies]
    exact settles
  · simp only [onlyIf,holds]
    exact Settles.pure (by simp) unchanged

private theorem ensureFine_iff (user : TgUser) (world : World) : EnsureFine env user world ↔
    env.fails .getUser = none ∧ match getUser user.id world.tables with
      | none => env.fails .insertUser = none ∧ env.fails .reloadUser = none
      | some row => outdated row user.username (some user.fullName) env.seconds = true →
        env.fails .updateUser = none ∧ env.fails .reloadUser = none := by
  constructor
  · intro fine
    refine ⟨fine.found,?_⟩
    split
    next absent => exact fine.inserted (by simp [isNew,absent])
    next row present => exact fine.updated row present
  · rintro ⟨found,rest⟩
    refine ⟨found,?_,?_⟩
    · intro new
      have absent : getUser user.id world.tables = none := Option.isNone_iff_eq_none.mp new
      simpa only [absent] using rest
    · intro row present
      simpa only [present] using rest

theorem ensureUser_settles (user : TgUser) (world : World) :
    Settles isFault (ensureUser env user) world (EnsureFine env user world)
      (some (seenRow env user world),isNew user world) (Unread world) := by
  have ran : Settles isFault (ensureUser env user) world (env.fails .getUser = none ∧
      match getUser user.id world.tables with
      | none => env.fails .insertUser = none ∧ env.fails .reloadUser = none
      | some row => outdated row user.username (some user.fullName) env.seconds = true →
        env.fails .updateUser = none ∧ env.fails .reloadUser = none)
      (some (seenRow env user world),isNew user world) (Unread world) := by
    unfold ensureUser
    apply (fetch_settles env .getUser _ world _ rfl).bind
    rintro _ rfl
    unfold seenRow isNew
    cases found : getUser user.id world.tables with
    | none =>
      apply (perform_settles env .insertUser _ world).bind
      rintro _ rfl
      refine Settles.weaken ((fetch_settles env .reloadUser _ _ _ (AList.lookup_insert _)).bind
        (fun last same => Settles.pure trivial ?_)) (by simp) (fun _ => id)
      exact same ▸ ⟨rfl,rfl,rfl⟩
    | some row =>
      by_cases old : outdated row user.username (some user.fullName) env.seconds = true
      · simp only [old,if_true,true_implies]
        apply (perform_settles env .updateUser _ world).bind
        rintro _ rfl
        refine Settles.weaken ((fetch_settles env .reloadUser _ _
          (some (seen user.username (some user.fullName) env.seconds row)) ?_).bind
          (fun last same => Settles.pure trivial ?_)) (by simp) (fun _ => id)
        · simp [found]
        · exact same ▸ ⟨rfl,rfl,rfl⟩
      · simp only [old]
        exact Settles.pure (by simp) (.refl world)
  exact ran.weaken (ensureFine_iff env user world) (fun _ => id)

theorem notifyAdminNewUser_settles (user : TgUser) (world : World) :
    Settles isFault (notifyAdminNewUser env user) world (NoticeFine env world) ()
      (Unread world) := by
  unfold notifyAdminNewUser
  have whole : NoticeFine env world ↔ env.fails .noticeMode = none ∧
      (getMode world.tables = .paid → env.fails .markRequestNotified = none) ∧
      env.fails .noticeSend ≠ some .other :=
    ⟨fun fine => ⟨fine.mode,fine.marked,fine.sent⟩,fun ⟨mode,marked,sent⟩ => ⟨mode,marked,sent⟩⟩
  refine Settles.weaken ?_ whole (fun _ => id)
  apply (fetch_settles env .noticeMode _ world _ rfl).bind
  rintro _ rfl
  refine (onlyIf_settles (Unread.refl world)
    ((perform_settles env .markRequestNotified _ world).weaken Iff.rfl ?_)).bind ?_
  · rintro _ rfl
    exact ⟨rfl,rfl,rfl⟩
  · intro middle same
    apply (tolerate_settles env .noticeSend _ middle).weaken Iff.rfl
    rintro _ (rfl | rfl)
    · exact same.trans ⟨rfl,rfl,rfl⟩
    · exact same

structure Learned (uid : Int) (first last : World) : Prop where
  tables : last.tables = first.tables
  kept : ∀ channel, cached env uid first channel = true → cached env uid last channel = true
  earned : ∀ channel, cached env uid last channel = true → cached env uid first channel = true ∨
    env.fails (.member channel.chatId) = none ∧ (env.membership channel.chatId).present = true

private theorem Learned.learn {uid : Int} {first last : World} (learned : Learned env uid first last)
    (channel : ChannelRow) (reached : env.fails (.member channel.chatId) = none)
    (present : (env.membership channel.chatId).present = true) :
    Learned env uid first {last with
      memberCache := last.memberCache.insert (uid,channel.chatId) (env.memberTime + 300)} := by
  have grown (other : ChannelRow) : cached env uid {last with
      memberCache := last.memberCache.insert (uid,channel.chatId) (env.memberTime + 300)} other =
        if other.chatId = channel.chatId then true else cached env uid last other := by
    unfold cached
    split
    next same =>
      have found : (last.memberCache.insert (uid,channel.chatId)
          (env.memberTime + 300)).lookup (uid,other.chatId) = some (env.memberTime + 300) := by
        rw [same]
        exact AList.lookup_insert _
      simp only [found,Option.getD_some,decide_eq_true_eq]
      linarith
    next differs =>
      have other : (uid,other.chatId) ≠ (uid,channel.chatId) :=
        fun same => differs (congrArg Prod.snd same)
      simp only [AList.lookup_insert_ne other]
  refine ⟨learned.tables,?_,?_⟩
  · intro other seen
    rw [grown]
    split
    · rfl
    · exact learned.kept other seen
  · intro other seen
    rw [grown] at seen
    split at seen
    next same => exact .inr (same ▸ ⟨reached,present⟩)
    next => exact learned.earned other seen

private theorem checkChannel_settles {uid : Int} {first world : World}
    (learned : Learned env uid first world) (missing : List ChannelRow) (channel : ChannelRow) :
    Settles isFault (checkChannel env uid missing channel) world
      (cached env uid first channel = false → env.fails (.member channel.chatId) ≠ some .other)
      (missing ++ if unjoined env uid first channel then [channel] else [])
      (Learned env uid first) := by
  by_cases hit : cached env uid world channel = true
  · have ran : checkChannel env uid missing channel world = .ok missing world := by
      simp [checkChannel,hit]
    have joined : unjoined env uid first channel = false := by
      rcases learned.earned channel hit with before | ⟨_,present⟩
      · simp [unjoined,before]
      · simp [unjoined,present]
    refine ⟨fun _ => ⟨world,by simp [ran,joined],learned⟩,fun fails => ?_⟩
    refine absurd ?_ fails
    intro miss
    rcases learned.earned channel hit with before | ⟨reached,_⟩
    · rw [before] at miss
      contradiction
    · simp [reached]
  · have miss : cached env uid first channel = false := by
      rw [Bool.eq_false_iff]
      exact fun before => hit (learned.kept channel before)
    have asked : checkChannel env uid missing channel world = catchTelegram (do
        perform env (.member channel.chatId) id
        if (env.membership channel.chatId).present then
          modify (fun world => {world with
            memberCache := world.memberCache.insert (uid,channel.chatId) (env.memberTime + 300)})
          pure missing
        else pure (missing ++ [channel])) (fun _ => pure missing) world := by
      simp only [checkChannel,hit]
      rfl
    cases reached : env.fails (.member channel.chatId) with
    | none =>
      have called : perform env (.member channel.chatId) id world = .ok () world := by
        simp [perform,reached]
      refine ⟨fun _ => ?_,fun fails => absurd (by simp) fails⟩
      by_cases present : (env.membership channel.chatId).present = true
      · refine ⟨_,?_,learned.learn env channel reached present⟩
        rw [asked]
        simp only [catchTelegram,bind_ok called,present,if_true]
        simp [unjoined,present]
        rfl
      · refine ⟨world,?_,learned⟩
        rw [asked]
        simp only [catchTelegram,bind_ok called,present]
        simp [unjoined,present,miss,reached]
        rfl
    | some raised =>
      have called : perform env (.member channel.chatId) id world = .error (.fault raised) world := by
        simp [perform,reached]
      cases raised with
      | telegram error =>
        refine ⟨fun _ => ⟨world,?_,learned⟩,fun fails => absurd (by simp) fails⟩
        rw [asked]
        simp only [catchTelegram,bind_error called]
        simp [unjoined,reached]
        rfl
      | other =>
        refine ⟨fun fine => absurd rfl (fine miss),fun _ => ⟨.fault .other,world,?_,.other,rfl⟩⟩
        rw [asked]
        simp only [catchTelegram,bind_error called]

private theorem channels_settle {uid : Int} {first : World} (channels missing : List ChannelRow)
    (world : World) (learned : Learned env uid first world) :
    Settles isFault (channels.foldlM (checkChannel env uid) missing) world
      (∀ channel ∈ channels, cached env uid first channel = false →
        env.fails (.member channel.chatId) ≠ some .other)
      (missing ++ channels.filter (unjoined env uid first)) (Learned env uid first) := by
  induction channels generalizing missing world with
  | nil =>
    rw [List.filter_nil,List.append_nil]
    exact Settles.pure (by simp) learned
  | cons channel channels ih =>
    rw [List.foldlM_cons]
    have head := checkChannel_settles env learned missing channel
    have split : missing ++ (channel :: channels).filter (unjoined env uid first) =
        (missing ++ if unjoined env uid first channel then [channel] else []) ++
          channels.filter (unjoined env uid first) := by
      by_cases listed : unjoined env uid first channel = true <;> simp [listed]
    rw [split]
    exact Settles.weaken (head.bind (fun middle seen => ih _ middle seen)) (by simp) (fun _ => id)

theorem missingChannels_settles (uid : Int) (world : World) :
    Settles isFault (missingChannels env uid) world (env.fails .listChannels = none ∧
      ∀ channel ∈ listChannels world.tables, cached env uid world channel = false →
        env.fails (.member channel.chatId) ≠ some .other)
      ((listChannels world.tables).filter (unjoined env uid world))
      (fun last => last.tables = world.tables) := by
  unfold missingChannels
  apply (fetch_settles env .listChannels _ world _ rfl).bind
  rintro _ rfl
  have learned : Learned env uid world world := ⟨rfl,fun _ => id,fun _ => .inl⟩
  have cleared (middle : World) (seen : Learned env uid world middle) : Settles isFault (do
      modify (fun world =>
        if size world.memberCache > 5000 then {world with memberCache := ∅} else world)
      pure ((listChannels world.tables).filter (unjoined env uid world)) : Handler _) middle True
      ((listChannels world.tables).filter (unjoined env uid world))
      (fun last => last.tables = world.tables) := by
    refine ⟨fun _ => ⟨_,rfl,?_⟩,fun never => absurd trivial never⟩
    dsimp only
    split
    · exact seen.tables
    · exact seen.tables
  exact Settles.weaken ((channels_settle env _ [] world learned).bind
    (fun middle seen => cleared middle seen)) (by simp) (fun _ => id)

theorem evaluate_settles (uid : Int) (row : UserRow) (world : World) :
    Settles isFault (evaluate env uid row) world (EvaluateFine env uid row world)
      (verdict env uid row world) (fun last => last.tables = world.tables) := by
  unfold evaluate verdict
  by_cases admin : isAdmin env uid = true
  · simp only [admin,if_true]
    exact Settles.pure ⟨by simp [admin],by simp [admin]⟩ rfl
  · simp only [admin]
    have other : isAdmin env uid = false := by simpa using admin
    by_cases banned : row.isBanned = true
    · simp only [banned,if_true]
      exact Settles.pure ⟨by simp [banned],by simp [hasAccess,banned]⟩ rfl
    · simp only [banned]
      have free : row.isBanned = false := by simpa using banned
      have whole : EvaluateFine env uid row world ↔ env.fails .evaluateMode = none ∧
          (hasAccess env row (getMode world.tables) = true → row.termsAccepted = true →
            env.fails .listChannels = none ∧ ∀ channel ∈ listChannels world.tables,
              cached env uid world channel = false →
                env.fails (.member channel.chatId) ≠ some .other) :=
        ⟨fun fine => ⟨fine.mode other free,fine.channels other⟩,
          fun ⟨mode,channels⟩ => ⟨fun _ _ => mode,fun _ => channels⟩⟩
      refine Settles.weaken ?_ whole (fun _ => id)
      apply (fetch_settles env .evaluateMode getMode world _ rfl).bind
      rintro _ rfl
      by_cases access : hasAccess env row (getMode world.tables) = true
      · by_cases accepted : row.termsAccepted = true
        · simp only [access,accepted,true_implies]
          exact (missingChannels_settles env uid world).bind_pure _
        · simp only [access,accepted]
          exact Settles.pure (by simp) rfl
      · simp only [access]
        exact Settles.pure (by simp) rfl

theorem uiShow_settles (update : Update) (chat : Chat) (view : View) (world : World) :
    Settles isFault (uiShow env update chat view) world (ShowFine env update) ()
      (fun _ => True) := by
  have sends := (perform_settles env .send (record chat.id (.view view)) world).weaken Iff.rfl
    (fun _ _ => trivial)
  unfold uiShow ShowFine
  cases asked : update.callbackQuery with
  | none => exact sends
  | some query =>
    obtain ⟨data,hasMessage⟩ := query
    cases hasMessage with
    | false => exact sends
    | true =>
      simp only [if_true]
      cases edited : env.fails .edit with
      | none =>
        refine ⟨fun _ => ⟨record chat.id (.view view) world,?_,trivial⟩,
          fun never => absurd trivial never⟩
        simp [catchTelegram,perform,edited]
      | some raised =>
        cases raised with
        | telegram error =>
          have fallen : catchTelegram (perform env .edit (record chat.id (.view view)))
              (fun error => if error = .notModified then pure ()
                else perform env .send (record chat.id (.view view))) world =
              (if error = .notModified then pure ()
                else perform env .send (record chat.id (.view view)) : Handler Unit) world := by
            simp only [catchTelegram,perform,edited]
          by_cases unchanged : error = .notModified
          · refine ⟨fun _ => ⟨world,?_,trivial⟩,fun never => absurd (.inl unchanged) never⟩
            rw [fallen,if_pos unchanged]
            rfl
          · rw [if_neg unchanged] at fallen
            refine ⟨?_,?_⟩
            · rintro (same | fine)
              · exact absurd same unchanged
              · rw [fallen]
                exact sends.returns fine
            · intro fails
              rw [fallen]
              exact sends.stops (fun fine => fails (.inr fine))
        | other =>
          refine ⟨False.elim,fun _ => ⟨.fault .other,world,?_,.other,rfl⟩⟩
          simp [catchTelegram,perform,edited]

theorem NoticeFine.same {before after : World}
    (same : getMode after.tables = getMode before.tables) :
    NoticeFine env after ↔ NoticeFine env before := by
  constructor
  · rintro ⟨mode,marked,sent⟩
    exact ⟨mode,same ▸ marked,sent⟩
  · rintro ⟨mode,marked,sent⟩
    exact ⟨mode,same ▸ marked,sent⟩

private theorem act_halts (update : Update) (chat : Chat) (user : TgUser) (row : UserRow)
    (created : Bool) (data : String) (reason : Reason) (world : World)
    (kept : startsWith data alwaysOk = false) :
    Halts isFault .handlerStop (act env update chat user row created data (some reason)) world
      ((update.callbackQuery.isSome = true → env.fails .answer ≠ some .other) ∧
        ((reason = .noaccess ∧ row.requestNotified = false ∧ created = false) →
          NoticeFine env world) ∧ ShowFine env update ∧ True) := by
  simp only [act,kept]
  have answers : Settles isFault (catchTelegram (perform env .answer id) (fun _ => pure ())) world
      (env.fails .answer ≠ some .other) () (Unread world) := by
    apply (tolerate_settles env .answer id world).weaken Iff.rfl
    rintro _ (rfl | rfl) <;> exact .refl _
  apply (onlyIf_settles (.refl world) answers).halts
  intro middle same
  rw [← NoticeFine.same env same.getMode]
  apply (onlyIf_settles (.refl middle) (notifyAdminNewUser_settles env user middle)).halts
  intro later _
  apply (uiShow_settles env update chat _ later).halts
  intro _ _
  exact Halts.throw _

private theorem callbackData_settles (update : Update) (world : World) :
    Settles isFault (callbackData update) world ((dataOf update).isSome = true)
      ((dataOf update).getD "") (Unread world) := by
  unfold callbackData dataOf
  cases update.callbackQuery with
  | none => exact Settles.pure (by simp) (.refl world)
  | some query =>
    cases data : query.data with
    | some text =>
      simp only [data]
      exact Settles.pure (by simp) (.refl world)
    | none =>
      simp only [data]
      exact ⟨by simp,fun _ => ⟨.fault .other,world,rfl,.other,rfl⟩⟩

private theorem modify_settles (change : World → World) (world : World)
    (same : Unread world (change world)) :
    Settles isFault (modify change : Handler Unit) world True () (Unread world) :=
  ⟨fun _ => ⟨change world,rfl,same⟩,fun never => absurd trivial never⟩

private theorem not_exempt (update : Update) (kept : exempt update = false) :
    startsWith ((dataOf update).getD "") alwaysOk = false := by
  have blank : startsWith "" alwaysOk = false := by decide
  unfold exempt at kept
  unfold dataOf
  cases asked : update.callbackQuery with
  | none => exact blank
  | some query =>
    rw [asked] at kept
    cases data : query.data with
    | none => simpa [data] using blank
    | some text => simpa [data] using kept

private theorem EvaluateFine.same {before after : World} (same : Unread before after) (uid : Int)
    (row : UserRow) : EvaluateFine env uid row after ↔ EvaluateFine env uid row before := by
  have mode := same.getMode
  have listed : listChannels after.tables = listChannels before.tables := by
    simp only [listChannels,same.channels]
  have member : cached env uid after = cached env uid before := by
    funext channel
    simp only [cached,same.memberCache]
  constructor
  · rintro ⟨read,channels⟩
    exact ⟨read,by rwa [mode,listed,member] at channels⟩
  · rintro ⟨read,channels⟩
    exact ⟨read,by rwa [mode,listed,member]⟩

private theorem checkUser_halts (update : Update) (chat : Chat) (user : TgUser) (row : UserRow)
    (created : Bool) (reason : Reason) (world : World)
    (blocked : verdict env user.id row world = some reason) (kept : exempt update = false) :
    Halts isFault .handlerStop (checkUser env update chat user row created) world
      (True ∧ (dataOf update).isSome = true ∧
        ((update.callbackQuery.isSome = true ∧
          startsWith ((dataOf update).getD "") flowPrefixes = false) → True) ∧
        ((created = true ∧ isAdmin env user.id = false) → NoticeFine env world) ∧
        EvaluateFine env user.id row world ∧
        (update.callbackQuery.isSome = true → env.fails .answer ≠ some .other) ∧
        ((reason = .noaccess ∧ row.requestNotified = false ∧ created = false) →
          NoticeFine env world) ∧ ShowFine env update ∧ True) := by
  unfold checkUser
  refine (modify_settles _ world ⟨rfl,rfl,rfl⟩).halts ?_
  intro first one
  apply (callbackData_settles update first).halts
  intro second two
  refine (onlyIf_settles (.refl second) (modify_settles _ second ⟨rfl,rfl,rfl⟩)).halts ?_
  intro third three
  have unread := (one.trans two).trans three
  rw [← NoticeFine.same env unread.getMode]
  apply (onlyIf_settles (.refl third) (notifyAdminNewUser_settles env user third)).halts
  intro fourth four
  rw [← EvaluateFine.same env (unread.trans four)]
  apply (evaluate_settles env user.id row fourth).halts
  intro fifth kept'
  rw [(unread.trans four).verdict env,blocked]
  have mode : getMode fifth.tables = getMode third.tables := by rw [kept',four.getMode]
  rw [← NoticeFine.same env mode]
  exact act_halts env update chat user row created _ reason fifth (not_exempt update kept)

private theorem preCheck_halts (update : Update) (user : TgUser) (chat : Chat) (world : World)
    (reason : Reason) (sender : update.user = some user) (place : update.chat = some chat)
    (direct : chat.isPrivate = true)
    (blocked : verdict env user.id (seenRow env user world) world = some reason)
    (kept : exempt update = false) :
    Halts isFault .handlerStop (preCheck env update) world (Unhindered env update user world) := by
  have stranger : isAdmin env user.id = false := by
    by_contra admin
    simp [verdict,admin] at blocked
  have ran : Halts isFault .handlerStop (preCheck env update) world (EnsureFine env user world ∧
      True ∧ (dataOf update).isSome = true ∧
        ((update.callbackQuery.isSome = true ∧
          startsWith ((dataOf update).getD "") flowPrefixes = false) → True) ∧
        ((isNew user world = true ∧ isAdmin env user.id = false) → NoticeFine env world) ∧
        EvaluateFine env user.id (seenRow env user world) world ∧
        (update.callbackQuery.isSome = true → env.fails .answer ≠ some .other) ∧
        ((reason = .noaccess ∧ (seenRow env user world).requestNotified = false ∧
          isNew user world = false) → NoticeFine env world) ∧ ShowFine env update ∧ True) := by
    simp only [preCheck,sender,place,direct]
    apply (ensureUser_settles env user world).halts
    intro middle same
    rw [← NoticeFine.same env same.getMode,← EvaluateFine.same env same]
    rw [← same.verdict env] at blocked
    exact checkUser_halts env update chat user _ _ reason middle blocked kept
  refine ran.weaken ⟨?_,?_⟩
  · intro free
    refine ⟨free.ensured,trivial,free.data,fun _ => trivial,fun new => free.noticed (.inl new.1),
      free.evaluated,free.answered,?_,free.shown,trivial⟩
    rintro ⟨rfl,unnotified,_⟩
    exact free.noticed (.inr ⟨blocked,unnotified⟩)
  · rintro ⟨ensured,_,data,_,new,evaluated,answered,request,shown,_⟩
    refine ⟨ensured,data,?_,evaluated,answered,shown⟩
    rintro (created | ⟨same,unnotified⟩)
    · exact new ⟨created,stranger⟩
    · by_cases created : isNew user world = true
      · exact new ⟨created,stranger⟩
      · rw [blocked] at same
        exact request ⟨Option.some.inj same,unnotified,by simpa using created⟩

theorem onError_settles (update : Update) (fault : Fault) (world : World) :
    Settles isFault (onError env update fault) world
      ((update.callbackQuery.isSome = true → env.fails .errorAnswer ≠ some .other) ∧ True ∧
        (env.alertTime - world.lastAdminAlert > 600 → True ∧ env.fails .errorSend ≠ some .other))
      () (fun _ => True) := by
  unfold onError
  have answers : Settles isFault (catchTelegram (perform env .errorAnswer id) (fun _ => pure ()))
      world (env.fails .errorAnswer ≠ some .other) () (fun last => world = last) := by
    apply (tolerate_settles env .errorAnswer id world).weaken Iff.rfl
    rintro _ (rfl | rfl) <;> rfl
  apply (onlyIf_settles rfl answers).bind
  rintro _ rfl
  have reads : Settles isFault (get : Handler World) world True world (fun last => world = last) :=
    ⟨fun _ => ⟨world,rfl,rfl⟩,fun never => absurd trivial never⟩
  apply reads.bind
  rintro _ rfl
  apply onlyIf_settles trivial
  have marks : Settles isFault (set {world with lastAdminAlert := env.alertTime} : Handler Unit)
      world True ⟨⟩ (fun _ => True) :=
    ⟨fun _ => ⟨{world with lastAdminAlert := env.alertTime},rfl,trivial⟩,
      fun never => absurd trivial never⟩
  exact marks.bind (fun middle _ =>
    (tolerate_settles env .errorSend _ middle).weaken Iff.rfl (fun _ _ => trivial))

private theorem processUpdate_stopped (pattern : String → Bool) (update : Update)
    (world last : World) (stopped : preCheck env update world = .error .handlerStop last) :
    (processUpdate env pattern update world).1 = false := by
  simp only [processUpdate,stopped]

private theorem processUpdate_faulted (pattern : String → Bool) (update : Update)
    (world last : World) (raised : Fault)
    (faulted : preCheck env update world = .error (.fault raised) last) :
    (processUpdate env pattern update world).1 = accepts pattern update := by
  have settles := onError_settles env update raised last
  simp only [processUpdate,faulted]
  split
  · rfl
  next final ended =>
    rcases Classical.em _ with fine | fails
    · obtain ⟨_,ran,_⟩ := settles.returns fine
      rw [ran] at ended
      contradiction
    · obtain ⟨_,_,ran,kind,rfl⟩ := settles.stops fails
      rw [ran] at ended
      cases ended
  · rfl

/-- An update of a user who is kept out reaches no handler exactly when nothing
fails uncaught on the gate's way to its last statement. -/
theorem gated_iff (pattern : String → Bool) (user : TgUser) (chatId : Int) (content : Content)
    (world : World) :
    Gated env pattern ⟨some user,some ⟨chatId,true⟩,content⟩ user world ↔
      verdict env user.id (seenRow env user world) world = none ∨
      exempt ⟨some user,some ⟨chatId,true⟩,content⟩ = true ∨
      accepts pattern ⟨some user,some ⟨chatId,true⟩,content⟩ = false ∨
      Unhindered env ⟨some user,some ⟨chatId,true⟩,content⟩ user world := by
  generalize shape : (⟨some user,some ⟨chatId,true⟩,content⟩ : Update) = update
  cases blocked : verdict env user.id (seenRow env user world) world with
  | none => simp [Gated,blocked]
  | some reason =>
    by_cases kept : exempt update = true
    · simp [Gated,kept]
    · have other : exempt update = false := by simpa using kept
      have halts := preCheck_halts env update user ⟨chatId,true⟩ world reason (by rw [← shape])
        (by rw [← shape]) rfl blocked other
      have reached : Gated env pattern update user world ↔
          (processUpdate env pattern update world).1 = false :=
        ⟨fun gated => gated (by simp [blocked]) other,fun unreached _ _ => unreached⟩
      rw [reached]
      by_cases free : Unhindered env update user world
      · obtain ⟨last,stopped⟩ := halts.halts free
        exact iff_of_true (processUpdate_stopped env pattern update world last stopped)
          (.inr (.inr (.inr free)))
      · obtain ⟨_,last,faulted,raised,rfl⟩ := halts.stops free
        rw [processUpdate_faulted env pattern update world last raised faulted]
        simp [kept,free]

def sampleUser : TgUser := ⟨5,none,"Sam"⟩

def mute : Environment where
  settings := ⟨1,"@support","https://t.me/support"⟩
  seconds := 100
  accessTime := 100
  memberTime := 100
  alertTime := 100
  fails
    | .send => some (.telegram .networkError)
    | _ => none
  membership _ := ⟨"member",true⟩

def bannedRow : UserRow := {startedUser none (some "Sam") 100 with isBanned := true}

def bannedWorld : World where
  tables := {Database.empty with users := (∅ : Table Int UserRow).insert 5 bannedRow}
  memberCache := ∅
  lang := none
  flow := false
  lastAdminAlert := 0
  shown := []

/-- The text of a banned user reaches `router.on_text` when the block is not shown. -/
theorem banned_text_passes : ¬ ∀ (env : Environment) (pattern : String → Bool) (user : TgUser)
    (chatId : Int) (content : Content) (world : World),
    Gated env pattern ⟨some user,some ⟨chatId,true⟩,content⟩ user world := by
  intro claimed
  have gated := claimed mute (fun _ => false) sampleUser 5 .text bannedWorld
  have blocked : verdict mute sampleUser.id (seenRow mute sampleUser bannedWorld) bannedWorld =
    some .banned := by decide
  have passed : (processUpdate mute (fun _ => false) ⟨some sampleUser,some ⟨5,true⟩,.text⟩
    bannedWorld).1 = true := by decide +kernel
  rw [gated (by simp [blocked]) rfl] at passed
  contradiction

end AtronixX.Gate
