import Mathlib.Algebra.Order.Ring.Rat
import Mathlib.Tactic.Linarith
import AtronixX.Library.Transition
import AtronixX.Gate

/-! The cache of `handlers/gate.py` while the checks of many users go on: `_missing_channels` waits
for the database and for Telegram, and `forget_membership`, the admin's channels and the clock go
on beside it. The updates of one user run one after another. -/
namespace AtronixX.Membership
open Library.Transition Library.Tables Database Gate

inductive Said
  | present
  | absent
  | error
  deriving DecidableEq, Repr

/-- What Telegram said, when it was asked, and how often the user's answers had been forgotten. -/
structure Answer where
  uid : Int
  chatId : Int
  asked : Rat
  reply : Said
  epoch : Nat
  deriving DecidableEq

/-- A call of `_missing_channels`. `left` has the channels from the one that is asked about on;
there is none before the database answers, and after that `channels` has what it listed. -/
structure Check where
  now : Rat
  channels : List ChannelRow
  left : Option (List ChannelRow)
  missing : List ChannelRow
  asked : Rat

structure Result where
  uid : Int
  began : Rat
  channels : List ChannelRow
  missing : List ChannelRow
  epoch : Nat

/-- The last three fields are history: what Telegram said, how often the answers about a user were
forgotten, and the calls that returned. -/
structure Checks where
  clock : Rat
  channels : List ChannelRow
  memberCache : Table (Int × Int) Rat
  running : Table Int Check
  answers : List Answer
  epoch : Int → Nat
  results : List Result

def opened (clock : Rat) (channels : List ChannelRow) : Checks :=
  ⟨clock,channels,∅,∅,[],fun _ => 0,[]⟩

inductive Event
  | wait (seconds : Rat)
  | setChannels (channels : List ChannelRow)
  /-- `_missing_channels` is called, `list_channels` returns, Telegram answers or refuses to, and
  the call is cut off by another exception. -/
  | begin (uid : Int)
  | listed (uid : Int)
  | answered (uid : Int) (membership : Membership)
  | refused (uid : Int)
  | abort (uid : Int)
  | forget (uid : Int)

/-- `_member_cache.get(key, 0) > now`. -/
def hit (uid : Int) (now : Rat) (memberCache : Table (Int × Int) Rat) (channel : ChannelRow) :
    Bool := decide (now < (memberCache.lookup (uid,channel.chatId)).getD 0)

theorem cached_eq_hit (env : Environment) (uid : Int) (world : World) (channel : ChannelRow) :
    cached env uid world channel = hit uid env.memberTime world.memberCache channel := rfl

/-- The loop from the channel that comes next, up to the one that Telegram is asked about, or to
the end. -/
def loop (uid : Int) (check : Check) (rest : List ChannelRow) (checks : Checks) : Checks :=
  match rest.dropWhile (hit uid check.now checks.memberCache) with
  | [] => {checks with
      memberCache := if size checks.memberCache > 5000 then ∅ else checks.memberCache
      running := checks.running.erase uid
      results := ⟨uid,check.now,check.channels,check.missing,checks.epoch uid⟩ :: checks.results}
  | left => {checks with
      running := checks.running.insert uid {check with left := some left, asked := checks.clock}}

/-- `_missing_channels` after a question. -/
def replied (uid : Int) (reply : Said) (check : Check) (checks : Checks) : Option Checks :=
  match check.left with
  | some (channel :: rest) =>
    let told := {checks with
      answers := ⟨uid,channel.chatId,check.asked,reply,checks.epoch uid⟩ :: checks.answers}
    some (match reply with
      | .present => loop uid check rest {told with
          memberCache := told.memberCache.insert (uid,channel.chatId) (check.now + 300)}
      | .absent => loop uid {check with missing := check.missing ++ [channel]} rest told
      | .error => loop uid check rest told)
  | _ => none

def step (checks : Checks) : Event → Option Checks
  | .wait seconds =>
    if 0 ≤ seconds then some {checks with clock := checks.clock + seconds} else none
  | .setChannels channels => some {checks with channels := channels}
  | .begin uid =>
    if (checks.running.lookup uid).isSome then none
    else some {checks with
      running := checks.running.insert uid ⟨checks.clock,[],none,[],checks.clock⟩}
  | .listed uid => (checks.running.lookup uid).bind fun check =>
    if check.left.isSome then none
    else some (loop uid {check with channels := checks.channels} checks.channels checks)
  | .answered uid membership => (checks.running.lookup uid).bind fun check =>
    replied uid (if membership.present then .present else .absent) check checks
  | .refused uid => (checks.running.lookup uid).bind fun check => replied uid .error check checks
  | .abort uid => some {checks with running := checks.running.erase uid}
  | .forget uid =>
    if (checks.running.lookup uid).isSome then none
    else some {checks with
      memberCache := deleteWhere (fun key _ => key.1 == uid) checks.memberCache
      epoch := Function.update checks.epoch uid (checks.epoch uid + 1)}

def Answer.about (answer : Answer) (uid : Int) (channel : ChannelRow) : Prop :=
  answer.uid = uid ∧ answer.chatId = channel.chatId

/-- Telegram denied it, asked by this very call. -/
def Denied (answers : List Answer) (uid : Int) (began : Rat) (channel : ChannelRow) : Prop :=
  ∃ answer ∈ answers, answer.about uid channel ∧ answer.reply = .absent ∧ began ≤ answer.asked

/-- Telegram affirmed it, asked less than five minutes before the call and not before the answers
were forgotten last; or it gave this very call no answer. -/
def Passed (answers : List Answer) (uid : Int) (began : Rat) (epoch : Nat) (channel : ChannelRow) :
    Prop :=
  ∃ answer ∈ answers, answer.about uid channel ∧
    (answer.reply = .present ∧ answer.epoch = epoch ∧ began < answer.asked + 300 ∨
      answer.reply = .error ∧ began ≤ answer.asked)

structure Founded (answers : List Answer) (result : Result) : Prop where
  missing : ∀ channel ∈ result.missing, channel ∈ result.channels ∧
    Denied answers result.uid result.began channel
  passed : ∀ channel ∈ result.channels, channel ∈ result.missing ∨
    Passed answers result.uid result.began result.epoch channel

def Underway (answers : List Answer) (uid : Int) (epoch : Nat) (check : Check)
    (rest : List ChannelRow) : Prop :=
  ∃ done, check.channels = done ++ rest ∧
    (∀ channel ∈ check.missing, channel ∈ done ∧ Denied answers uid check.now channel) ∧
    ∀ channel ∈ done, channel ∈ check.missing ∨ Passed answers uid check.now epoch channel

structure Kept (checks : Checks) : Prop where
  clock : 0 ≤ checks.clock
  cache : ∀ uid chatId expiry, checks.memberCache.lookup (uid,chatId) = some expiry →
    ∃ answer ∈ checks.answers, answer.uid = uid ∧ answer.chatId = chatId ∧
      answer.reply = .present ∧ answer.epoch = checks.epoch uid ∧ expiry ≤ answer.asked + 300
  began : ∀ uid check, checks.running.lookup uid = some check →
    0 ≤ check.now ∧ check.now ≤ checks.clock
  fresh : ∀ uid check, checks.running.lookup uid = some check → check.left = none →
    check.missing = []
  running : ∀ uid check rest, checks.running.lookup uid = some check → check.left = some rest →
    check.now ≤ check.asked ∧ Underway checks.answers uid (checks.epoch uid) check rest
  results : ∀ result ∈ checks.results, Founded checks.answers result

theorem Kept.opened {clock : Rat} (channels : List ChannelRow) (positive : 0 ≤ clock) :
    Kept (opened clock channels) := by
  refine ⟨positive,?_,?_,?_,?_,?_⟩
  · intro uid chatId expiry found
    contradiction
  · intro uid check found
    contradiction
  · intro uid check found
    contradiction
  · intro uid check rest found
    contradiction
  · intro result member
    contradiction

section
variable {checks after : Checks} {uid : Int} {answers more : List Answer}

theorem Denied.mono {began : Rat} {channel : ChannelRow} (denied : Denied answers uid began channel)
    (grown : answers ⊆ more) : Denied more uid began channel := by
  obtain ⟨answer,member,rest⟩ := denied
  exact ⟨answer,grown member,rest⟩

theorem Passed.mono {began : Rat} {epoch : Nat} {channel : ChannelRow}
    (passed : Passed answers uid began epoch channel) (grown : answers ⊆ more) :
    Passed more uid began epoch channel := by
  obtain ⟨answer,member,rest⟩ := passed
  exact ⟨answer,grown member,rest⟩

theorem Founded.mono {result : Result} (founded : Founded answers result) (grown : answers ⊆ more) :
    Founded more result where
  missing channel member :=
    ⟨(founded.missing channel member).1,(founded.missing channel member).2.mono grown⟩
  passed channel member := (founded.passed channel member).imp id (·.mono grown)

theorem Underway.mono {epoch : Nat} {check : Check} {rest : List ChannelRow}
    (underway : Underway answers uid epoch check rest) (grown : answers ⊆ more) :
    Underway more uid epoch check rest := by
  obtain ⟨done,split,missing,passed⟩ := underway
  refine ⟨done,split,?_,?_⟩
  · intro channel member
    exact ⟨(missing channel member).1,(missing channel member).2.mono grown⟩
  · intro channel member
    exact (passed channel member).imp id (·.mono grown)

theorem Kept.hit (kept : Kept checks) {now : Rat} (positive : 0 ≤ now) {channel : ChannelRow}
    (held : hit uid now checks.memberCache channel = true) :
    Passed checks.answers uid now (checks.epoch uid) channel := by
  unfold Membership.hit at held
  cases found : checks.memberCache.lookup (uid,channel.chatId) with
  | none =>
    rw [found] at held
    exact absurd (of_decide_eq_true held) (Rat.not_lt.mpr positive)
  | some expiry =>
    rw [found] at held
    obtain ⟨answer,member,same,about,present,epoch,bound⟩ := kept.cache uid _ expiry found
    have later : now < expiry := of_decide_eq_true held
    exact ⟨answer,member,⟨same,about⟩,.inl ⟨present,epoch,by linarith⟩⟩

theorem Kept.loop (kept : Kept checks) {check : Check} {rest : List ChannelRow}
    (positive : 0 ≤ check.now) (began : check.now ≤ checks.clock)
    (underway : Underway checks.answers uid (checks.epoch uid) check rest) :
    Kept (loop uid check rest checks) := by
  obtain ⟨done,split,missing,passed⟩ := underway
  have further : ∀ channel ∈
      done ++ rest.takeWhile (Membership.hit uid check.now checks.memberCache),
      channel ∈ check.missing ∨
        Passed checks.answers uid check.now (checks.epoch uid) channel := by
    intro channel member
    rcases List.mem_append.mp member with member | member
    · exact passed channel member
    · exact .inr (kept.hit positive (List.all_eq_true.mp List.all_takeWhile channel member))
  have same : check.channels =
      (done ++ rest.takeWhile (Membership.hit uid check.now checks.memberCache)) ++
        rest.dropWhile (Membership.hit uid check.now checks.memberCache) := by
    rw [split,List.append_assoc,List.takeWhile_append_dropWhile]
  unfold Membership.loop
  cases is : rest.dropWhile (Membership.hit uid check.now checks.memberCache) with
  | nil =>
    rw [is,List.append_nil] at same
    refine ⟨kept.clock,?_,?_,?_,?_,?_⟩
    · intro other chatId expiry found
      dsimp only at found
      split at found
      next => contradiction
      next => exact kept.cache other chatId expiry found
    · intro other new found
      exact kept.began other new (lookup_erase_some found).2
    · intro other new found
      exact kept.fresh other new (lookup_erase_some found).2
    · intro other new left found
      exact kept.running other new left (lookup_erase_some found).2
    · intro result member
      rcases List.mem_cons.mp member with rfl | member
      · refine ⟨?_,?_⟩
        · intro channel member
          dsimp only at member ⊢
          rw [same]
          exact ⟨List.mem_append_left _ (missing channel member).1,(missing channel member).2⟩
        · intro channel member
          dsimp only at member
          rw [same] at member
          exact further channel member
      · exact kept.results result member
  | cons channel left =>
    rw [is] at same
    refine ⟨kept.clock,kept.cache,?_,?_,?_,kept.results⟩
    · intro other new found
      rcases lookup_insert_some found with ⟨rfl,rfl⟩ | ⟨_,found⟩
      · exact ⟨positive,began⟩
      · exact kept.began other new found
    · intro other new found
      rcases lookup_insert_some found with ⟨rfl,rfl⟩ | ⟨_,found⟩
      · intro none
        contradiction
      · exact kept.fresh other new found
    · intro other new others found
      rcases lookup_insert_some found with ⟨rfl,rfl⟩ | ⟨_,found⟩
      · rintro ⟨⟩
        refine ⟨began,_,same,?_,further⟩
        intro channel member
        exact ⟨List.mem_append_left _ (missing channel member).1,(missing channel member).2⟩
      · exact kept.running other new others found

theorem Kept.tell (kept : Kept checks) (answer : Answer) :
    Kept {checks with answers := answer :: checks.answers} where
  clock := kept.clock
  cache other chatId expiry found := by
    obtain ⟨answer,member,rest⟩ := kept.cache other chatId expiry found
    exact ⟨answer,List.mem_cons_of_mem _ member,rest⟩
  began := kept.began
  fresh := kept.fresh
  running other check rest found left :=
    ⟨(kept.running other check rest found left).1,
      (kept.running other check rest found left).2.mono (List.subset_cons_self _ _)⟩
  results result member := (kept.results result member).mono (List.subset_cons_self _ _)

theorem Kept.remember (kept : Kept checks) {answer : Answer} {now : Rat}
    (member : answer ∈ checks.answers) (present : answer.reply = .present)
    (epoch : answer.epoch = checks.epoch answer.uid) (later : now ≤ answer.asked) :
    Kept {checks with
      memberCache := checks.memberCache.insert (answer.uid,answer.chatId) (now + 300)} := by
  refine ⟨kept.clock,?_,kept.began,kept.fresh,kept.running,kept.results⟩
  intro other chatId expiry found
  rcases lookup_insert_some found with ⟨same,rfl⟩ | ⟨_,found⟩
  · cases same
    exact ⟨answer,member,rfl,rfl,present,epoch,by linarith⟩
  · exact kept.cache other chatId expiry found

theorem Kept.replied (kept : Kept checks) {check : Check} {reply : Said}
    (found : checks.running.lookup uid = some check)
    (taken : replied uid reply check checks = some after) : Kept after := by
  obtain ⟨positive,began⟩ := kept.began uid check found
  unfold Membership.replied at taken
  split at taken
  next channel rest left =>
    cases taken
    obtain ⟨asked,underway⟩ := kept.running uid check _ found left
    have told := kept.tell ⟨uid,channel.chatId,check.asked,reply,checks.epoch uid⟩
    obtain ⟨done,split,missing,passed⟩ := underway.mono
      (List.subset_cons_self ⟨uid,channel.chatId,check.asked,reply,checks.epoch uid⟩ checks.answers)
    have split : check.channels = (done ++ [channel]) ++ rest := by
      rw [split,List.append_assoc,List.singleton_append]
    have earlier : ∀ other ∈ check.missing, other ∈ done ++ [channel] ∧
        Denied _ uid check.now other := fun other member =>
      ⟨List.mem_append_left _ (missing other member).1,(missing other member).2⟩
    cases reply with
    | present =>
      refine (told.remember List.mem_cons_self rfl rfl asked).loop positive began
        ⟨_,split,earlier,?_⟩
      intro other member
      rcases List.mem_append.mp member with member | member
      · exact passed other member
      · rw [List.mem_singleton.mp member]
        exact .inr ⟨_,List.mem_cons_self,⟨rfl,rfl⟩,.inl ⟨rfl,rfl,by dsimp only; linarith⟩⟩
    | absent =>
      refine told.loop positive began ⟨_,split,?_,?_⟩
      · intro other member
        rcases List.mem_append.mp member with member | member
        · exact earlier other member
        · rw [List.mem_singleton.mp member]
          exact ⟨List.mem_append_right _ (List.mem_singleton_self _),
            _,List.mem_cons_self,⟨rfl,rfl⟩,rfl,asked⟩
      · intro other member
        rcases List.mem_append.mp member with member | member
        · exact (passed other member).imp (List.mem_append_left _) id
        · rw [List.mem_singleton.mp member]
          exact .inl (List.mem_append_right _ (List.mem_singleton_self _))
    | error =>
      refine told.loop positive began ⟨_,split,earlier,?_⟩
      intro other member
      rcases List.mem_append.mp member with member | member
      · exact passed other member
      · rw [List.mem_singleton.mp member]
        exact .inr ⟨_,List.mem_cons_self,⟨rfl,rfl⟩,.inr ⟨rfl,asked⟩⟩
  next => contradiction

theorem Kept.begin (kept : Kept checks) :
    Kept {checks with
      running := checks.running.insert uid ⟨checks.clock,[],none,[],checks.clock⟩} := by
  refine ⟨kept.clock,kept.cache,?_,?_,?_,kept.results⟩
  · intro other check found
    rcases lookup_insert_some found with ⟨_,rfl⟩ | ⟨_,found⟩
    · exact ⟨kept.clock,Rat.le_refl⟩
    · exact kept.began other check found
  · intro other check found
    rcases lookup_insert_some found with ⟨_,rfl⟩ | ⟨_,found⟩
    · exact fun _ => rfl
    · exact kept.fresh other check found
  · intro other check rest found left
    rcases lookup_insert_some found with ⟨_,rfl⟩ | ⟨_,found⟩
    · contradiction
    · exact kept.running other check rest found left

theorem Kept.forget (kept : Kept checks) (idle : checks.running.lookup uid = none) :
    Kept {checks with
      memberCache := deleteWhere (fun key _ => key.1 == uid) checks.memberCache
      epoch := Function.update checks.epoch uid (checks.epoch uid + 1)} := by
  refine ⟨kept.clock,?_,kept.began,kept.fresh,?_,kept.results⟩
  · intro other chatId expiry found
    rw [lookup_deleteWhere] at found
    obtain ⟨found,differs⟩ := Option.filter_eq_some_iff.mp found
    have differs : other ≠ uid := by simpa using differs
    obtain ⟨answer,member,same,about,present,epoch,bound⟩ := kept.cache other chatId expiry found
    exact ⟨answer,member,same,about,present,
      epoch.trans (Function.update_of_ne differs _ _).symm,bound⟩
  · intro other check rest found left
    have differs : other ≠ uid := by
      rintro rfl
      rw [idle] at found
      contradiction
    have same := Function.update_of_ne differs (checks.epoch uid + 1) checks.epoch
    dsimp only
    rw [same]
    exact kept.running other check rest found left

theorem Kept.step {event : Event} (kept : Kept checks) (taken : step checks event = some after) :
    Kept after := by
  cases event with
  | wait seconds =>
    obtain ⟨forward,⟨⟩⟩ := Option.ite_none_right_eq_some.mp taken
    refine ⟨Rat.add_nonneg kept.clock forward,kept.cache,?_,kept.fresh,kept.running,kept.results⟩
    intro other check found
    have bounds := kept.began other check found
    exact ⟨bounds.1,by dsimp only; linarith⟩
  | setChannels channels =>
    cases taken
    exact ⟨kept.clock,kept.cache,kept.began,kept.fresh,kept.running,kept.results⟩
  | begin uid =>
    obtain ⟨_,⟨⟩⟩ := Option.ite_none_left_eq_some.mp taken
    exact kept.begin
  | listed uid =>
    obtain ⟨check,found,taken⟩ := Option.bind_eq_some_iff.mp taken
    obtain ⟨first,⟨⟩⟩ := Option.ite_none_left_eq_some.mp taken
    have bounds := kept.began uid check found
    have none := kept.fresh uid check found (by simpa using first)
    refine kept.loop bounds.1 bounds.2 ⟨[],rfl,?_,fun channel member => by contradiction⟩
    intro channel member
    rw [none] at member
    contradiction
  | answered uid membership =>
    obtain ⟨check,found,taken⟩ := Option.bind_eq_some_iff.mp taken
    exact kept.replied found taken
  | refused uid =>
    obtain ⟨check,found,taken⟩ := Option.bind_eq_some_iff.mp taken
    exact kept.replied found taken
  | abort uid =>
    cases taken
    exact ⟨kept.clock,kept.cache,fun other check found =>
      kept.began other check (lookup_erase_some found).2,fun other check found =>
      kept.fresh other check (lookup_erase_some found).2,fun other check rest found =>
      kept.running other check rest (lookup_erase_some found).2,kept.results⟩
  | forget uid =>
    obtain ⟨idle,⟨⟩⟩ := Option.ite_none_left_eq_some.mp taken
    exact kept.forget (by simpa using idle)

end

/-- In every run of the checks of all users: who is turned away was denied by Telegram in this very
call, and who passes has an answer that is not older than five minutes for every channel, given to
the same user since the last `forget_membership`, unless Telegram gave this call none. -/
theorem membership_founded {clock : Rat} (channels : List ChannelRow) (positive : 0 ≤ clock)
    (checks : Checks) (reached : Reach step always (opened clock channels) checks) :
    ∀ result ∈ checks.results, Founded checks.answers result := by
  have kept : Kept checks := reached.invariant Kept (Kept.opened channels positive)
    fun _ _ _ kept _ taken => kept.step taken
  exact kept.results

def news : ChannelRow := ⟨-1001,none,none,none⟩

def forum : ChannelRow := ⟨-1002,none,none,none⟩

/-- The second call of user 7 finds the answer of the first, and the third, after the answers were
forgotten, does not. -/
def visits : List Event :=
  [.begin 7,.begin 8,.listed 7,.answered 7 ⟨"member",false⟩,.listed 8,.refused 7,.wait 200,.begin 7,
    .listed 7,.answered 7 ⟨"left",false⟩,.forget 7,.begin 7,.listed 7,.answered 7 ⟨"kicked",false⟩,
    .abort 7]

theorem membership_founded_visits : ∃ checks,
    visits.foldlM (guarded step always) (opened 1000 [news,forum]) = some checks ∧
      checks.results.map Result.missing = [[forum],[]] ∧
      ∀ result ∈ checks.results, Founded checks.answers result := by
  have run : (visits.foldlM (guarded step always) (opened 1000 [news,forum])).map
      (fun checks => checks.results.map Result.missing) = some [[forum],[]] := by decide +kernel
  obtain ⟨checks,ran,missing⟩ := Option.map_eq_some_iff.mp run
  exact ⟨checks,ran,missing,
    membership_founded [news,forum] (by decide) checks (reach_of_run visits ran)⟩

end AtronixX.Membership
