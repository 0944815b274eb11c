import AtronixX.HostQuota
import AtronixX.OrderedProcessor

/-! The whole bot behind its `OrderedProcessor`: the coroutine of an update makes its calls while
`do_process_update` awaits it, tasks and housekeeping run beside. What the processor lets run is
a run of the threads in which the updates of a chat are serialised. -/
namespace AtronixX.Dispatch
open Library.Programs Library.Tables Library.Transition PublicTarget Handlers AdminHandlers
open OrderedProcessor (Processor Has keyOf)

/-- An update that arrives. Those from outside a private chat are stopped in the gate. -/
inductive Incoming
  | direct (uid : Int) (update : AdminHandlers.Update)
  | other (chat : Option Int)

def Incoming.chat : Incoming → Option Int
  | .direct uid _ => some uid
  | .other chat => chat

variable {κ : Type}

/-- The updates have their contents by the numbers that the processor gives them. -/
structure Bot (κ : Type) : Type 1 where
  processor : Processor
  contents : Table Nat Incoming
  threads : Threads Effect Actor (World κ)

def idle (world : World κ) : Bot κ := ⟨Processor.new,∅,⟨world,[]⟩⟩

inductive Event
  | arrive (incoming : Incoming)
  | resume (id : Nat)
  | cancel (id : Nat)
  | unwind (id : Nat)
  | retry (id : Nat)
  | finish (id : Nat)
  | create (who : Actor) (request : Request)
  | advance (index : Nat) (reply : Reply)
  | abandon (index : Nat)

def isUpdate : Actor → Bool
  | .update _ => true
  | _ => false

variable (config : Config)

def opened (incoming : Incoming) (threads : Threads Effect Actor (World κ)) :
    Threads Effect Actor (World κ) :=
  match incoming with
  | .direct uid update => {threads with
      running := (.update uid,body config (.update uid) (.gated update)) :: threads.running}
  | .other _ => threads

def closed (incoming : Incoming) (threads : Threads Effect Actor (World κ)) :
    Threads Effect Actor (World κ) :=
  match incoming with
  | .direct uid _ => {threads with
      running := threads.running.filter fun thread => thread.1 != .update uid}
  | .other _ => threads

def ungated (incoming : Incoming) (threads : Threads Effect Actor (World κ)) :
    Threads Effect Actor (World κ) :=
  match incoming with
  | .direct uid update => {threads with
      running := (.update uid,body config (.update uid) (.ungated update)) ::
        threads.running.filter fun thread => thread.1 != .update uid}
  | .other _ => threads

variable (perform : ∀ β, Actor → Effect β → Reply → World κ → Option (β × World κ))

def moved (move : Move Actor Request Reply (World κ)) (bot : Bot κ) : Option (Bot κ) :=
  (Library.Programs.step perform (body config) bot.threads move).map fun threads =>
    {bot with threads := threads}

def step (bot : Bot κ) : Event → Option (Bot κ)
  | .arrive incoming =>
    let id := bot.processor.nextUpdate
    let processor := OrderedProcessor.arrive incoming.chat bot.processor
    let runs := (processor.updates.lookup id).any OrderedProcessor.Update.running
    some ⟨processor,bot.contents.insert id incoming,
      if runs then opened config incoming bot.threads else bot.threads⟩
  | .resume id => (bot.contents.lookup id).bind fun incoming =>
    (OrderedProcessor.step bot.processor (.resume id)).map fun processor =>
      ⟨processor,bot.contents,opened config incoming bot.threads⟩
  | .cancel id => (OrderedProcessor.step bot.processor (.cancel id)).map fun processor =>
    {bot with processor := processor}
  | .unwind id => (OrderedProcessor.step bot.processor (.unwind id)).map fun processor =>
    {bot with processor := processor}
  | .retry id => (bot.contents.lookup id).bind fun incoming =>
    if (bot.processor.updates.lookup id).any OrderedProcessor.Update.running then
      some {bot with threads := ungated config incoming bot.threads}
    else none
  | .finish id => (bot.contents.lookup id).bind fun incoming =>
    (OrderedProcessor.step bot.processor (.finish id)).map fun processor =>
      ⟨processor,bot.contents,closed incoming bot.threads⟩
  | .create who request => if isUpdate who then none
    else moved config perform (.begin who request) bot
  | .advance index reply => moved config perform (.advance index reply) bot
  | .abandon index => bot.threads.running[index]?.bind fun thread =>
    if isUpdate thread.1 then none
    else moved config perform (.abandon index) bot

section
variable {processor after : Processor} {id : Nat}

theorem updates_arrive (kept : OrderedProcessor.Kept processor) (chat : Option Int) :
    ∃ update, update.key = keyOf chat ∧
      (OrderedProcessor.arrive chat processor).updates =
        processor.updates.insert processor.nextUpdate update ∧
      (OrderedProcessor.arrive chat processor).nextUpdate = processor.nextUpdate + 1 := by
  have arrived := (kept.registered (keyOf chat)).arrive chat rfl rfl
  exact ⟨_,rfl,arrived.updates,arrived.nextUpdate⟩

theorem updates_resume (resumed : OrderedProcessor.step processor (.resume id) = some after) :
    ∃ update, processor.updates.lookup id = some update ∧ update.running = false ∧
      after.updates = processor.updates.insert id {update with running := true} ∧
      after.nextUpdate = processor.nextUpdate := by
  obtain ⟨update,found,resumed⟩ := Option.bind_eq_some_iff.mp resumed
  split at resumed
  next => contradiction
  next waits =>
    obtain ⟨lock,_,rfl⟩ := Option.map_eq_some_iff.mp resumed
    exact ⟨update,found,by simpa using waits,rfl,rfl⟩

theorem updates_cancel (cancelled : OrderedProcessor.step processor (.cancel id) = some after) :
    after.updates = processor.updates ∧ after.nextUpdate = processor.nextUpdate := by
  obtain ⟨update,_,rfl⟩ := Option.map_eq_some_iff.mp cancelled
  split <;> exact ⟨rfl,rfl⟩

theorem updates_unwind (unwound : OrderedProcessor.step processor (.unwind id) = some after) :
    ∃ update, processor.updates.lookup id = some update ∧ update.running = false ∧
      after.updates = processor.updates.erase id ∧ after.nextUpdate = processor.nextUpdate := by
  obtain ⟨update,found,unwound⟩ := Option.bind_eq_some_iff.mp unwound
  split at unwound
  next => contradiction
  next waits =>
    obtain ⟨lock,_,rfl⟩ := Option.map_eq_some_iff.mp unwound
    have frame := OrderedProcessor.leave_frame id update.key
      (OrderedProcessor.setObject update.lock lock processor)
    exact ⟨update,found,by simpa using waits,frame.1,frame.2.2.2.1⟩

theorem updates_finish (finished : OrderedProcessor.step processor (.finish id) = some after) :
    ∃ update, processor.updates.lookup id = some update ∧ update.running = true ∧
      after.updates = processor.updates.erase id ∧ after.nextUpdate = processor.nextUpdate := by
  obtain ⟨update,found,finished⟩ := Option.bind_eq_some_iff.mp finished
  split at finished
  next runs =>
    cases Option.some.inj finished
    have frame := OrderedProcessor.leave_frame id update.key (OrderedProcessor.setObject update.lock
      (OrderedProcessor.object update.lock processor).release processor)
    exact ⟨update,found,runs,frame.1,frame.2.2.2.1⟩
  next => contradiction

end

/-- Who is the coroutine of an update. -/
structure Kept (bot : Bot κ) : Prop where
  processor : OrderedProcessor.Kept bot.processor
  keyed : ∀ id incoming update, bot.contents.lookup id = some incoming →
    bot.processor.updates.lookup id = some update → update.key = keyOf incoming.chat
  numbered : ∀ id incoming, bot.contents.lookup id = some incoming → id < bot.processor.nextUpdate
  held : ∀ thread ∈ bot.threads.running, ∀ uid, thread.1 = .update uid →
    ∃ id update, bot.contents.lookup id = some (.direct uid update) ∧
      Has bot.processor.updates uid true id
  unique : bot.threads.running.Pairwise fun one two => isUpdate one.1 = true → one.1 ≠ two.1

/-- The threads have made a run in which the updates of a chat are serialised. -/
def Runs (first : World κ) (bot : Bot κ) : Prop :=
  Reach (Library.Programs.step perform (body config)) HostQuota.Serialised ⟨first,[]⟩ bot.threads

section
variable {config : Config}
variable {perform : ∀ β, Actor → Effect β → Reply → World κ → Option (β × World κ)}
variable {first : World κ} {bot after : Bot κ} {processor : Processor} {id : Nat} {uid : Int}

theorem Kept.free (kept : Kept bot) (still : OrderedProcessor.Kept processor)
    (waits : ¬Has bot.processor.updates uid true id) (began : Has processor.updates uid true id)
    (others : ∀ other, other ≠ id → Has bot.processor.updates uid true other →
      Has processor.updates uid true other) :
    ∀ thread ∈ bot.threads.running, thread.1 ≠ .update uid := by
  intro thread member is
  obtain ⟨other,_,_,runs⟩ := kept.held thread member uid is
  have differs : other ≠ id := by
    rintro rfl
    exact waits runs
  obtain ⟨update,found,key,running⟩ := others other differs runs
  obtain ⟨update',found',key',running'⟩ := began
  exact differs (still.serialised.alone other id update update' found found' running running'
    (key.trans key'.symm))

theorem filter_unique {who : Actor} (update : isUpdate who = true)
    (running : List (Actor × Handler Unit))
    (unique : running.Pairwise fun one two => isUpdate one.1 = true → one.1 ≠ two.1) :
    (running.filter fun thread => thread.1 != who) = running ∨
      ∃ index, (running.filter fun thread => thread.1 != who) = running.eraseIdx index := by
  induction running with
  | nil => exact .inl rfl
  | cons thread rest ih =>
    obtain ⟨apart,unique⟩ := List.pairwise_cons.mp unique
    by_cases is : thread.1 = who
    · refine .inr ⟨0,?_⟩
      rw [List.filter_cons_of_neg (by simp [is]),List.eraseIdx_zero,List.tail_cons,
        List.filter_eq_self]
      intro other member
      have differs := apart other member (is ▸ update)
      rw [bne_iff_ne,← is]
      exact differs.symm
    · rw [List.filter_cons_of_pos (by simpa using is)]
      rcases ih unique with same | ⟨index,same⟩
      · exact .inl (congrArg _ same)
      · exact .inr ⟨index + 1,congrArg _ same⟩

theorem Runs.filter (runs : Runs config perform first bot) (kept : Kept bot) {who : Actor}
    (update : isUpdate who = true) :
    Reach (Library.Programs.step perform (body config)) HostQuota.Serialised ⟨first,[]⟩
      {bot.threads with running := bot.threads.running.filter fun thread => thread.1 != who} := by
  rcases filter_unique update _ kept.unique with same | ⟨index,same⟩
  · rw [same]
    exact runs
  · rw [same]
    refine .next bot.threads (.abandon index) _ runs ?_ rfl
    trivial

theorem mem_filter_other {who : Actor} {running : List (Actor × Handler Unit)} :
    ∀ thread ∈ running.filter (fun thread => thread.1 != who), thread.1 ≠ who := by
  intro thread member
  simpa using (List.mem_filter.mp member).2

structure Served (config : Config)
    (perform : ∀ β, Actor → Effect β → Reply → World κ → Option (β × World κ)) (first : World κ)
    (bot : Bot κ) : Prop where
  kept : Kept bot
  runs : Runs config perform first bot

theorem Served.idle (first : World κ) : Served config perform first (idle first) where
  kept := by
    refine ⟨.new,?_,?_,?_,.nil⟩
    · intro id incoming update found
      contradiction
    · intro id incoming found
      contradiction
    · intro thread member
      contradiction
  runs := .start

theorem Served.rest (served : Served config perform first bot)
    (still : OrderedProcessor.Kept processor) {contents : Table Nat Incoming}
    (keyed : ∀ id incoming update, contents.lookup id = some incoming →
      processor.updates.lookup id = some update → update.key = keyOf incoming.chat)
    (numbered : ∀ id incoming, contents.lookup id = some incoming → id < processor.nextUpdate)
    (same : ∀ id, id < bot.processor.nextUpdate → contents.lookup id = bot.contents.lookup id)
    (others : ∀ uid other, Has bot.processor.updates uid true other →
      Has processor.updates uid true other) :
    Served config perform first ⟨processor,contents,bot.threads⟩ where
  kept := by
    refine ⟨still,keyed,numbered,?_,served.kept.unique⟩
    intro thread member uid is
    obtain ⟨other,update,content,runs⟩ := served.kept.held thread member uid is
    have known := served.kept.numbered other _ content
    exact ⟨other,update,(same other known).trans content,others uid other runs⟩
  runs := served.runs

theorem Served.opens (served : Served config perform first bot) {incoming : Incoming}
    (content : bot.contents.lookup id = some incoming)
    (began : Has bot.processor.updates (keyOf incoming.chat) true id)
    (free : ∀ thread ∈ bot.threads.running, thread.1 ≠ .update (keyOf incoming.chat)) :
    Served config perform first {bot with threads := opened config incoming bot.threads} := by
  cases incoming with
  | other chat => exact served
  | direct uid update =>
    have kept := served.kept
    refine ⟨⟨kept.processor,kept.keyed,kept.numbered,?_,?_⟩,?_⟩
    · intro thread member other is
      rcases List.mem_cons.mp member with rfl | member
      · cases is
        exact ⟨id,update,content,began⟩
      · exact kept.held thread member other is
    · refine List.pairwise_cons.mpr ⟨?_,kept.unique⟩
      intro thread member _ same
      exact free thread member same.symm
    · refine .next bot.threads (.begin (.update uid) (.gated update)) _ served.runs ?_ rfl
      exact free

theorem Served.moves (served : Served config perform first bot)
    (move : Move Actor Request Reply (World κ)) {threads : Threads Effect Actor (World κ)}
    (serial : HostQuota.Serialised bot.threads move)
    (went : Library.Programs.step perform (body config) bot.threads move = some threads)
    (held : ∀ thread ∈ threads.running, isUpdate thread.1 = true →
      ∃ old ∈ bot.threads.running, old.1 = thread.1)
    (unique : threads.running.Pairwise fun one two => isUpdate one.1 = true → one.1 ≠ two.1) :
    Served config perform first {bot with threads := threads} where
  kept := by
    refine ⟨served.kept.processor,served.kept.keyed,served.kept.numbered,?_,unique⟩
    intro thread member uid is
    obtain ⟨old,there,same⟩ := held thread member (by rw [is]; rfl)
    exact served.kept.held old there uid (same.trans is)
  runs := .next bot.threads move threads served.runs serial went

theorem Served.arrive (served : Served config perform first bot) (incoming : Incoming)
    (taken : step config perform bot (.arrive incoming) = some after) :
    Served config perform first after := by
  cases Option.some.inj taken
  have kept := served.kept
  have still := kept.processor.arrive incoming.chat
  obtain ⟨update,key,updates,next⟩ := updates_arrive kept.processor incoming.chat
  have waits (uid : Int) : ¬Has bot.processor.updates uid true bot.processor.nextUpdate := by
    rintro ⟨update,found,_⟩
    rw [kept.processor.absent] at found
    contradiction
  have others (uid : Int) (other : Nat) (runs : Has bot.processor.updates uid true other) :
      Has (OrderedProcessor.arrive incoming.chat bot.processor).updates uid true other := by
    rw [updates,OrderedProcessor.has_insert]
    refine .inr ⟨?_,runs⟩
    rintro rfl
    exact waits uid runs
  have middle : Served config perform first
      ⟨OrderedProcessor.arrive incoming.chat bot.processor,
        bot.contents.insert bot.processor.nextUpdate incoming,bot.threads⟩ := by
    refine served.rest still ?_ ?_ ?_ others
    · intro id other row content found
      rw [updates] at found
      rcases lookup_insert_some content with ⟨rfl,rfl⟩ | ⟨differs,content⟩
      · rw [AList.lookup_insert] at found
        exact Option.some.inj found ▸ key
      · rw [AList.lookup_insert_ne differs] at found
        exact kept.keyed id other row content found
    · intro id other content
      rw [next]
      rcases lookup_insert_some content with ⟨rfl,_⟩ | ⟨_,content⟩
      · exact Nat.lt_succ_self _
      · exact Nat.lt_succ_of_lt (kept.numbered id other content)
    · intro id known
      exact AList.lookup_insert_ne (Nat.ne_of_lt known)
  split
  next runs =>
    have began : Has (OrderedProcessor.arrive incoming.chat bot.processor).updates
        (keyOf incoming.chat) true bot.processor.nextUpdate := by
      rw [updates,AList.lookup_insert] at runs
      rw [updates,OrderedProcessor.has_insert]
      exact .inl ⟨rfl,key,by simpa using runs⟩
    exact middle.opens (AList.lookup_insert _) began
      (kept.free still (waits _) began fun other _ => others _ other)
  next => exact middle

theorem Served.resume (served : Served config perform first bot)
    (taken : step config perform bot (.resume id) = some after) :
    Served config perform first after := by
  obtain ⟨incoming,content,taken⟩ := Option.bind_eq_some_iff.mp taken
  obtain ⟨processor,resumed,rfl⟩ := Option.map_eq_some_iff.mp taken
  have kept := served.kept
  have still := kept.processor.step resumed
  obtain ⟨update,found,waiting,updates,next⟩ := updates_resume resumed
  have waits (uid : Int) : ¬Has bot.processor.updates uid true id := by
    intro runs
    have is := (OrderedProcessor.has_only found runs).2
    rw [waiting] at is
    contradiction
  have others (uid : Int) (other : Nat) (runs : Has bot.processor.updates uid true other) :
      Has processor.updates uid true other := by
    rw [updates,OrderedProcessor.has_insert]
    refine .inr ⟨?_,runs⟩
    rintro rfl
    exact waits uid runs
  have began : Has processor.updates (keyOf incoming.chat) true id := by
    rw [updates,OrderedProcessor.has_insert]
    exact .inl ⟨rfl,kept.keyed id incoming update content found,rfl⟩
  have middle : Served config perform first ⟨processor,bot.contents,bot.threads⟩ := by
    refine served.rest still ?_ ?_ (fun _ _ => rfl) others
    · intro other known row its there
      rw [updates] at there
      rcases lookup_insert_some there with ⟨rfl,rfl⟩ | ⟨_,there⟩
      · exact kept.keyed _ known update its found
      · exact kept.keyed other known row its there
    · rw [next]
      exact kept.numbered
  exact middle.opens content began (kept.free still (waits _) began fun other _ => others _ other)

theorem Served.cancel (served : Served config perform first bot)
    (taken : step config perform bot (.cancel id) = some after) :
    Served config perform first after := by
  obtain ⟨processor,cancelled,rfl⟩ := Option.map_eq_some_iff.mp taken
  have kept := served.kept
  obtain ⟨updates,next⟩ := updates_cancel cancelled
  refine served.rest (kept.processor.step cancelled) ?_ ?_ (fun _ _ => rfl) ?_
  · rw [updates]
    exact kept.keyed
  · rw [next]
    exact kept.numbered
  · intro uid other runs
    rw [updates]
    exact runs

theorem Served.unwind (served : Served config perform first bot)
    (taken : step config perform bot (.unwind id) = some after) :
    Served config perform first after := by
  obtain ⟨processor,unwound,rfl⟩ := Option.map_eq_some_iff.mp taken
  have kept := served.kept
  obtain ⟨update,found,waiting,updates,next⟩ := updates_unwind unwound
  refine served.rest (kept.processor.step unwound) ?_ ?_ (fun _ _ => rfl) ?_
  · intro other incoming row content there
    rw [updates] at there
    exact kept.keyed other incoming row content (lookup_erase_some there).2
  · rw [next]
    exact kept.numbered
  · intro uid other runs
    rw [updates,OrderedProcessor.has_erase]
    refine ⟨?_,runs⟩
    rintro rfl
    have is := (OrderedProcessor.has_only found runs).2
    rw [waiting] at is
    contradiction

theorem unique_filter {running : List (Actor × Handler Unit)}
    (unique : running.Pairwise fun one two => isUpdate one.1 = true → one.1 ≠ two.1) (who : Actor) :
    (running.filter fun thread => thread.1 != who).Pairwise
      fun one two => isUpdate one.1 = true → one.1 ≠ two.1 :=
  unique.sublist List.filter_sublist

theorem Served.finish (served : Served config perform first bot)
    (taken : step config perform bot (.finish id) = some after) :
    Served config perform first after := by
  obtain ⟨incoming,content,taken⟩ := Option.bind_eq_some_iff.mp taken
  obtain ⟨processor,finished,rfl⟩ := Option.map_eq_some_iff.mp taken
  have kept := served.kept
  have still := kept.processor.step finished
  obtain ⟨update,found,running,updates,next⟩ := updates_finish finished
  have keyed : ∀ other known row, bot.contents.lookup other = some known →
      processor.updates.lookup other = some row → row.key = keyOf known.chat := by
    intro other known row content there
    rw [updates] at there
    exact kept.keyed other known row content (lookup_erase_some there).2
  have numbered : ∀ other known, bot.contents.lookup other = some known →
      other < processor.nextUpdate := by
    rw [next]
    exact kept.numbered
  -- Who holds a thread that stays has another update.
  have held : ∀ thread ∈ (closed incoming bot.threads).running, ∀ uid, thread.1 = .update uid →
      ∃ other update, bot.contents.lookup other = some (.direct uid update) ∧
        Has processor.updates uid true other := by
    intro thread member uid is
    have there : thread ∈ bot.threads.running := by
      cases incoming with
      | other chat => exact member
      | direct owner update => exact List.mem_of_mem_filter member
    obtain ⟨other,known,its,runs⟩ := kept.held thread there uid is
    refine ⟨other,known,its,?_⟩
    rw [updates,OrderedProcessor.has_erase]
    refine ⟨?_,runs⟩
    rintro rfl
    cases Option.some.inj (content.symm.trans its)
    exact mem_filter_other thread member is
  cases incoming with
  | other chat => exact ⟨⟨still,keyed,numbered,held,kept.unique⟩,served.runs⟩
  | direct uid update =>
    exact ⟨⟨still,keyed,numbered,held,unique_filter kept.unique _⟩,served.runs.filter kept rfl⟩

theorem Served.retry (served : Served config perform first bot)
    (taken : step config perform bot (.retry id) = some after) :
    Served config perform first after := by
  obtain ⟨incoming,content,taken⟩ := Option.bind_eq_some_iff.mp taken
  obtain ⟨runs,⟨⟩⟩ := Option.ite_none_right_eq_some.mp taken
  have kept := served.kept
  cases incoming with
  | other chat => exact served
  | direct uid update =>
    have began : Has bot.processor.updates uid true id := by
      obtain ⟨row,found,running⟩ := (Option.any_eq_true _ _).mp runs
      exact ⟨row,found,kept.keyed id _ row content found,running⟩
    refine ⟨⟨kept.processor,kept.keyed,kept.numbered,?_,?_⟩,?_⟩
    · intro thread member other is
      rcases List.mem_cons.mp member with rfl | member
      · cases is
        exact ⟨id,update,content,began⟩
      · exact kept.held thread (List.mem_of_mem_filter member) other is
    · refine List.pairwise_cons.mpr ⟨?_,unique_filter kept.unique _⟩
      intro thread member _ same
      exact mem_filter_other thread member same.symm
    · refine .next _ (.begin (.update uid) (.ungated update)) _ (served.runs.filter kept rfl) ?_ rfl
      exact mem_filter_other

theorem Served.create (served : Served config perform first bot) {who : Actor} {request : Request}
    (taken : step config perform bot (.create who request) = some after) :
    Served config perform first after := by
  obtain ⟨beside,taken⟩ := Option.ite_none_left_eq_some.mp taken
  obtain ⟨threads,⟨⟩,rfl⟩ := Option.map_eq_some_iff.mp taken
  refine served.moves (.begin who request) ?_ rfl ?_ ?_
  · cases who with
    | update uid => exact absurd rfl beside
    | task uid => trivial
    | housekeeping => trivial
  · intro thread member update
    rcases List.mem_cons.mp member with rfl | member
    · exact absurd update beside
    · exact ⟨thread,member,rfl⟩
  · exact List.pairwise_cons.mpr ⟨fun _ _ update => absurd update beside,served.kept.unique⟩

theorem Served.shrinks (served : Served config perform first bot)
    (move : Move Actor Request Reply (World κ)) {threads : Threads Effect Actor (World κ)}
    (serial : HostQuota.Serialised bot.threads move)
    (went : Library.Programs.step perform (body config) bot.threads move = some threads)
    (left : (threads.running.map Prod.fst).Sublist (bot.threads.running.map Prod.fst)) :
    Served config perform first {bot with threads := threads} := by
  refine served.moves move serial went ?_ ?_
  · intro thread member _
    obtain ⟨old,there,same⟩ := List.mem_map.mp (left.mem (List.mem_map_of_mem member))
    exact ⟨old,there,same⟩
  · have unique := served.kept.unique
    rw [← List.pairwise_map (f := Prod.fst)
      (R := fun one two => isUpdate one = true → one ≠ two)] at unique ⊢
    exact unique.sublist left

theorem Served.advance (served : Served config perform first bot) {index : Nat} {reply : Reply}
    (taken : step config perform bot (.advance index reply) = some after) :
    Served config perform first after := by
  obtain ⟨threads,went,rfl⟩ := Option.map_eq_some_iff.mp taken
  refine served.shrinks (.advance index reply) trivial went ?_
  obtain ⟨⟨who,program⟩,here,went⟩ := Option.bind_eq_some_iff.mp went
  cases program with
  | done value =>
    cases went
    exact (List.eraseIdx_sublist _ _).map _
  | call effect next =>
    obtain ⟨⟨answer,shared⟩,_,rfl⟩ := Option.map_eq_some_iff.mp went
    obtain ⟨bound,there⟩ := List.getElem?_eq_some_iff.mp here
    have same : (bot.threads.running.map Prod.fst).set index who =
        bot.threads.running.map Prod.fst := by
      have mapped : index < (bot.threads.running.map Prod.fst).length := by simpa using bound
      have its : (bot.threads.running.map Prod.fst)[index] = who := by simp [there]
      rw [← its,List.set_getElem_self mapped]
    rw [List.map_set,same]

theorem Served.abandon (served : Served config perform first bot) {index : Nat}
    (taken : step config perform bot (.abandon index) = some after) :
    Served config perform first after := by
  obtain ⟨thread,here,taken⟩ := Option.bind_eq_some_iff.mp taken
  obtain ⟨beside,taken⟩ := Option.ite_none_left_eq_some.mp taken
  obtain ⟨threads,⟨⟩,rfl⟩ := Option.map_eq_some_iff.mp taken
  refine served.shrinks (.abandon index) trivial rfl ?_
  exact (List.eraseIdx_sublist _ _).map _

theorem Served.step {event : Event} (served : Served config perform first bot)
    (taken : step config perform bot event = some after) :
    Served config perform first after := by
  cases event with
  | arrive incoming => exact served.arrive incoming taken
  | resume id => exact served.resume taken
  | cancel id => exact served.cancel taken
  | unwind id => exact served.unwind taken
  | retry id => exact served.retry taken
  | finish id => exact served.finish taken
  | create who request => exact served.create taken
  | advance index reply => exact served.advance taken
  | abandon index => exact served.abandon taken

end

/-- Whatever arrives, and in whatever order coroutines go on, end, fail or are cut off: the threads
of the bot make a run in which the updates of a chat are serialised, and every thread of an update
belongs to the update whose turn it is in its chat. -/
theorem bot_serialised {κ : Type} (aead : Library.Sealed.Aead κ) (hkdf : Library.Sealed.Bytes → κ)
    (config : Config) (world : World κ) (bot : Bot κ)
    (reached : Reach (step config (performAs config aead hkdf)) always (idle world) bot) :
    Reach (Library.Programs.step (performAs config aead hkdf) (body config)) HostQuota.Serialised
        ⟨world,[]⟩ bot.threads ∧
      OrderedProcessor.Serialised bot.processor ∧
      ∀ thread ∈ bot.threads.running, ∀ uid, thread.1 = .update uid → ∃ id update,
        bot.contents.lookup id = some (.direct uid update) ∧
          Has bot.processor.updates uid true id := by
  have served : Served config (performAs config aead hkdf) world bot :=
    reached.invariant (Served config (performAs config aead hkdf) world) (.idle world)
      fun _ _ _ served _ taken => served.step taken
  exact ⟨served.runs,served.kept.processor.serialised,served.kept.held⟩

def help : AdminHandlers.Update := ⟨none,"",.help⟩

def empty : World Library.Sealed.Bytes := ⟨Database.empty,⟨some [],some []⟩,∅,∅,[]⟩

/-- Two updates of a chat and one of another; the gate of the first is cut off and its handlers run
all the same, before the second has its turn. -/
def crowd : List Event :=
  [.arrive (.direct 7 help),.arrive (.direct 7 help),.arrive (.direct 8 help),
    .advance 1 AdminPowers.plainReply,.retry 0,.advance 0 AdminPowers.plainReply,.finish 0,
    .resume 1]

theorem bot_serialised_crowd : ∃ bot, crowd.foldlM (guarded (step AdminPowers.plainConfig
      (performAs AdminPowers.plainConfig (Library.Sealed.transparent id) id)) always) (idle empty) =
        some bot ∧ bot.threads.running.map Prod.fst = [.update 7,.update 8] ∧
    OrderedProcessor.startedOf 7 bot.processor = [1,0] ∧
    Reach (Library.Programs.step
      (performAs AdminPowers.plainConfig (Library.Sealed.transparent id) id)
      (body AdminPowers.plainConfig)) HostQuota.Serialised ⟨empty,[]⟩ bot.threads := by
  obtain ⟨bot,run,threads,started⟩ : ∃ bot, crowd.foldlM (guarded (step AdminPowers.plainConfig
      (performAs AdminPowers.plainConfig (Library.Sealed.transparent id) id)) always) (idle empty) =
        some bot ∧ bot.threads.running.map Prod.fst = [.update 7,.update 8] ∧
      OrderedProcessor.startedOf 7 bot.processor = [1,0] := ⟨_,rfl,rfl,rfl⟩
  exact ⟨bot,run,threads,started,(bot_serialised (Library.Sealed.transparent id) id
    AdminPowers.plainConfig empty bot (reach_of_run crowd run)).1⟩

end AtronixX.Dispatch
