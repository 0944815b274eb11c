import AtronixX.Handlers

/-! What the checks of the host fields answer, whatever the text. `resolve_public` lets an
error of the name encoding through, and the port is converted although `isdigit` knows more
digits than `int`. -/
namespace AtronixX.FieldChecks
open Library.Address Library.Numerals Library.Text Connection PublicTarget Wizard

/-- A label of the name is empty or too long for the name encoding. -/
def Unencodable (target : Text) : Prop :=
  ∃ label ∈ target.splitOn '.', label = [] ∨ 63 < label.length

instance (target : Text) : Decidable (Unencodable target) :=
  inferInstanceAs (Decidable (∃ label ∈ _, _))

/-- What is assumed of `getaddrinfo`: addresses, an `OSError`, or a `UnicodeError` for
exactly the names that cannot be encoded. -/
structure Lookup (getaddrinfo : Resolver) : Prop where
  addresses : ∀ target infos, getaddrinfo target = .ok infos →
    ∀ info ∈ infos, (readAnswer info).isSome = true
  unicodeError : ∀ target, getaddrinfo target = .error .other ↔ Unencodable target

/-- The answers of `_run_action` that are its own for a target that it cannot connect to. -/
def OwnMessage (shown : Shown) : Prop :=
  shown = .blocked ∨ ∃ message, shown = .connectFailed message

/-- `resolve_public` returns or raises what its callers catch. -/
structure Contract (setup : Setup) (getaddrinfo : Resolver) (target : Text) : Prop where
  resolves : ∀ fault, resolvePublic setup.registry setup.blocked getaddrinfo target = .error fault →
    (∃ message, fault = .targetBlocked message) ∨ ∃ message, fault = .connectError message
  validates : ∃ message, validateField setup getaddrinfo .ip target = .ok message
  connects : ∀ {κ : Type} (network : Network κ) (host : Connection.Host) (fault : ConnectFault),
    host.ip.toList = target →
    network.resolvePublic = resolver setup.registry setup.blocked getaddrinfo →
    network.resolvePublic host.ip = .error fault → OwnMessage (runAction network host).result

section Target
variable {registry : Registry} {blocked : List Text} {getaddrinfo : Resolver}

private theorem checkIp_fault {ip : IPAddress} {fault : ConnectFault}
    (failed : checkIp registry blocked ip = .error fault) : fault ≠ .other := by
  unfold checkIp at failed
  dsimp only at failed
  split at failed
  next =>
    cases failed
    simp
  next => contradiction

private theorem checkAnswer_fault {info : Text} {fault : ConnectFault}
    (read : (readAnswer info).isSome = true)
    (failed : checkAnswer registry blocked info = .error fault) : fault ≠ .other := by
  obtain ⟨ip,parsed⟩ := Option.isSome_iff_exists.mp read
  simp only [checkAnswer,parsed] at failed
  exact checkIp_fault failed

private theorem mapM_error {α β ε : Type} {check : α → Except ε β} {items : List α} {fault : ε}
    (failed : items.mapM check = .error fault) : ∃ item ∈ items, check item = .error fault := by
  induction items with
  | nil => contradiction
  | cons item items ih =>
    rw [List.mapM_cons] at failed
    cases first : check item with
    | error raised =>
      rw [first] at failed
      cases failed
      exact ⟨item,List.mem_cons_self,first⟩
    | ok value =>
      cases rest : items.mapM check with
      | error raised =>
        rw [first,rest] at failed
        cases failed
        obtain ⟨later,member,raises⟩ := ih rest
        exact ⟨later,List.mem_cons_of_mem _ member,raises⟩
      | ok values =>
        rw [first,rest] at failed
        contradiction

/-- The guard raises something else only for a name that cannot be encoded. -/
theorem resolvePublic_other (lookup : Lookup getaddrinfo) {target : Text} :
    resolvePublic registry blocked getaddrinfo target = .error .other ↔
      ipAddress (strip target) = none ∧ Unencodable target := by
  unfold resolvePublic
  cases literal : ipAddress (strip target) with
  | some ip =>
    have checks := @checkIp_fault registry blocked ip
    cases checked : checkIp registry blocked ip with
    | error fault => simpa [checked,Except.map] using checks checked
    | ok found => simp [checked,Except.map]
  | none =>
    cases answers : getaddrinfo target with
    | error dns =>
      have encoding := lookup.unicodeError target
      rw [answers] at encoding
      cases dns with
      | osError message => simpa using encoding
      | other => simpa using encoding
    | ok infos =>
      have encodable : ¬Unencodable target := by
        intro bad
        rw [(lookup.unicodeError target).mpr bad] at answers
        contradiction
      simp only [true_and,encodable,iff_false]
      intro failed
      cases checked : infos.mapM (checkAnswer registry blocked) with
      | error fault =>
        obtain ⟨info,member,raises⟩ := mapM_error checked
        have caught := checkAnswer_fault (lookup.addresses target infos answers info member) raises
        rw [checked] at failed
        cases failed
        exact caught rfl
      | ok addrs =>
        simp only [checked,bind,Except.bind] at failed
        split at failed <;> contradiction

end Target

theorem caught_of_ne {fault : ConnectFault} (known : fault ≠ .other) :
    (∃ message, fault = .targetBlocked message) ∨ ∃ message, fault = .connectError message := by
  cases fault with
  | connectError message => exact .inr ⟨message,rfl⟩
  | targetBlocked message => exact .inl ⟨message,rfl⟩
  | other => exact absurd rfl known

private theorem contract_of_known {setup : Setup} {getaddrinfo : Resolver} {target : Text}
    (known : resolvePublic setup.registry setup.blocked getaddrinfo target ≠ .error .other) :
    Contract setup getaddrinfo target := by
  have caught (fault : ConnectFault)
      (failed : resolvePublic setup.registry setup.blocked getaddrinfo target = .error fault) :=
    caught_of_ne fun same => known (same ▸ failed)
  refine ⟨caught,?_,?_⟩
  · simp only [validateField]
    split
    next => exact ⟨_,rfl⟩
    next =>
      split
      next => exact ⟨_,rfl⟩
      next => exact ⟨_,rfl⟩
      next => exact ⟨_,rfl⟩
      next failed => exact absurd failed known
  · intro κ network host fault same resolves failed
    have raised : resolvePublic setup.registry setup.blocked getaddrinfo target = .error fault := by
      rw [resolves,resolver,same] at failed
      cases result : resolvePublic setup.registry setup.blocked getaddrinfo target with
      | ok text =>
        rw [result] at failed
        contradiction
      | error raised =>
        rw [result] at failed
        cases failed
        rfl
    rcases caught fault raised with ⟨message,is⟩ | ⟨message,is⟩
    · subst is
      exact .inl (by simp [runAction,openTrusted,openConnection,failed])
    · subst is
      exact .inr ⟨cut 300 message,by simp [runAction,openTrusted,openConnection,failed]⟩

/-- The contract is kept unless the name cannot be encoded. -/
theorem resolve_public_contract (setup : Setup) (getaddrinfo : Resolver)
    (lookup : Lookup getaddrinfo) (target : Text) :
    Contract setup getaddrinfo target ↔
      (ipAddress (strip target)).isSome = true ∨ ¬Unencodable target := by
  have other := @resolvePublic_other setup.registry setup.blocked getaddrinfo lookup target
  constructor
  · intro contract
    by_contra bad
    obtain ⟨noLiteral,unencodable⟩ := not_or.mp bad
    have failed := other.mpr ⟨by simpa using noLiteral,not_not.mp unencodable⟩
    rcases contract.resolves .other failed with ⟨message,same⟩ | ⟨message,same⟩
    · contradiction
    · contradiction
  · intro good
    apply contract_of_known
    intro failed
    obtain ⟨noLiteral,unencodable⟩ := other.mp failed
    rcases good with literal | encodable
    · simp [noLiteral] at literal
    · exact encodable unencodable

/-- No character beyond ASCII but the superscript two, which is a digit for `isdigit` only. -/
def superscript : Unicode := ⟨fun _ => none,fun char => char == '²',fun _ => false⟩

def sampleSetup : Setup := ⟨superscript,python312,[],fun _ => (false,false)⟩

/-- A name server that knows no names. -/
def unknownNames : Resolver := fun target =>
  if Unencodable target then .error .other else .error (.osError "Name or service not known")

theorem lookup_unknownNames : Lookup unknownNames := by
  constructor
  · intro target infos answers
    unfold unknownNames at answers
    split at answers <;> contradiction
  · intro target
    unfold unknownNames
    split
    next unencodable => simp [unencodable]
    next encodable => simp [encodable]

theorem resolve_public_contract_named :
    Contract sampleSetup unknownNames "example.org".toList :=
  (resolve_public_contract sampleSetup unknownNames lookup_unknownNames _).mpr (by decide)

/-- A name with an empty label is accepted, and its `UnicodeError` is not caught. -/
theorem empty_label_escapes : validAddress "a..b".toList = true ∧ Lookup unknownNames ∧
    ¬Contract sampleSetup unknownNames "a..b".toList := by
  refine ⟨by decide,lookup_unknownNames,?_⟩
  intro contract
  obtain ⟨message,answered⟩ := contract.validates
  revert answered
  change (Except.error Raise.other : Except Raise (Option String)) = .ok message → False
  simp

/-- The check answers, and an accepted port can be converted by the flows behind it. -/
structure Total (setup : Setup) (getaddrinfo : Resolver) (field : Field) (text : Text) : Prop where
  answers : ∃ message, validateField setup getaddrinfo field text = .ok message
  port : field = .port → validateField setup getaddrinfo field text = .ok none →
    ∃ port, int setup.unicode text = some port ∧ 1 ≤ port ∧ port ≤ 65535
  wizard : field = .port → ∀ flow : Flow, flow.step = .port →
    ∃ result, entered setup getaddrinfo flow text = .ok result
  editor : field = .port → validateField setup getaddrinfo field text = .ok none → ∀ nonce,
    (Handlers.editFields setup field text nonce).isSome = true

private theorem mapM_none {α β : Type} {read : α → Option β} {items : List α} :
    items.mapM read = none ↔ ∃ item ∈ items, read item = none := by
  induction items with
  | nil => simp
  | cons item items ih =>
    cases first : read item with
    | none => simp [List.mapM_cons,first]
    | some value =>
      cases rest : items.mapM read with
      | none => simp [List.mapM_cons,first,rest,ih.mp rest]
      | some values =>
        have none := ih.not.mp (by simp [rest])
        simp only [List.mapM_cons,first,rest,List.mem_cons,exists_eq_or_imp,reduceCtorEq,false_or,
          Option.bind_eq_bind,Option.bind_some,Option.pure_def,none]

private theorem length_mapM {α β : Type} {read : α → Option β} {items : List α} {values : List β}
    (mapped : items.mapM read = some values) : values.length = items.length := by
  have same := congrArg List.length ((mapM_eq_some _ _ _).mp mapped)
  simpa using same.symm

section Port
variable {setup : Setup} {getaddrinfo : Resolver} {text : Text}

theorem int_none_iff (solid : ∀ char, setup.unicode.isDigit char = true → isSpace char = false)
    (short : text.length ≤ maxStrDigits) (digits : setup.unicode.isdigit text = true) :
    int setup.unicode text = none ↔ ∃ char ∈ text, setup.unicode.digit char = none := by
  rw [int_isdigit solid digits,← mapM_none]
  cases read : text.mapM setup.unicode.digit with
  | none => simp
  | some values =>
    have length := length_mapM read
    have fits : ¬values.length > maxStrDigits := by omega
    simp [fits]

private theorem total_of_other {field : Field} (other : field ≠ .port)
    (resolved : resolvePublic setup.registry setup.blocked getaddrinfo text ≠ .error .other) :
    Total setup getaddrinfo field text := by
  refine ⟨?_,fun same => absurd same other,fun same => absurd same other,
    fun same => absurd same other⟩
  cases field with
  | ip => exact (contract_of_known resolved).validates
  | port => contradiction
  | _ => exact ⟨_,rfl⟩

private theorem total_of_port
    (converts : setup.unicode.isdigit text = true → int setup.unicode text ≠ none) :
    Total setup getaddrinfo .port text := by
  have answers : ∃ message, validateField setup getaddrinfo .port text = .ok message := by
    simp only [validateField]
    split
    next => exact ⟨_,rfl⟩
    next digits =>
      obtain ⟨port,read⟩ := Option.ne_none_iff_exists'.mp (converts (by simpa using digits))
      rw [read]
      exact ⟨_,rfl⟩
  have accepted (ok : validateField setup getaddrinfo .port text = .ok none) :
      ∃ port, int setup.unicode text = some port ∧ 1 ≤ port ∧ port ≤ 65535 := by
    simp only [validateField] at ok
    split at ok
    next => simp at ok
    next =>
      split at ok
      next => contradiction
      next port read =>
        split at ok
        next inside => exact ⟨port,read,inside⟩
        next => simp at ok
  refine ⟨answers,fun _ => accepted,?_,?_⟩
  · intro _ flow step
    obtain ⟨message,answer⟩ := answers
    simp only [entered,step]
    cases message with
    | some message =>
      split
      next => simp [checked,answer]
      next => exact ⟨_,by rw [checked,answer]⟩
    | none =>
      obtain ⟨port,read,_⟩ := accepted answer
      simp only [read]
      exact ⟨_,by rw [checked,answer]⟩
  · intro _ ok nonce
    obtain ⟨port,read,_⟩ := accepted ok
    simp [Handlers.editFields,read]

end Port

/-- The check is total unless the port has a digit that `int` does not know. -/
theorem validate_field_total (setup : Setup) (getaddrinfo : Resolver) (field : Field) (text : Text)
    (short : text.length ≤ 4096)
    (resolved : resolvePublic setup.registry setup.blocked getaddrinfo text ≠ .error .other)
    (solid : ∀ char, setup.unicode.isDigit char = true → isSpace char = false) :
    Total setup getaddrinfo field text ↔ ¬(field = .port ∧ setup.unicode.isdigit text = true ∧
      ∃ char ∈ text, setup.unicode.digit char = none) := by
  have fits : text.length ≤ maxStrDigits := short.trans (by decide)
  constructor
  · rintro total ⟨port,digits,missing⟩
    subst port
    have fails := (int_none_iff solid fits digits).mpr missing
    obtain ⟨message,answered⟩ := total.answers
    simp [validateField,digits,fails] at answered
  · intro known
    by_cases port : field = .port
    · subst port
      apply total_of_port
      intro digits fails
      exact known ⟨rfl,digits,(int_none_iff solid fits digits).mp fails⟩
    · exact total_of_other port resolved

theorem validate_field_total_ascii : Total sampleSetup unknownNames .port "22".toList := by
  apply (validate_field_total sampleSetup unknownNames .port _ (by decide) (by decide) ?_).mpr
  · rintro ⟨_,_,char,member,missing⟩
    obtain rfl : char = '2' := by simpa using member
    contradiction
  · intro char digit
    obtain rfl := eq_of_beq digit
    decide

/-- The superscript two passes `isdigit`, and `int` raises `ValueError`. -/
theorem superscript_port_raises : ("²".toList.length ≤ 4096 ∧
    resolvePublic sampleSetup.registry sampleSetup.blocked unknownNames "²".toList ≠ .error .other) ∧
    validateField sampleSetup unknownNames .port "²".toList = .error .valueError ∧
    ¬Total sampleSetup unknownNames .port "²".toList := by
  refine ⟨by decide,rfl,?_⟩
  intro total
  obtain ⟨message,answered⟩ := total.answers
  contradiction

end AtronixX.FieldChecks
