import AtronixX.Installer

/-! When the bot starts with the token, the admin and the backup password that were typed into
the installer. The password passes through `read`, the reader of the `.env` file and `strip`,
and it is written without quotes. -/
namespace AtronixX.Configuration
open Library.Text Library.Numerals Library.EnvFile Config Installer

/-- What the references in front of a comment stand for is the very text that was typed. -/
def Reproduced (lookup : Text → Option Text) (password : Text) : Prop :=
  references (body password) = true ∧ surrounded (body password) = false ∧
    strip (substitute lookup (body password)) = password

/-- Nothing on the way of the password changes it. -/
structure Kept (lookup : Text → Option Text) (password : Text) : Prop where
  long : 8 ≤ password.length
  solid : Solid isSpace password
  unquoted : surrounded password = false
  verbatim : (commented password = false ∧ references password = false) ∨
    Reproduced lookup password

theorem solid_space {text : Text} (solid : Solid isSpace text) : Solid space text := by
  apply solid.mono
  intro char white
  unfold space at white
  exact (Bool.and_eq_true_iff.mp white).1

theorem solid_ifs {text : Text} (solid : Solid isSpace text) : Solid ifs text := by
  apply solid.mono
  intro char blank
  simp only [ifs,Bool.or_eq_true,beq_iff_eq] at blank
  rcases blank with same | same
  · subst same
    decide
  · subst same
    decide

theorem solid_strip (text : Text) : Solid isSpace (strip text) := solid_trimBy

theorem body_of_plain {text : Text} (solid : Solid isSpace text) (plain : commented text = false) :
    body text = text := by
  unfold body
  split
  next => rfl
  next =>
    rw [(uncomment_eq_self_iff text).mpr plain]
    exact List.rdropWhile_eq_self_iff.mpr fun nonempty => by
      rw [(solid_space solid).2 _ (List.getLast?_eq_some_getLast nonempty)]
      exact Bool.false_ne_true

theorem commented_of_body {text : Text} (unquoted : surrounded text = false)
    (whole : body text = text) : commented text = false := by
  apply (uncomment_eq_self_iff text).mp
  unfold body at whole
  rw [if_neg (by simp [unquoted])] at whole
  apply (uncomment_isPrefix text).eq_of_length_le
  have kept := (List.rdropWhile_prefix space (uncomment text)).length_le
  rw [whole] at kept
  exact kept

/-- What the bot gets of the password is never longer than what was typed, but for what the
references stand for. -/
theorem kept_iff (lookup : Text → Option Text) (password : Text) :
    (strip (value lookup (trimBy ifs password)) = password ∧ 8 ≤ password.length) ↔
      Kept lookup password := by
  constructor
  · intro ⟨same,long⟩
    have solid : Solid isSpace password := by
      rw [← same]
      exact solid_strip _
    rw [trimBy_of_solid (solid_ifs solid)] at same
    unfold value at same
    dsimp only at same
    rw [trimBy_of_solid (solid_space solid)] at same
    have shorter := (body_sublist password).length_le
    split at same
    next quoted =>
      have less := length_inner quoted
      have most := (strip_sublist (inner (body password))).length_le
      rw [same] at most
      omega
    next unquoted =>
      rw [Bool.not_eq_true] at unquoted
      have outer : surrounded password = false := by
        apply Bool.eq_false_iff.mpr
        intro quoted
        have whole : body password = password := by
          unfold body
          rw [if_pos quoted]
        rw [whole,quoted] at unquoted
        contradiction
      refine ⟨long,solid,outer,?_⟩
      cases referring : references (body password) with
      | true => exact Or.inr ⟨referring,unquoted,same⟩
      | false =>
        rw [substitute_of_no_references referring] at same
        have most := (strip_sublist (body password)).length_le
        rw [same] at most
        have whole := (body_sublist password).eq_of_length_le most
        rw [whole] at referring
        exact Or.inl ⟨commented_of_body outer whole,referring⟩
  · intro kept
    refine ⟨?_,kept.long⟩
    rw [trimBy_of_solid (solid_ifs kept.solid)]
    unfold value
    dsimp only
    rw [trimBy_of_solid (solid_space kept.solid)]
    rcases kept.verbatim with ⟨plain,free⟩ | ⟨_,unquoted,same⟩
    · rw [body_of_plain kept.solid plain,if_neg (by simp [kept.unquoted]),
        substitute_of_no_references free]
      exact trimBy_of_solid kept.solid
    · rw [if_neg (by simp [unquoted])]
      exact same

/-- Where no variable stands for a text with a dollar sign, no reference can stay. -/
theorem not_reproduced {lookup : Text → Option Text} {password : Text}
    (free : ∀ name text, lookup name = some text → '$' ∉ text) :
    ¬ Reproduced lookup password := by
  intro ⟨referring,_,same⟩
  have fewer := count_substitute_lt free referring
  have stripped := (strip_sublist (substitute lookup (body password))).count_le '$'
  have whole := (body_sublist password).count_le '$'
  rw [same] at stripped
  omega

/-- ASCII from the hyphen to the last letter. -/
def Harmless (text : Text) : Prop := ∀ char ∈ text, 45 ≤ char.toNat ∧ char.toNat ≤ 122

theorem spaceless_of_harmless {text : Text} (harmless : Harmless text) :
    ∀ char ∈ text, isSpace char = false := by
  intro char member
  have bounds := harmless char member
  simp only [isSpace,Bool.or_eq_false_iff,Bool.and_eq_false_iff,decide_eq_false_iff_not,
    beq_eq_false_iff_ne]
  omega

theorem value_of_harmless {text : Text} (harmless : Harmless text)
    (lookup : Text → Option Text) : value lookup text = text := by
  apply value_of_plain
  intro char member
  have bounds := harmless char member
  have white := spaceless_of_harmless harmless char member
  have different : char ∉ '$' :: quotes := by
    intro listed
    have small := List.all_eq_true.mp
      (by decide : ('$' :: quotes).all (fun other => decide (other.toNat < 45)) = true) char listed
    have code := of_decide_eq_true small
    omega
  simp only [List.mem_cons,not_or] at different
  simp [plain,space,white,different.1]
  exact different.2

theorem strip_of_harmless {text : Text} (harmless : Harmless text) : strip text = text :=
  trimBy_of_solid (solid_of_forall (spaceless_of_harmless harmless))

theorem harmless_of_digits {text : Text} (digits : ∀ char ∈ text, char.isDigit = true) :
    Harmless text := by
  intro char member
  have bounds := (isDigit_iff char).mp (digits char member)
  omega

theorem harmless_of_botTokenMatches {text : Text} (accepted : botTokenMatches text = true) :
    Harmless text := by
  obtain ⟨number,secret,rfl,_,_,digits,_,letters⟩ := isToken_iff.mp accepted
  intro char member
  rcases List.mem_append.mp member with inside | inside
  · exact harmless_of_digits digits char inside
  · rcases List.mem_cons.mp inside with colon | inside
    · subst colon
      decide
    · have letter : (((decide (char.val ≥ 'A'.val ∧ char.val ≤ 'Z'.val) ||
          (decide (char.val ≥ 'a'.val) && decide (char.val ≤ 'z'.val))) ||
          (decide (char.val ≥ '0'.val) && decide (char.val ≤ '9'.val))) ||
          char == '_' || char == '-') = true := letters char inside
      simp only [Bool.or_eq_true,Bool.and_eq_true,decide_eq_true_eq,beq_iff_eq,ge_iff_le,
        UInt32.le_iff_toNat_le] at letter
      change 45 ≤ char.val.toNat ∧ char.val.toNat ≤ 122
      rcases letter with (((upper | lower) | digit) | same) | same
      · exact ⟨Nat.le_trans (by decide) upper.1,Nat.le_trans upper.2 (by decide)⟩
      · exact ⟨Nat.le_trans (by decide) lower.1,Nat.le_trans lower.2 (by decide)⟩
      · exact ⟨Nat.le_trans (by decide) digit.1,Nat.le_trans digit.2 (by decide)⟩
      · subst same
        decide
      · subst same
        decide

theorem tokenMatches_of_botTokenMatches (unicode : Unicode) {text : Text}
    (accepted : botTokenMatches text = true) : tokenMatches unicode text = true := by
  obtain ⟨number,secret,same,colon,six,digits,thirty,letters⟩ := isToken_iff.mp accepted
  refine isToken_iff.mpr ⟨number,secret,same,colon,six,?_,thirty,?_⟩
  · intro char member
    simp [digit_of_isDigit unicode (digits char member)]
  · intro char member
    have letter := letters char member
    have narrow := harmless_of_botTokenMatches accepted char (by simp [same,member])
    have known : ascii char = true := decide_eq_true (by omega)
    simpa [Unicode.word,known] using letter

section
variable (outside image : Text → Option Text) (answers : Answers) (selfIps : Line)

def known (name : Text) : Option Text :=
  (outside name).or ((entries outside ((envLines answers selfIps).take 3) []).lookup name)

theorem entries_assign {name : String} (text : Text) (rest : List Text)
    (above : List (Text × Text)) (uncommented : (name.toList ++ ['=']).head? ≠ some '#')
    (single : '=' ∉ name.toList) (solid : trimBy space name.toList = name.toList) :
    entries outside (assign name text :: rest) above = entries outside rest
      ((name.toList,value (fun name => (outside name).or (above.lookup name)) text) :: above) := by
  unfold assign
  conv_lhs => unfold entries
  rw [assignment_append text uncommented single solid]

theorem getenv_envFile :
    (∃ lookup, getenv outside image (envFile answers selfIps) "BOT_TOKEN".toList =
        some (value lookup answers.botToken.read)) ∧
      (∃ lookup, getenv outside image (envFile answers selfIps) "ADMIN_ID".toList =
        some (value lookup answers.adminId.read)) ∧
      getenv outside image (envFile answers selfIps) "BACKUP_PASSPHRASE".toList =
        some (value (known outside answers selfIps) answers.bk1.read) := by
  unfold getenv envFile Library.EnvFile.read known
  rw [splitOn_written (single_envLines answers selfIps)]
  unfold envLines
  simp only [List.cons_append,List.nil_append,List.take]
  repeat rw [entries_assign outside _ _ _ (by decide) (by decide) (by decide)]
  exact ⟨⟨_,rfl⟩,⟨_,rfl⟩,rfl⟩

/-- The bot starts with what was typed. -/
def Agrees (unicode : Unicode) : Prop :=
  ∃ settings, loadSettings unicode (getenv outside image (envFile answers selfIps)) = .ok settings ∧
    settings.botToken = answers.botToken.text ∧
    settings.adminId = (Nat.ofDigitChars 10 answers.adminId.read 0 : Nat) ∧
    settings.backupPassphrase = answers.bk1.text

structure Unaltered : Prop where
  token : Solid ifs answers.botToken.text
  adminPositive : ∃ char ∈ answers.adminId.read, char ≠ '0'
  adminShort : answers.adminId.read.length ≤ maxStrDigits
  password : Kept (known outside answers selfIps) answers.bk1.text

end

theorem int_adminId (unicode : Unicode) {getenv : Text → Option Text} {lookup : Text → Option Text}
    {text : Text} (accepted : adminIdMatches text = true)
    (found : getenv "ADMIN_ID".toList = some (value lookup text)) :
    int_ unicode getenv "ADMIN_ID" 0 =
      if text.length > maxStrDigits then 0 else (Nat.ofDigitChars 10 text 0 : Nat) := by
  simp only [adminIdMatches,Bool.and_eq_true,Bool.not_eq_true',List.isEmpty_eq_false_iff,
    List.all_eq_true] at accepted
  have harmless := harmless_of_digits accepted.2
  unfold int_
  dsimp only
  rw [found,Option.getD_some,value_of_harmless harmless,strip_of_harmless harmless,
    if_neg accepted.1,int_digits unicode accepted.1 accepted.2]
  split <;> rfl

/-- The bot starts with what was typed exactly if nothing on the way changes it. -/
theorem installer_and_bot_agree (unicode : Unicode) (outside image : Text → Option Text)
    (selfIps : Line) {charset : Charset} {lines : List Line} {answers : Answers}
    (accepted : runWizard charset lines = some answers) :
    Agrees outside image answers selfIps unicode ↔ Unaltered outside answers selfIps := by
  obtain ⟨tokenAccepted,adminAccepted,_⟩ := accepted_of_runWizard accepted
  obtain ⟨⟨_,tokenFound⟩,⟨_,adminFound⟩,passwordFound⟩ :=
    getenv_envFile outside image answers selfIps
  have digits : ∀ char ∈ answers.adminId.read, char.isDigit = true := by
    simp only [adminIdMatches,Bool.and_eq_true,List.all_eq_true] at adminAccepted
    exact adminAccepted.2
  have harmless := harmless_of_botTokenMatches tokenAccepted
  have admin := int_adminId unicode adminAccepted adminFound
  have kept := kept_iff (known outside answers selfIps) answers.bk1.text
  unfold Agrees
  rw [loadSettings_iff,tokenFound,admin,passwordFound]
  simp only [Option.getD_some,value_of_harmless harmless,strip_of_harmless harmless]
  constructor
  · intro ⟨⟨_,positive,long⟩,sameToken,sameId,samePassword⟩
    have short : answers.adminId.read.length ≤ maxStrDigits := by
      apply Nat.not_lt.mp
      intro tooLong
      rw [if_pos tooLong] at sameId
      omega
    refine ⟨solid_iff.mpr sameToken,?_,short,kept.mp ⟨samePassword,long⟩⟩
    exact (ofDigitChars_pos_iff digits).mp (by omega)
  · intro unaltered
    have sameToken : answers.botToken.read = answers.botToken.text :=
      trimBy_of_solid unaltered.token
    have positive := (ofDigitChars_pos_iff digits).mpr unaltered.adminPositive
    have password := kept.mpr unaltered.password
    rw [if_neg (Nat.not_lt.mpr unaltered.adminShort)]
    refine ⟨⟨?_,by omega,password.2⟩,sameToken,rfl,password.1⟩
    rw [← sameToken]
    exact tokenMatches_of_botTokenMatches unicode tokenAccepted

theorem kept_iff_of_plain {lookup : Text → Option Text} {password : Text}
    (free : ∀ name text, lookup name = some text → '$' ∉ text) :
    Kept lookup password ↔ 8 ≤ password.length ∧ Solid isSpace password ∧
      surrounded password = false ∧ commented password = false ∧ references password = false := by
  constructor
  · intro kept
    refine ⟨kept.long,kept.solid,kept.unquoted,?_⟩
    rcases kept.verbatim with plain | reproduced
    · exact plain
    · exact absurd reproduced (not_reproduced free)
  · intro ⟨long,solid,unquoted,uncommented,unreferenced⟩
    exact ⟨long,solid,unquoted,Or.inl ⟨uncommented,unreferenced⟩⟩

def typed (text : String) (single : '\n' ∉ text.toList) : Line := ⟨text.toList,single⟩

def plainUnicode : Unicode := ⟨fun _ => none,fun _ => false,fun _ => false⟩

def answersWith (password : Line) : Answers where
  botToken := typed "123456:abcdefghijklmnopqrstuvwxyz-_01" (by decide)
  adminId := typed "4200" (by decide)
  supportUsername := typed "" (by decide)
  bk1 := password

/-- The first token is refused, and so is the first password. -/
def linesWith (password : Line) : List Line :=
  [typed "no token" (by decide),(answersWith password).botToken,(answersWith password).adminId,
    (answersWith password).supportUsername,typed "short" (by decide),typed "short" (by decide),
    password,password]

theorem installer_and_bot_agree_typed :
    ∃ password, runWizard .utf8 (linesWith password) = some (answersWith password) ∧
      password.text = "correct horse".toList ∧
      Agrees (fun _ => none) (fun _ => none) (answersWith password) (typed "10.0.0.1" (by decide))
        plainUnicode := by
  have accepted : runWizard .utf8 (linesWith (typed "correct horse" (by decide))) =
      some (answersWith (typed "correct horse" (by decide))) := rfl
  refine ⟨typed "correct horse" (by decide),accepted,rfl,?_⟩
  apply (installer_and_bot_agree plainUnicode _ _ _ accepted).mpr
  refine ⟨solid_iff.mpr (by decide),⟨'4',by decide,by decide⟩,by decide,?_⟩
  exact ⟨by decide,solid_iff.mpr (by decide),by decide,Or.inl ⟨by decide,by decide⟩⟩

theorem dollar_changes_password :
    ∃ password, runWizard .utf8 (linesWith password) = some (answersWith password) ∧
      password.text = "hunter22$ecret".toList ∧
      (loadSettings plainUnicode (getenv (fun _ => none) (fun _ => none)
        (envFile (answersWith password) (typed "10.0.0.1" (by decide))))).map
          Settings.backupPassphrase = .ok "hunter22".toList := by
  refine ⟨typed "hunter22$ecret" (by decide),rfl,rfl,?_⟩
  decide +kernel

end AtronixX.Configuration
