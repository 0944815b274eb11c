import Mathlib.Data.Rat.Defs
import AtronixX.BackupFormat
import AtronixX.Library.Numerals
import AtronixX.JalaliDate
import AtronixX.Sftp

/-! What becomes of a backup file whose contents are anything: `_open_payload` with the
exceptions that it lists and those that it does not, and `_restore_preview` behind it. zip,
JSON, SQLite and the clock's calendar are parameters. -/
namespace AtronixX.BackupOpening
open Library.Tables Library.Sealed Crypto Schema BackupFormat

inductive Fault
  | badZipFile
  | keyError
  | valueError
  | zlibError
  | notImplementedError
  | runtimeError
  | attributeError
  | typeError
  | overflowError
  | other
  deriving DecidableEq, Repr

inductive Raised
  | cryptoError (message : String)
  | fault (fault : Fault)
  deriving DecidableEq, Repr

inductive Number
  | int (value : Int)
  | float (value : Rat)
  | infinite (negative : Bool)
  | nan
  deriving DecidableEq

inductive Json
  | null
  | bool (value : Bool)
  | number (value : Number)
  | string (text : String)
  | array (items : List Json)
  | object (members : List (String × Json))

/-- `bool(value)`. -/
def Json.truthy : Json → Bool
  | .null => false
  | .bool value => value
  | .number (.int value) => value != 0
  | .number (.float value) => value != 0
  | .number _ => true
  | .string text => text != ""
  | .array items => !items.isEmpty
  | .object members => !members.isEmpty

/-- What counts as a number where one is asked for. -/
def Json.number? : Json → Option Number
  | .bool value => some (.int (if value then 1 else 0))
  | .number value => some value
  | _ => none

/-- `meta.get(key)` of an object; of two members with one name the later counts. -/
def get (members : List (String × Json)) (key : String) : Option Json := members.reverse.lookup key

structure Moment where
  year : Nat
  month : Nat
  day : Nat
  hour : Nat
  minute : Nat
  deriving DecidableEq, Repr

structure Read where
  file : Option DbFile
  wal : Option Bytes
  shm : Option Bytes

structure Decoders where
  /-- `ZipFile(…)`, with `read` of what it opened. -/
  unzip : Bytes → Except Fault (String → Except Fault Bytes)
  loads : Bytes → Except Fault Json
  sqlite : Bytes → Read
  /-- `datetime.fromtimestamp` in the configured zone. -/
  fromtimestamp : Number → Except Fault Moment
  str : Json → String

/-- The files by their paths, and the loaded key. -/
structure World (κ : Type) where
  files : Table String Bytes
  aes : Option κ

def dbPath (dataDir : String) : String := Sftp.join dataDir "atronixx.db"

def keyPath (dataDir : String) : String := Sftp.join dataDir "secret.key"

def tmpDir (dataDir : String) : String := Sftp.join dataDir "tmp"

section
variable {β κ : Type} (cipher : Aead β) (scrypt : Bytes → Bytes → β) (decoders : Decoders)
variable (dataDir : String)

/-- The path that `_validate_db` writes to at `time_ns`. -/
def validatePath (timeNs : Nat) : String :=
  Sftp.join (tmpDir dataDir) ("validate_" ++ toString timeNs ++ ".db")

def suffixes : List String := ["","-wal","-shm"]

def place (path : String) (content : Option Bytes) (files : Table String Bytes) :
    Table String Bytes :=
  match content with
  | none => files
  | some bytes => files.insert path bytes

def remove (files : Table String Bytes) (path : String) : Table String Bytes := files.erase path

def validateDb (timeNs : Nat) (data : Bytes) (world : World κ) : Except Raised Unit × World κ :=
  let path := validatePath dataDir timeNs
  let read := decoders.sqlite data
  let written := world.files.insert path data
  let opened := place (path ++ "-shm") read.shm (place (path ++ "-wal") read.wal written)
  (match Schema.validateDb read.file with
    | .ok () => .ok ()
    | .error (.cryptoError message) => .error (.cryptoError message)
    | .error .other => .error (.fault .other),
    {world with files := suffixes.foldl (fun files suffix => remove files (path ++ suffix)) opened})

/-- The body of the `try` in `_open_payload`. -/
def contents (raw : Bytes) : Except Fault (Bytes × Bytes × Json) := do
  let read ← decoders.unzip raw
  let db ← read "atronixx.db"
  let key ← read "secret.key"
  let summary ← decoders.loads (← read "meta.json")
  pure (db,key,summary)

def caught : Fault → Bool
  | .badZipFile => true
  | .keyError => true
  | .valueError => true
  | _ => false

def openPayload (blob : Bytes) (passphrase : String) (timeNs : Nat) (world : World κ) :
    Except Raised (Bytes × Bytes × Json) × World κ :=
  match decryptBackup cipher scrypt blob passphrase with
  | .error (.cryptoError message) => (.error (.cryptoError message),world)
  | .error .other => (.error (.fault .other),world)
  | .ok raw => match contents decoders raw with
    | .error fault =>
      if caught fault then (.error (.cryptoError "backup content is corrupted"),world)
      else (.error (.fault fault),world)
    | .ok (db,key,summary) =>
      if key.length ≠ 32 then (.error (.cryptoError "backup key is invalid"),world)
      else match validateDb decoders dataDir timeNs db world with
        | (.error raised,after) => (.error raised,after)
        | (.ok (),after) => (.ok (db,key,summary),after)

def inspectBackup (blob : Bytes) (passphrase : String) (timeNs : Nat) (world : World κ) :
    Except Raised Json × World κ :=
  match openPayload cipher scrypt decoders dataDir blob passphrase timeNs world with
  | (.error raised,after) => (.error raised,after)
  | (.ok (_,_,summary),after) => (.ok summary,after)

/-- `f"{value:0{width}d}"`. -/
def zeros (width : Nat) (value : Int) : String :=
  let sign := if value < 0 then "-" else ""
  let digits := toString value.natAbs
  sign ++ String.ofList (List.replicate (width - sign.length - digits.length) '0') ++ digits

def fmtDt (ts : Json) (lang : String) : Except Raised String :=
  if !ts.truthy then .ok "—"
  else match ts.number? with
    | none => .error (.fault .typeError)
    | some number => match decoders.fromtimestamp number with
      | .error fault => .error (.fault fault)
      | .ok dt =>
        let clock := zeros 2 dt.hour ++ ":" ++ zeros 2 dt.minute
        if lang = "fa" then
          let day := JalaliDate.gregorianToJalali dt.year dt.month dt.day
          .ok (zeros 4 day.year ++ "/" ++ zeros 2 day.month ++ "/" ++ zeros 2 day.day ++ " · " ++ clock)
        else .ok (zeros 4 dt.year ++ "-" ++ zeros 2 dt.month ++ "-" ++ zeros 2 dt.day ++ " " ++ clock)

def fmtNum (value : Json) : String := decoders.str value

inductive Kind
  | file
  | pass
  | ready
  deriving DecidableEq, Repr

structure Flow where
  kind : Kind
  blob : Bytes
  pass : Option String
  deriving DecidableEq, Repr

/-- What the message is edited to; Telegram's errors are swallowed by `ui.edit`. -/
inductive Screen
  | invalid
  | askPass (wrong : Bool)
  | confirm (users hosts created : String)
  deriving DecidableEq, Repr

structure State (κ : Type) where
  flow : Flow
  world : World κ

/-- The text of the last screen, of a summary that may be no dictionary. -/
def confirmation (summary : Json) (lang : String) : Except Raised Screen :=
  match summary with
  | .object members => do
    let users := fmtNum decoders ((get members "users").getD (.string "?"))
    let hosts := fmtNum decoders ((get members "hosts").getD (.string "?"))
    let created ← fmtDt decoders ((get members "created").getD .null) lang
    pure (.confirm users hosts created)
  | _ => .error (.fault .attributeError)

def restorePreview (passphrase lang : String) (timeNs : Nat) (state : State κ) :
    Except Raised Screen × State κ :=
  let flow := state.flow
  if magic.isPrefixOf flow.blob = false then
    (.ok .invalid,{state with flow := {flow with kind := .file}})
  else match inspectBackup cipher scrypt decoders dataDir flow.blob passphrase timeNs state.world with
    | (.error (.cryptoError _),world) =>
      (.ok (.askPass (flow.kind == .pass)),⟨{flow with kind := .pass},world⟩)
    | (.error (.fault fault),world) => (.error (.fault fault),⟨flow,world⟩)
    | (.ok summary,world) =>
      (confirmation decoders summary lang,⟨{flow with pass := some passphrase, kind := .ready},world⟩)

end

/-- The database with what SQLite keeps beside it, and the key file. -/
def live (dataDir : String) : List String :=
  keyPath dataDir :: suffixes.map (fun suffix => dbPath dataDir ++ suffix)

structure Untouched {κ : Type} (dataDir : String) (before after : World κ) : Prop where
  files : ∀ path ∈ live dataDir, after.files.lookup path = before.files.lookup path
  aes : after.aes = before.aes

theorem Untouched.refl {κ : Type} (dataDir : String) (world : World κ) :
    Untouched dataDir world world := ⟨fun _ _ => rfl,rfl⟩

private theorem single_validate (timeNs : Nat) {suffix : String} (known : suffix ∈ suffixes) :
    '/' ∉ ("validate_" ++ toString timeNs ++ ".db" ++ suffix).toList := by
  have ending : '/' ∉ suffix.toList := by
    revert suffix
    decide
  intro slash
  simp only [String.toList_append,List.mem_append] at slash
  rcases slash with ((start | digit) | dot) | tail
  · revert start
    decide
  · have written : (toString timeNs).toList = Library.Numerals.str timeNs := by
      simp [Library.Numerals.str]
    rw [written] at digit
    have is := Library.Numerals.isDigit_of_mem_str digit
    revert is
    decide
  · revert dot
    decide
  · exact ending tail

private theorem basename_validate (dataDir : String) (timeNs : Nat) {suffix : String}
    (known : suffix ∈ suffixes) :
    Sftp.basename (validatePath dataDir timeNs ++ suffix) =
      "validate_" ++ toString timeNs ++ ".db" ++ suffix := by
  have single := single_validate timeNs known
  have plain : '/' ∉ ("validate_" ++ toString timeNs ++ ".db").toList := by
    intro slash
    exact single (by
      rw [String.toList_append]
      exact List.mem_append_left _ slash)
  rw [validatePath,Sftp.join_single _ plain,String.append_assoc,← Sftp.join_single _ single]
  exact Sftp.basename_join _ single

private theorem basename_live (dataDir : String) {path : String} (is : path ∈ live dataDir) :
    Sftp.basename path ∈ ["secret.key","atronixx.db","atronixx.db-wal","atronixx.db-shm"] := by
  rcases List.mem_cons.mp is with rfl | beside
  · rw [keyPath,Sftp.basename_join _ (by decide)]
    decide
  · obtain ⟨suffix,known,rfl⟩ := List.mem_map.mp beside
    have singles : ∀ suffix ∈ suffixes, '/' ∉ ("atronixx.db" ++ suffix).toList := by decide
    have named : ∀ suffix ∈ suffixes, "atronixx.db" ++ suffix ∈
        ["secret.key","atronixx.db","atronixx.db-wal","atronixx.db-shm"] := by decide
    have single := singles suffix known
    rw [dbPath,Sftp.join_single _ (by decide),String.append_assoc,← Sftp.join_single _ single,
      Sftp.basename_join _ single]
    exact named suffix known

theorem live_apart (dataDir : String) (timeNs : Nat) {path suffix : String}
    (is : path ∈ live dataDir) (known : suffix ∈ suffixes) :
    path ≠ validatePath dataDir timeNs ++ suffix := by
  rintro rfl
  have base := basename_live dataDir is
  rw [basename_validate dataDir timeNs known] at base
  have first : ∀ name ∈ ["secret.key","atronixx.db","atronixx.db-wal","atronixx.db-shm"],
      name.toList.head? ≠ some 'v' := by decide
  apply first _ base
  simp [String.toList_append]

private theorem lookup_place {path other : String} (differs : other ≠ path)
    (content : Option Bytes) (files : Table String Bytes) :
    (place path content files).lookup other = files.lookup other := by
  cases content with
  | none => rfl
  | some bytes => exact AList.lookup_insert_ne differs

private theorem lookup_removed (paths : List String) (files : Table String Bytes) (path : String) :
    (paths.foldl remove files).lookup path =
      if path ∈ paths then none else files.lookup path := by
  induction paths generalizing files with
  | nil => simp
  | cons first paths ih =>
    rw [List.foldl_cons,ih]
    by_cases same : path = first
    · subst same
      simp [remove]
    · simp [same,remove,AList.lookup_erase_ne same]

section
variable {β κ : Type} {cipher : Aead β} {scrypt : Bytes → Bytes → β} (decoders : Decoders)
variable (dataDir : String)

/-- Whatever is validated, only the three files of the copy change, and they are gone. -/
theorem lookup_validateDb (timeNs : Nat) (data : Bytes) (world : World κ) (path : String) :
    ((validateDb decoders dataDir timeNs data world).2).files.lookup path =
      if path ∈ suffixes.map (fun suffix => validatePath dataDir timeNs ++ suffix) then none
      else world.files.lookup path := by
  unfold validateDb
  extract_lets copy read written opened
  dsimp only
  rw [← List.foldl_map,lookup_removed]
  by_cases known : path ∈ suffixes.map (fun suffix => copy ++ suffix)
  · rw [if_pos known,if_pos known]
  · rw [if_neg known,if_neg known]
    have apart (suffix : String) (member : suffix ∈ suffixes) : path ≠ copy ++ suffix := by
      rintro rfl
      exact known (List.mem_map_of_mem member)
    have plain : path ≠ copy := by simpa using apart "" (by decide)
    rw [lookup_place (apart "-shm" (by decide)),lookup_place (apart "-wal" (by decide))]
    exact AList.lookup_insert_ne plain

theorem untouched_validateDb (timeNs : Nat) (data : Bytes) (world : World κ) :
    Untouched dataDir world (validateDb decoders dataDir timeNs data world).2 := by
  refine ⟨?_,rfl⟩
  intro path is
  rw [lookup_validateDb decoders dataDir timeNs data world path,if_neg]
  intro copy
  obtain ⟨suffix,known,same⟩ := List.mem_map.mp copy
  exact live_apart dataDir timeNs is known same.symm

theorem untouched_openPayload (blob : Bytes) (passphrase : String) (timeNs : Nat)
    (world : World κ) : Untouched dataDir world
      (openPayload cipher scrypt decoders dataDir blob passphrase timeNs world).2 := by
  unfold openPayload
  split
  next => exact .refl dataDir world
  next => exact .refl dataDir world
  next raw _ =>
    split
    next => split <;> exact .refl dataDir world
    next db key summary _ =>
      split
      next => exact .refl dataDir world
      next =>
        have kept := untouched_validateDb decoders dataDir timeNs db world
        split
        next validated => rwa [validated] at kept
        next validated => rwa [validated] at kept

end

section
variable {β κ : Type} (cipher : Aead β) (scrypt : Bytes → Bytes → β) (decoders : Decoders)
variable (dataDir : String)

/-- A sound database with every required table. -/
def Complete (data : Bytes) : Prop :=
  ∃ file, (decoders.sqlite data).file = some file ∧ file.intact = true ∧
    ∀ name ∈ requiredTables, ∃ object ∈ file.objects, object.kind = .table ∧ object.name = name

/-- `_open_payload` returns what it promises or raises `CryptoError`, nothing live has changed,
and `_restore_preview` raises nothing in any flow with this file. -/
structure Contract (blob : Bytes) (passphrase : String) (timeNs : Nat) (world : World κ) : Prop where
  opens : (∃ db key members, (openPayload cipher scrypt decoders dataDir blob passphrase timeNs
      world).1 = .ok (db,key,.object members) ∧ Complete decoders db ∧ key.length = 32) ∨
    ∃ message, (openPayload cipher scrypt decoders dataDir blob passphrase timeNs world).1 =
      .error (.cryptoError message)
  untouched : Untouched dataDir world
    (openPayload cipher scrypt decoders dataDir blob passphrase timeNs world).2
  shows : ∀ kind pass lang, ∃ screen, (restorePreview cipher scrypt decoders dataDir passphrase lang
    timeNs ⟨⟨kind,blob,pass⟩,world⟩).1 = .ok screen

def Dated (ts : Json) : Prop :=
  ts.truthy = false ∨ ∃ number moment, ts.number? = some number ∧
    decoders.fromtimestamp number = .ok moment

/-- The decoders stop with one of the listed exceptions, or key or database are refused, or the
summary is an object with a date. -/
def Plain (raw : Bytes) : Prop :=
  match contents decoders raw with
  | .error fault => caught fault = true
  | .ok (db,key,summary) => key.length ≠ 32 ∨
    Schema.validateDb (decoders.sqlite db).file ≠ .ok () ∨
    ∃ members, summary = .object members ∧ Dated decoders ((get members "created").getD .null)

end

section
variable {β κ : Type} {cipher : Aead β} {scrypt : Bytes → Bytes → β} {decoders : Decoders}
variable {dataDir : String}

theorem decryptBackup_error {blob : Bytes} {passphrase : String} {fault : CryptoFault}
    (failed : decryptBackup cipher scrypt blob passphrase = .error fault) :
    ∃ message, fault = .cryptoError message := by
  unfold decryptBackup at failed
  extract_lets head salt nonce at failed
  split at failed
  next => exact ⟨_,(Except.error.inj failed).symm⟩
  next =>
    split at failed
    next => exact ⟨_,(Except.error.inj failed).symm⟩
    next => contradiction

theorem magic_of_decrypted {blob raw : Bytes} {passphrase : String}
    (decrypted : decryptBackup cipher scrypt blob passphrase = .ok raw) :
    magic.isPrefixOf blob = true := by
  unfold decryptBackup at decrypted
  extract_lets head salt nonce at decrypted
  split at decrypted
  next => contradiction
  next fits => simpa using (not_or.mp fits).2

theorem validateDb_error {file : Option DbFile} {fault : CryptoFault}
    (failed : Schema.validateDb file = .error fault) : ∃ message, fault = .cryptoError message := by
  unfold Schema.validateDb at failed
  split at failed
  next => exact ⟨_,(Except.error.inj failed).symm⟩
  next =>
    split at failed
    next => exact ⟨_,(Except.error.inj failed).symm⟩
    next =>
      split at failed
      next => contradiction
      next => exact ⟨_,(Except.error.inj failed).symm⟩

theorem complete_of_validated {data : Bytes}
    (validated : Schema.validateDb (decoders.sqlite data).file = .ok ()) :
    Complete decoders data := by
  unfold Schema.validateDb at validated
  split at validated
  next => contradiction
  next file found =>
    split at validated
    next => contradiction
    next intact =>
      split at validated
      next every =>
        refine ⟨file,found,by simpa using intact,?_⟩
        intro name required
        have present := List.all_eq_true.mp every name required
        obtain ⟨object,member,is⟩ := List.any_eq_true.mp present
        exact ⟨object,member,by simpa using is⟩
      next => contradiction

theorem fmtDt_ok_iff (decoders : Decoders) (ts : Json) (lang : String) :
    (∃ text, fmtDt decoders ts lang = .ok text) ↔ Dated decoders ts := by
  unfold fmtDt Dated
  cases ts.truthy with
  | false => simp
  | true =>
    cases ts.number? with
    | none => simp
    | some number =>
      cases shown : decoders.fromtimestamp number with
      | error fault => simp [shown]
      | ok moment =>
        by_cases persian : lang = "fa" <;> simp [shown,persian]

theorem confirmation_ok_iff (decoders : Decoders) (summary : Json) (lang : String) :
    (∃ screen, confirmation decoders summary lang = .ok screen) ↔
      ∃ members, summary = .object members ∧ Dated decoders ((get members "created").getD .null) := by
  cases summary with
  | object members =>
    have dated := fmtDt_ok_iff decoders ((get members "created").getD .null) lang
    cases shown : fmtDt decoders ((get members "created").getD .null) lang with
    | error raised =>
      rw [shown] at dated
      simp_all [confirmation,bind,Except.bind]
    | ok text =>
      rw [shown] at dated
      simp_all [confirmation,bind,Except.bind,pure,Except.pure]
  | _ => simp [confirmation]

/-- What `_restore_preview` can show. -/
def Presentable (decoders : Decoders) : Except Raised (Bytes × Bytes × Json) → Prop
  | .error (.cryptoError _) => True
  | .error (.fault _) => False
  | .ok (_,_,summary) => ∃ members, summary = .object members ∧
    Dated decoders ((get members "created").getD .null)

private theorem shows_of_opened {blob : Bytes} {passphrase : String} {timeNs : Nat}
    {world after : World κ} {result : Except Raised (Bytes × Bytes × Json)}
    (begins : magic.isPrefixOf blob = true)
    (opened : openPayload cipher scrypt decoders dataDir blob passphrase timeNs world =
      (result,after)) (kind : Kind) (pass : Option String) (lang : String) :
    (∃ screen, (restorePreview cipher scrypt decoders dataDir passphrase lang timeNs
      ⟨⟨kind,blob,pass⟩,world⟩).1 = .ok screen) ↔ Presentable decoders result := by
  unfold restorePreview inspectBackup
  dsimp only
  rw [if_neg (by simp [begins]),opened]
  cases result with
  | ok payload => exact confirmation_ok_iff decoders payload.2.2 lang
  | error raised => cases raised <;> simp [Presentable]

private theorem opened_validated {blob raw db key : Bytes} {passphrase : String} {summary : Json}
    (decrypted : decryptBackup cipher scrypt blob passphrase = .ok raw)
    (read : contents decoders raw = .ok (db,key,summary)) (sized : key.length = 32)
    (dataDir : String) (timeNs : Nat) (world : World κ) :
    openPayload cipher scrypt decoders dataDir blob passphrase timeNs world =
      ((validateDb decoders dataDir timeNs db world).1.map (fun _ => (db,key,summary)),
        (validateDb decoders dataDir timeNs db world).2) := by
  unfold openPayload
  simp only [decrypted,read,sized,ne_eq,not_true_eq_false,if_false]
  split
  next validated => rw [validated]; rfl
  next validated => rw [validated]; rfl

private theorem contract_of_refused {blob : Bytes} {passphrase message : String} {timeNs : Nat}
    {world after : World κ}
    (opened : openPayload cipher scrypt decoders dataDir blob passphrase timeNs world =
      (.error (.cryptoError message),after)) :
    Contract cipher scrypt decoders dataDir blob passphrase timeNs world := by
  refine ⟨.inr ⟨message,congrArg Prod.fst opened⟩,untouched_openPayload decoders dataDir _ _ _ _,?_⟩
  intro kind pass lang
  cases begins : magic.isPrefixOf blob with
  | true => exact (shows_of_opened begins opened kind pass lang).mpr trivial
  | false => exact ⟨.invalid,by simp [restorePreview,begins]⟩

/-- The contract is kept if and only if the payload, if it decrypts, is plain. -/
theorem contract_iff {β κ : Type} (cipher : Aead β) (scrypt : Bytes → Bytes → β)
    (decoders : Decoders) (dataDir : String) (blob : Bytes) (passphrase : String) (timeNs : Nat)
    (world : World κ) : Contract cipher scrypt decoders dataDir blob passphrase timeNs world ↔
      ∀ raw, decryptBackup cipher scrypt blob passphrase = .ok raw → Plain decoders raw := by
  cases decrypted : decryptBackup cipher scrypt blob passphrase with
  | error fault =>
    obtain ⟨message,rfl⟩ := decryptBackup_error decrypted
    have opened : openPayload cipher scrypt decoders dataDir blob passphrase timeNs world =
        (.error (.cryptoError message),world) := by simp [openPayload,decrypted]
    exact iff_of_true (contract_of_refused opened) (by simp)
  | ok raw =>
    have begins := magic_of_decrypted decrypted
    have plain : (∀ other, (.ok raw : Except CryptoFault Bytes) = .ok other →
        Plain decoders other) ↔ Plain decoders raw := by simp
    rw [plain]
    unfold Plain
    cases read : contents decoders raw with
    | error fault =>
      cases listed : caught fault with
      | true =>
        have opened : openPayload cipher scrypt decoders dataDir blob passphrase timeNs world =
            (.error (.cryptoError "backup content is corrupted"),world) := by
          simp [openPayload,decrypted,read,listed]
        exact iff_of_true (contract_of_refused opened) listed
      | false =>
        have opened : openPayload cipher scrypt decoders dataDir blob passphrase timeNs world =
            (.error (.fault fault),world) := by simp [openPayload,decrypted,read,listed]
        refine iff_of_false ?_ (by simp [listed])
        intro contract
        exact (shows_of_opened begins opened .file none "").mp (contract.shows .file none "")
    | ok payload =>
      obtain ⟨db,key,summary⟩ := payload
      dsimp only
      by_cases sized : key.length = 32
      · have opened := opened_validated decrypted read sized dataDir timeNs world
        cases valid : Schema.validateDb (decoders.sqlite db).file with
        | error fault =>
          obtain ⟨message,rfl⟩ := validateDb_error valid
          simp only [validateDb,valid] at opened
          exact iff_of_true (contract_of_refused opened) (.inr (.inl (by simp)))
        | ok =>
          simp only [validateDb,valid] at opened
          simp only [sized,ne_eq,not_true_eq_false,false_or]
          constructor
          · intro contract
            exact (shows_of_opened begins opened .file none "").mp (contract.shows .file none "")
          · intro presentable
            obtain ⟨members,is,_⟩ := id presentable
            refine ⟨.inl ⟨db,key,members,?_,complete_of_validated valid,sized⟩,
              untouched_openPayload decoders dataDir _ _ _ _,?_⟩
            · rw [opened,is]
              rfl
            · intro kind pass lang
              exact (shows_of_opened begins opened kind pass lang).mpr presentable
      · have opened : openPayload cipher scrypt decoders dataDir blob passphrase timeNs world =
            (.error (.cryptoError "backup key is invalid"),world) := by
          simp [openPayload,decrypted,read,sized]
        exact iff_of_true (contract_of_refused opened) (.inl sized)

end

def corrupted : Decoders where
  unzip _ := .ok fun _ => .error .zlibError
  loads _ := .error .valueError
  sqlite _ := ⟨none,none,none⟩
  fromtimestamp _ := .error .overflowError
  str _ := ""

def corruptedBlob : Bytes :=
  encryptBackup (transparent fun _ : Unit => []) (fun _ _ => ()) ⟨List.replicate 16 0,rfl⟩
    ⟨List.replicate 12 0,length_zeros⟩ (List.replicate 16 0) "secret"

theorem zlib_error_escapes : ¬ ∀ (cipher : Aead Unit) (scrypt : Bytes → Bytes → Unit)
    (decoders : Decoders) (dataDir : String) (blob : Bytes) (passphrase : String) (timeNs : Nat)
    (world : World Bytes),
    Contract cipher scrypt decoders dataDir blob passphrase timeNs world := by
  intro claimed
  have contract := claimed (transparent fun _ => []) (fun _ _ => ()) corrupted "/data"
    corruptedBlob "secret" 0 ⟨∅,none⟩
  have raised : (openPayload (transparent fun _ : Unit => []) (fun _ _ => ()) corrupted "/data"
      corruptedBlob "secret" 0 (⟨∅,none⟩ : World Bytes)).1 = .error (.fault .zlibError) := rfl
  rcases contract.opens with ⟨_,_,_,returned,_⟩ | ⟨_,refused⟩
  · rw [raised] at returned
    contradiction
  · rw [raised] at refused
    simp at refused

end AtronixX.BackupOpening
