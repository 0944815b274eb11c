import AtronixX.Crypto

/-! How a host is connected to: `_open_connection`, `open_trusted` and
`test_connection` of `core/ssh_manager.py`, and the handlers that call them. A
connection authenticates with the credentials of the host before its key is
looked at, so each function also says on which server keys they were used. -/
namespace AtronixX.Connection
open Library.Sealed

/-- The `dict` of a host, its secrets decrypted. `_temp_host` leaves the fingerprint out. -/
structure Host where
  ip : String
  port : Int
  username : String
  authType : String
  secret : String
  passphrase : Option String
  hostFingerprint : Option String
  deriving DecidableEq

structure HostKey where
  publicData : Bytes
  der : Bytes
  deriving DecidableEq

/-- Exceptions of a connection: `SSHConnectError`, its subclass `TargetBlocked`, or
one that the functions here let through. -/
inductive ConnectFault
  | connectError (message : String)
  | targetBlocked (message : String)
  | other
  deriving DecidableEq

inductive ImportFault
  | invalid (message : String)
  | other
  deriving DecidableEq

structure ConnectArgs (κ : Type) where
  host : String
  port : Int
  username : String
  knownHosts : Option (List Bytes)
  connectTimeout : Nat
  keepaliveInterval : Nat
  keepaliveCountMax : Nat
  agentPath : Option String
  password : Option String
  clientKeys : Option (List κ)

inductive ConnectOutcome
  | connected
  | sshError (message : String)
  | networkError (message : String)
  | other
  deriving DecidableEq

/-- One run of `asyncssh.connect`: the key the server showed, whether user
authentication was carried out, and how it ended. -/
structure Attempt where
  serverKey : Option HostKey
  authenticated : Bool
  outcome : ConnectOutcome

/-- What is outside: `resolve_public` with its name server, `asyncssh`, and the
base64 text of a SHA-256 digest. Without known hosts a connection is returned only
after authentication. -/
structure Network (κ : Type) where
  resolvePublic : String → Except ConnectFault String
  importPrivateKey : String → Option String → Except ImportFault κ
  connect : ConnectArgs κ → Attempt
  digest : Bytes → String
  connected_authenticated : ∀ arguments, arguments.knownHosts = none →
    (connect arguments).outcome = .connected → (connect arguments).authenticated = true

variable {κ : Type} (network : Network κ)

def stripPadding (text : String) : String :=
  String.ofList (text.toList.reverse.dropWhile (· = '=')).reverse

def fingerprintOf (key : HostKey) : String :=
  let data := if key.publicData.isEmpty then key.der else key.publicData
  "SHA256:" ++ stripPadding (network.digest data)

/-- The fingerprint that `open_trusted` computes for a connection. -/
def presented (serverKey : Option HostKey) : String :=
  match serverKey with
  | some key => fingerprintOf network key
  | none => "unknown"

structure Connected where
  serverKey : Option HostKey
  deriving DecidableEq

/-- What a function gives back, with the fingerprints of the servers on which the
credentials were used. -/
structure Traced (α : Type) where
  result : α
  released : List String

/-- The credentials of `_open_connection`: a password, or the imported key. -/
def credentials (host : Host) : Except ConnectFault (Option String × Option (List κ)) :=
  if host.authType = "password" then .ok (some host.secret,none)
  else
    -- An empty passphrase counts as none.
    match network.importPrivateKey host.secret (host.passphrase.filter (· ≠ "")) with
    | .ok key => .ok (none,some [key])
    | .error (.invalid message) => .error (.connectError ("invalid key: " ++ message))
    | .error .other => .error .other

def connectArgs (host : Host) (ip : String) (timeout : Nat)
    (secrets : Option String × Option (List κ)) : ConnectArgs κ where
  host := ip
  port := host.port
  username := host.username
  knownHosts := none
  connectTimeout := timeout
  keepaliveInterval := 30
  keepaliveCountMax := 3
  agentPath := none
  password := secrets.1
  clientKeys := secrets.2

def openConnection (host : Host) (timeout : Nat) : Traced (Except ConnectFault Connected) :=
  match network.resolvePublic host.ip with
  | .error fault => ⟨.error fault,[]⟩
  | .ok ip => match credentials network host with
    | .error fault => ⟨.error fault,[]⟩
    | .ok secrets =>
      let attempt := network.connect (connectArgs host ip timeout secrets)
      let released := if attempt.authenticated then [presented network attempt.serverKey] else []
      match attempt.outcome with
      | .connected => ⟨.ok ⟨attempt.serverKey⟩,released⟩
      | .sshError message => ⟨.error (.connectError message),released⟩
      | .networkError message => ⟨.error (.connectError ("network: " ++ message)),released⟩
      | .other => ⟨.error .other,released⟩

/-- How `open_trusted` ends: `HostKeyUntrusted` keeps the connection open. -/
inductive Opened
  | trusted (connection : Connected)
  | untrusted (connection : Connected) (fingerprint : String) (stored : Option String)
  | fault (raised : ConnectFault)
  deriving DecidableEq

/-- `open_trusted`. An empty stored fingerprint counts as none. -/
def openTrusted (host : Host) : Traced Opened :=
  let attempt := openConnection network host 12
  match attempt.result with
  | .error raised => ⟨.fault raised,attempt.released⟩
  | .ok connection =>
    let fingerprint := presented network connection.serverKey
    if host.hostFingerprint = some fingerprint ∧ fingerprint ≠ "" then
      ⟨.trusted connection,attempt.released⟩
    else ⟨.untrusted connection fingerprint host.hostFingerprint,attempt.released⟩

/-- `test_connection`, without its time measurement: whether it succeeded, and the
error; a `TargetBlocked` is an `SSHConnectError`. -/
def testConnection (host : Host) : Traced (Except ConnectFault (Bool × Option String)) :=
  let attempt := openConnection network host 8
  match attempt.result with
  | .ok _ => ⟨.ok (true,none),attempt.released⟩
  | .error (.connectError message) => ⟨.ok (false,some message),attempt.released⟩
  | .error (.targetBlocked message) => ⟨.ok (false,some message),attempt.released⟩
  | .error .other => ⟨.error .other,attempt.released⟩

/-- The data of the wizard, `_temp_host`. -/
def tempHost (host : Host) : Host := {host with hostFingerprint := none}

inductive Shown
  | dispatched
  | hostKeyChanged (fingerprint old : String)
  | hostKeyPrompt (fingerprint : String)
  | blocked
  | connectFailed (message : String)
  | internalError
  | testOk
  | testFail (message : String)
  | raised
  deriving DecidableEq

def cut (length : Nat) (text : String) : String := String.ofList (text.toList.take length)

def runAction (host : Host) : Traced Shown :=
  let opened := openTrusted network host
  let shown := match opened.result with
    | .trusted _ => .dispatched
    | .untrusted _ fingerprint stored =>
      if stored.getD "" ≠ "" then .hostKeyChanged fingerprint (stored.getD "")
      else .hostKeyPrompt fingerprint
    | .fault (.targetBlocked _) => .blocked
    | .fault (.connectError message) => .connectFailed (cut 300 message)
    | .fault .other => .internalError
  ⟨shown,opened.released⟩

def showTest (length : Nat) (tested : Except ConnectFault (Bool × Option String)) : Shown :=
  match tested with
  | .ok (true,_) => .testOk
  | .ok (false,message) => .testFail (cut length (message.getD ""))
  | .error _ => .raised

def cbTest (host : Host) : Traced Shown :=
  let tested := testConnection network host
  ⟨showTest 300 tested.result,tested.released⟩

def wizardTest (host : Host) : Traced Shown :=
  let tested := testConnection network (tempHost host)
  ⟨showTest 200 tested.result,tested.released⟩

/-- The ways to connect. Terminal, SFTP and monitor start with `_run_action`. -/
inductive Entry
  | start
  | test
  | wizard
  deriving DecidableEq

def enter (entry : Entry) (host : Host) : Traced Shown :=
  match entry with
  | .start => runAction network host
  | .test => cbTest network host
  | .wizard => wizardTest network host

def Entry.host (entry : Entry) (host : Host) : Host :=
  match entry with
  | .wizard => tempHost host
  | _ => host

def Entry.timeout : Entry → Nat
  | .start => 12
  | _ => 8

/-- The host key is the stored one, or the user approved it for this host. -/
def Trusted (host : Host) (approved : List String) (fingerprint : String) : Prop :=
  host.hostFingerprint = some fingerprint ∨ fingerprint ∈ approved

/-- Every server that saw the credentials had a trusted key. -/
def OnlyTrusted (entry : Entry) (host : Host) (approved : List String) : Prop :=
  ∀ fingerprint ∈ (enter network entry host).released,
    Trusted (entry.host host) approved fingerprint

/-- The run of `asyncssh.connect` that an entry point gets to, if it gets there. -/
def reachedAttempt (entry : Entry) (host : Host) : Option Attempt :=
  match network.resolvePublic host.ip, credentials network host with
  | .ok ip, .ok secrets =>
    some (network.connect (connectArgs host ip entry.timeout secrets))
  | _, _ => none

theorem openConnection_released (host : Host) (timeout : Nat) :
    (openConnection network host timeout).released =
      match network.resolvePublic host.ip, credentials network host with
      | .ok ip, .ok secrets =>
        let attempt := network.connect (connectArgs host ip timeout secrets)
        if attempt.authenticated then [presented network attempt.serverKey] else []
      | _, _ => [] := by
  unfold openConnection
  cases network.resolvePublic host.ip with
  | error fault => rfl
  | ok ip =>
    cases credentials network host with
    | error fault => rfl
    | ok secrets =>
      dsimp only
      split <;> rfl

theorem openTrusted_released (host : Host) :
    (openTrusted network host).released = (openConnection network host 12).released := by
  unfold openTrusted
  dsimp only
  split
  · rfl
  · split <;> rfl

theorem testConnection_released (host : Host) :
    (testConnection network host).released = (openConnection network host 8).released := by
  unfold testConnection
  dsimp only
  split <;> rfl

/-- No entry point looks at the key before the credentials are used. -/
theorem enter_released (entry : Entry) (host : Host) :
    (enter network entry host).released = match reachedAttempt network entry host with
      | none => []
      | some attempt =>
        if attempt.authenticated then [presented network attempt.serverKey] else [] := by
  have connection : (enter network entry host).released =
      (openConnection network (entry.host host) entry.timeout).released := by
    cases entry with
    | start => exact openTrusted_released network host
    | test => exact testConnection_released network host
    | wizard => exact testConnection_released network (tempHost host)
  rw [connection,openConnection_released]
  have same (ip : String) (secrets : Option String × Option (List κ)) :
      connectArgs (entry.host host) ip entry.timeout secrets =
        connectArgs host ip entry.timeout secrets := by
    cases entry <;> rfl
  have target : (entry.host host).ip = host.ip := by cases entry <;> rfl
  have secrets : credentials network (entry.host host) = credentials network host := by
    cases entry <;> rfl
  simp only [target,secrets,same,reachedAttempt]
  split <;> simp_all

/-- The credentials go to trusted servers only, exactly when the attempt ends before
authentication or the server shows a trusted key. -/
theorem onlyTrusted_iff (entry : Entry) (host : Host) (approved : List String) :
    OnlyTrusted network entry host approved ↔
      ∀ attempt, reachedAttempt network entry host = some attempt →
        attempt.authenticated = false ∨
        Trusted (entry.host host) approved (presented network attempt.serverKey) := by
  unfold OnlyTrusted
  rw [enter_released]
  cases reached : reachedAttempt network entry host with
  | none => simp
  | some attempt =>
    cases used : attempt.authenticated with
    | false => simp [used]
    | true => simp [used]

theorem openConnection_ok (host : Host) (timeout : Nat) (connection : Connected)
    (opened : (openConnection network host timeout).result = .ok connection) :
    (openConnection network host timeout).released =
      [presented network connection.serverKey] := by
  unfold openConnection at opened ⊢
  cases resolved : network.resolvePublic host.ip with
  | error fault => simp [resolved] at opened
  | ok ip =>
    cases imported : credentials network host with
    | error fault => simp [resolved,imported] at opened
    | ok secrets =>
      simp only [resolved,imported] at opened ⊢
      split at opened
      next connected =>
        have used := network.connected_authenticated (connectArgs host ip timeout secrets) rfl connected
        cases Except.ok.inj opened
        simp only [used,if_true]
      all_goals contradiction

/-- Also a host key that is then refused was shown the credentials first. -/
theorem openTrusted_untrusted (host : Host) (connection : Connected) (fingerprint : String)
    (stored : Option String)
    (refused : (openTrusted network host).result = .untrusted connection fingerprint stored) :
    (openTrusted network host).released = [fingerprint] := by
  unfold openTrusted at refused
  dsimp only at refused
  split at refused
  next => contradiction
  next opened connected =>
    have released := openConnection_ok network host 12 opened connected
    split at refused
    next => contradiction
    next =>
      cases refused
      rw [openTrusted_released,released]

/-- The name server and the server answer; the server's key is not the stored one. -/
def impostor : Network Unit where
  resolvePublic _ := .ok "203.0.113.5"
  importPrivateKey _ _ := .ok ()
  connect _ := ⟨some ⟨[1],[1]⟩,true,.connected⟩
  digest _ := "bmV3a2V5="
  connected_authenticated _ _ _ := rfl

def knownHost : Host where
  ip := "example.org"
  port := 22
  username := "root"
  authType := "password"
  secret := "hunter2"
  passphrase := none
  hostFingerprint := some "SHA256:b2xka2V5"

/-- The password of a known host goes to a server with another key. -/
theorem changed_key_gets_password : ¬ ∀ (network : Network Unit) (entry : Entry) (host : Host)
    (approved : List String), OnlyTrusted network entry host approved := by
  intro claimed
  have trusted := claimed impostor .start knownHost []
  have released : (enter impostor .start knownHost).released = ["SHA256:bmV3a2V5"] := by decide
  have wrong := trusted "SHA256:bmV3a2V5" (by simp [released])
  simp [Trusted,Entry.host,knownHost] at wrong

end AtronixX.Connection
