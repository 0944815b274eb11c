import Mathlib.Data.Int.Log
import Mathlib.Data.List.ReduceOption
import AtronixX.BackupOpening
import AtronixX.RenderLoop
import AtronixX.Strings
import AtronixX.Subscriptions
import AtronixX.Wizard

/-! The HTML that is put together from texts of users and of servers: `_wiz_text`,
`format_monitor`, `_compose`, the texts of `t` around them, and whatever is passed as `Raw`. -/
namespace AtronixX.Messages
open Library.Text Library.Numerals Library.Markup Database Strings
open BackupOpening (Moment zeros)

def esc : Text → Text := escape true

/-- What is left of a text by its truth value. -/
def given (text : Option Text) : Option Text := text.filter fun text => text ≠ []

def joined (rows : List Text) : Text := ['\n'].intercalate rows

section
variable (strings : Table)

def stepNo : Wizard.Step → Nat
  | .label => 1
  | .addr => 2
  | .port => 3
  | .user => 4
  | .auth => 5
  | .secret => 6
  | .pass => 6
  | .confirm => 7

def stepKey : Wizard.Step → String
  | .label => "wz_label"
  | .addr => "wz_addr"
  | .port => "wz_port"
  | .user => "wz_user"
  | .auth => "wz_auth"
  | .secret => "wz_secret"
  | .pass => "wz_pass"
  | .confirm => "wz_confirm"

def headKw (step : Wizard.Step) : Kw :=
  [("n",.str (str (stepNo step))),("total",.str "7".toList)]

def labelLine (label : Text) : Text := "🏷 <b>".toList ++ esc label ++ "</b>".toList

def portText : Option Int → Text
  | none => []
  | some port => if port = 0 then [] else ":".toList ++ strInt port

def addrLine (port : Option Int) (ip : Text) : Text :=
  "🌐 <code>".toList ++ esc ip ++ portText port ++ "</code>".toList

def userLine (username : Text) : Text := "👤 <code>".toList ++ esc username ++ "</code>".toList

def lines (data : Wizard.Data) : List (Option Text) :=
  [(given data.label).map labelLine,(given data.ip).map (addrLine data.port),
    (given data.username).map userLine]

def summary (flow : Wizard.Flow) : Text :=
  let lines := (lines flow.data).reduceOption
  if lines ≠ [] ∧ flow.step ≠ .confirm then joined lines ++ "\n\n".toList else []

def confirmKw (lang : String) (data : Wizard.Confirmation) : Kw :=
  [("label",.str data.label),("addr",.str (data.ip ++ ":".toList ++ strInt data.port)),
    ("user",.str data.username),("auth",.str (t strings data.auth lang []))]

def prompt (flow : Wizard.Flow) (lang : String) : Except Wizard.Raise Text :=
  match flow.step with
  | .secret =>
    let key := if flow.data.auth = some "key".toList then "wz_secret_key" else "wz_secret_pw"
    .ok (t strings key lang [])
  | .confirm => (Wizard.confirmation flow.data).map fun data =>
    t strings "wz_confirm" lang (confirmKw strings lang data)
  | step => .ok (t strings (stepKey step) lang [])

def wizText (flow : Wizard.Flow) (lang : String) (notice : Option Text) :
    Except Wizard.Raise Text :=
  (prompt strings flow lang).map fun prompt =>
    let head := t strings "wz_head" lang (headKw flow.step)
    let body := head ++ "\n\n".toList ++ summary flow ++ prompt
    match given notice with
    | none => body
    | some notice => body ++ "\n\n".toList ++ notice

/-- The notice of `cb_wizard` after a test. -/
def testNotice (lang : String) (ok : Bool) (ms : Int) (err : Option Text) : Text :=
  if ok then t strings "test_ok_short" lang [("ms",.str (strInt ms))]
  else t strings "test_fail_short" lang [("err",.str ((err.getD []).take 200))]

/-- A half goes to the even neighbour. -/
def roundEven (value : ℚ) : Int :=
  let rest := value - ⌊value⌋
  if rest < 1 / 2 ∨ rest = 1 / 2 ∧ ⌊value⌋ % 2 = 0 then ⌊value⌋ else ⌊value⌋ + 1

/-- The nearest double. -/
def nearest (value : ℚ) : ℚ :=
  let unit : ℚ := 2 ^ max (Int.log 2 |value| - 52) (-1074)
  roundEven (value / unit) * unit

/-- `one / two`; `none` is an `OverflowError`. -/
def quotient (one two : Int) : Option ℚ :=
  let value := nearest (one / two)
  if |value| < 2 ^ 1024 then some value else none

/-- `f"{value:.1f}"`. -/
def tenths (value : ℚ) : Text :=
  let number := (roundEven (10 * |value|)).toNat
  (if value < 0 then ['-'] else []) ++ str (number / 10) ++ '.' :: str (number % 10)

/-- Where `str.splitlines` splits, beside the pair of a carriage return and a newline. -/
def lineBreak (char : Char) : Bool :=
  let code := char.toNat
  (10 ≤ code && code ≤ 13) || (28 ≤ code && code ≤ 30) || code == 0x85 || code == 0x2028 ||
    code == 0x2029

def splitlines : Text → List Text
  | [] => []
  | '\r' :: '\n' :: rest => [] :: splitlines rest
  | char :: rest =>
    if lineBreak char then [] :: splitlines rest
    else match splitlines rest with
      | [] => [[char]]
      | line :: lines => (char :: line) :: lines

/-- `str.split` without an argument. -/
def split (text : Text) : List Text := (text.splitOnP isSpace).filter fun part => part ≠ []

def bar (pct : ℚ) : Text :=
  let filled := (max 0 (min 10 (roundEven (nearest (pct / 10))))).toNat
  List.replicate filled '▰' ++ List.replicate (10 - filled) '▱'

/-- `p[index]` after the padding, stripped. -/
def column (out : Text) (index : Nat) : Text :=
  strip ((((splitlines (strip out)).getLast?.getD []).splitOn '|').getD index [])

def osRow (lang : String) (osname hostname : Text) : Option Text :=
  if osname = [] ∧ hostname = [] then none
  else some ("🐧 <b>".toList ++ t strings "mon_os" lang [] ++ ":</b> ".toList ++
    esc (if osname = [] then "—".toList else osname) ++
    if hostname = [] then [] else " · <code>".toList ++ esc hostname ++ "</code>".toList)

def loadRow (lang : String) (load cores : Text) : Option Text :=
  if load = [] then none
  else some ("⚙️ <b>CPU load:</b> <code>".toList ++ esc load ++ "</code>".toList ++
    if cores = [] then []
    else " · ".toList ++ t strings "mon_cores" lang [] ++ ": <code>".toList ++ esc cores ++
      "</code>".toList)

def uptimeRow (lang : String) (uptime : Text) : Option Text :=
  if uptime = [] then none
  else some ("⏱ <b>".toList ++ t strings "mon_uptime" lang [] ++ ":</b> ".toList ++ esc uptime)

def ramText (used total : Int) : Option Text := (quotient (used * 100) total).map fun pct =>
  "🧠 <b>RAM</b>  ".toList ++ bar pct ++ " ".toList ++ strInt (roundEven pct) ++
    "%\n      <code>".toList ++ strInt used ++ " / ".toList ++ strInt total ++ " MB</code>".toList

def diskText (used total : Int) : Option Text :=
  match quotient (used * 100) total,quotient used 1048576,quotient total 1048576 with
  | some pct,some used,some total => some (
    "💽 <b>Disk</b> ".toList ++ bar pct ++ " ".toList ++ strInt (roundEven pct) ++
      "%\n      <code>".toList ++ tenths used ++ " / ".toList ++ tenths total ++
      " GB</code>".toList)
  | _,_,_ => none

section
variable (unicode : Unicode)

def ints (text : Text) (n : Nat) : Option (List Int) :=
  let parts := split text
  if parts.length < n then none else (parts.take n).mapM (int unicode)

def gaugeRow (row : Int → Int → Option Text) (text : Text) : Option (Option Text) :=
  match ints unicode text 2 with
  | some [total,used] => if total > 0 then (row used total).map some else some none
  | _ => some none

/-- `none` is an `OverflowError`. -/
def formatMonitor (out : Text) (lang : String) : Option Text :=
  match gaugeRow unicode ramText (column out 2),gaugeRow unicode diskText (column out 3) with
  | some ram,some disk =>
    let rows := [osRow strings lang (column out 5) (column out 6),ram,disk,
      loadRow strings lang (column out 1) (column out 0),
      uptimeRow strings lang (column out 4)].reduceOption
    some (if rows = [] then t strings "mon_no_data" lang [] else joined rows)
  | _,_ => none

/-- The body in `launch_monitor`: of an output that may be no text, or of a timeout. -/
def monitorBody (output : Option (Option Text)) (lang : String) : Option Text :=
  match output with
  | none => some (t strings "mon_timeout" lang [])
  | some stdout => formatMonitor strings unicode (stdout.getD []) lang

def monitorKw (label : Text) (output : Option (Option Text)) (lang : String) : Option Kw :=
  (monitorBody strings unicode output lang).map fun body =>
    [("label",.str label),("body",.raw body)]

end

def caption (brandHeader label ip : Text) (lang : String) : RenderLoop.Caption :=
  ⟨brandHeader,label,ip,t strings "terminal_hint" lang []⟩

structure Clock where
  time : ℚ
  /-- `datetime.fromtimestamp` in the configured zone. -/
  fromtimestamp : Int → Option Moment

variable (clock : Clock)

def fmtDt (ts : Option Int) (lang : String) (withTime : Bool) : Option Text :=
  if ts.getD 0 = 0 then some "—".toList
  else (clock.fromtimestamp (ts.getD 0)).map fun dt =>
    let time := zeros 2 dt.hour ++ ":" ++ zeros 2 dt.minute
    let day := JalaliDate.gregorianToJalali dt.year dt.month dt.day
    String.toList <|
      if lang = "fa" then
        zeros 4 day.year ++ "/" ++ zeros 2 day.month ++ "/" ++ zeros 2 day.day ++
          if withTime then " · " ++ time else ""
      else zeros 4 dt.year ++ "-" ++ zeros 2 dt.month ++ "-" ++ zeros 2 dt.day ++
        if withTime then " " ++ time else ""

def statusLine (admin : Bool) (mode : Mode) (user : UserRow) (lang : String) (hostsN : Nat) :
    Option Text :=
  if admin then some (t strings "st_admin" lang [])
  else match mode with
    | .free => some (t strings "st_free" lang [])
    | .paid => (fmtDt clock user.subExpiresAt lang true).map fun until_ =>
      t strings "st_paid" lang [("until",.str until_),
        ("days",.str (strInt (Subscriptions.daysLeft clock.time user.subExpiresAt))),
        ("used",.str (str hostsN)),("max",.str (strInt user.subMaxHosts))]

def mainMenuKw (admin : Bool) (mode : Mode) (user : UserRow) (lang : String) (n : Nat) :
    Option Kw :=
  (statusLine strings clock admin mode user lang n).map fun status =>
    [("name",.str ((given (user.firstName.map String.toList)).getD (t strings "friend" lang []))),
      ("status",.raw status),("hosts",.str (str n))]

def accountKw (admin : Bool) (mode : Mode) (uid : Int) (user : UserRow) (lang : String) (n : Nat) :
    Option Kw :=
  match fmtDt clock (some user.createdAt) lang false,
      statusLine strings clock admin mode user lang n with
  | some joined,some status => some [("uid",.str (strInt uid)),("joined",.str joined),
    ("hosts",.str (str n)),("status",.raw status)]
  | _,_ => none

def display (user : UserRow) : Text :=
  let name := strip ((user.firstName.map String.toList).getD [])
  let username := given (user.username.map String.toList)
  (if name = [] then username.elim "—".toList (fun name => '@' :: name) else name).take 22

def sub (user : UserRow) (lang : String) : Option Text :=
  let exp := user.subExpiresAt.getD 0
  if exp = 0 then some (t strings "sub_none" lang [])
  else (fmtDt clock exp lang true).map fun until_ =>
    if clock.time < exp then
      t strings "sub_active" lang [("until",.str until_),
        ("days",.str (strInt (Subscriptions.daysLeft clock.time exp))),
        ("max",.str (strInt user.subMaxHosts))]
    else t strings "sub_expired" lang [("until",.str until_)]

def yesNo (lang : String) (answer : Bool) : Value :=
  .str (t strings (if answer then "yes" else "no") lang [])

def userKw (uid : Int) (user : UserRow) (hostCount : Nat) (live : Bool) (lang : String) :
    Option Kw :=
  match sub strings clock user lang,fmtDt clock (some user.createdAt) lang true,
      fmtDt clock user.lastSeen lang true with
  | some sub,some joined,some seen =>
    let username := given (user.username.map String.toList)
    some [("name",.str (display user)),
      ("username",.str (username.elim "—".toList fun name => '@' :: name)),
      ("uid",.str (strInt uid)),("joined",.str joined),("seen",.str seen),
      ("hosts",.str (str hostCount)),("sub",.raw sub),("banned",yesNo strings lang user.isBanned),
      ("live",yesNo strings lang live),("started",yesNo strings lang user.started)]
  | _,_,_ => none

end

section
variable (strings : Table)

def noRaw : Text → List Text := fun _ => []

def summaryShown (flow : Wizard.Flow) : List Text :=
  if flow.step = .confirm then []
  else [given flow.data.label,given flow.data.ip,given flow.data.username].reduceOption

def promptShown (flow : Wizard.Flow) (lang : String) : List Text :=
  match flow.step,Wizard.confirmation flow.data with
  | .confirm,.ok data => tShown noRaw strings "wz_confirm" lang (confirmKw strings lang data)
  | _,_ => []

def wizShown (flow : Wizard.Flow) (lang : String) (notice : Option Text) (carried : List Text) :
    List Text :=
  tShown noRaw strings "wz_head" lang (headKw flow.step) ++ summaryShown flow ++
    promptShown strings flow lang ++ if given notice = none then [] else carried

def monitorShown (out : Text) : List (List Text) :=
  let shown := fun index => (given (some (column out index))).toList
  [shown 5 ++ shown 6,[],[],if column out 1 = [] then [] else column out 1 :: shown 0,shown 4]

/-- The texts that stand in the builders. -/
def code : List String :=
  ["\n","\n\n","🏷 <b>","</b>","🌐 <code>",":","</code>","👤 <code>","—","🐧 <b>",":</b> ",
    " · <code>","🧠 <b>RAM</b>  "," ","%\n      <code>"," / "," MB</code>","💽 <b>Disk</b> ",
    " GB</code>","⚙️ <b>CPU load:</b> <code>"," · ",": <code>","⏱ <b>","▰","▱","<b>","</b> 🖥 ",
    "\n<code>","</code>\n\n<pre>","</pre>\n"]

/-- The keys that the builders ask for. -/
def codeKeys : List String :=
  ["wz_head","wz_label","wz_addr","wz_port","wz_user","wz_auth","wz_secret_key","wz_secret_pw",
    "wz_pass","wz_confirm","auth_pw","auth_key","test_ok_short","test_fail_short",
    "mon_os","mon_cores","mon_uptime","mon_no_data","mon_timeout","terminal_hint","st_admin",
    "st_free","st_paid","sub_none","sub_active","sub_expired"]

/-- A key of the builders, or one of others that call `t`. -/
def Asked (keys : Set String) (key : String) : Prop := key ∈ codeKeys ∨ key ∈ keys

inductive Fixed (keys : Set String) : Text → Prop
  | written {text : Text} : Written strings {key | Asked keys key} text → Fixed keys text
  | code {text : String} : text ∈ code → Fixed keys text.toList
  | stripped {text : Text} : Fixed keys text → Fixed keys (strip text)

variable (unicode : Unicode)

/-- The messages that these functions build, with the values in them; they nest. -/
inductive Built (keys : Set String) : Text → List Text → Prop
  | t {key lang : String} {kw : Kw} {inner : Text → List Text} :
    Asked keys key → (∀ name text, (name,.raw text) ∈ kw → Built keys text (inner text)) →
      Built keys (t strings key lang kw) (tShown inner strings key lang kw)
  | wizText {flow : Wizard.Flow} {lang : String} {notice : Option Text} {carried : List Text}
      {text : Text} :
    (∀ appended, notice = some appended → Built keys appended carried) →
      wizText strings flow lang notice = .ok text →
        Built keys text (wizShown strings flow lang notice carried)
  | formatMonitor {out : Text} {lang : String} {text : Text} :
    formatMonitor strings unicode out lang = some text → Built keys text (monitorShown out).flatten
  | compose {view : RenderedView.View} {limit : Nat}
      {terminal : Scrollback.Terminal view.toPyte limit} {brandHeader label ip : Text}
      {lang : String} :
    Built keys (RenderLoop.compose (caption strings brandHeader label ip lang) terminal)
      [brandHeader,label,ip,(RenderedView.render terminal).rtake 3300]
  | followed {one two : Text} {values others : List Text} :
    Built keys one values → Built keys two others →
      Built keys (one ++ "\n\n".toList ++ two) (values ++ others)

/-- What is passed as `Raw` has been built, so that the text around it is a message as well. -/
def RawsBuilt (keys : Set String) (kw : Kw) : Prop :=
  ∃ inner : Text → List Text, ∀ name text, (name,.raw text) ∈ kw →
    Built strings unicode keys text (inner text)

end

section
variable {strings : Table} {unicode : Unicode} {keys : Set String}

theorem code_message (text : String) (member : text ∈ code) :
    Message (Fixed strings keys) text.toList [] := .ofMarkup (.code member)

theorem t_built {key : String} (lang : String) (asked : Asked keys key) {kw : Kw}
    {inner : Text → List Text}
    (raws : ∀ name text, (name,.raw text) ∈ kw → Message (Fixed strings keys) text (inner text)) :
    Message (Fixed strings keys) (t strings key lang kw) (tShown inner strings key lang kw) :=
  t_message lang (fun _ written => .written written) asked raws

theorem t_given {key : String} (lang : String) (member : key ∈ codeKeys) {kw : Kw}
    (plain : ∀ name text, (name,.raw text) ∉ kw) :
    Message (Fixed strings keys) (t strings key lang kw) (tShown noRaw strings key lang kw) :=
  t_built lang (.inl member) fun name text raw => absurd raw (plain name text)

theorem t_fixed (key lang : String) (member : key ∈ codeKeys) :
    Fixed strings keys (t strings key lang []) := .written (t_written lang (.inl member))

theorem t_plain (key lang : String) (member : key ∈ codeKeys) :
    Message (Fixed strings keys) (t strings key lang []) [] := .ofMarkup (t_fixed key lang member)

private theorem strInt_numeral (value : Int) : (strInt value).all numeral = true := by
  have digits : ∀ number, ∀ char ∈ str number, numeral char = true := by
    intro number char member
    unfold numeral
    rw [isDigit_of_mem_str member]
    rfl
  rw [List.all_eq_true]
  cases value with
  | ofNat number => exact digits number
  | negSucc number =>
    intro char member
    cases List.mem_cons.mp member with
    | inl sign =>
      rw [sign]
      rfl
    | inr digit => exact digits (number + 1) char digit

theorem strInt_message (value : Int) : Message (Fixed strings keys) (strInt value) [] :=
  .ofNumber (strInt_numeral value)

theorem esc_message (text : Text) : Message (Fixed strings keys) (esc text) [text] :=
  .ofValue true text

theorem portText_message (port : Option Int) : Message (Fixed strings keys) (portText port) [] := by
  unfold portText
  cases port with
  | none => exact .nil
  | some port =>
    dsimp only
    split
    next => exact .nil
    next => exact (code_message ":" (by simp [code])).append (strInt_message port)

private theorem line_message {line : Text → Text}
    (built : ∀ text, Message (Fixed strings keys) (line text) [text]) (value : Option Text) :
    Row (Fixed strings keys) (value.map line) value.toList := by
  cases value with
  | none => rfl
  | some text => exact built text

theorem labelLine_message (label : Text) :
    Message (Fixed strings keys) (labelLine label) [label] :=
  ((code_message "🏷 <b>" (by simp [code])).append (esc_message label)).append
    (code_message "</b>" (by simp [code]))

theorem addrLine_message (port : Option Int) (ip : Text) :
    Message (Fixed strings keys) (addrLine port ip) [ip] :=
  (((code_message "🌐 <code>" (by simp [code])).append (esc_message ip)).append
    (portText_message port)).append (code_message "</code>" (by simp [code]))

theorem userLine_message (username : Text) :
    Message (Fixed strings keys) (userLine username) [username] :=
  ((code_message "👤 <code>" (by simp [code])).append (esc_message username)).append
    (code_message "</code>" (by simp [code]))

private theorem flatten_toList (values : List (Option Text)) :
    (values.map Option.toList).flatten = values.reduceOption := by
  induction values with
  | nil => rfl
  | cons value values ih =>
    cases value with
    | none => exact ih
    | some text => exact congrArg (text :: ·) ih

theorem lines_message (data : Wizard.Data) :
    Message (Fixed strings keys) (joined (lines data).reduceOption)
      [given data.label,given data.ip,given data.username].reduceOption := by
  have newline : Fixed strings keys ['\n'] := .code (by simp [code] : "\n" ∈ code)
  have shown := flatten_toList [given data.label,given data.ip,given data.username]
  rw [← shown]
  exact .rows newline (.cons (line_message labelLine_message (given data.label))
    (.cons (line_message (addrLine_message data.port) (given data.ip))
      (.cons (line_message userLine_message (given data.username)) .nil)))

theorem summary_message (flow : Wizard.Flow) :
    Message (Fixed strings keys) (summary flow) (summaryShown flow) := by
  have lines : Message (Fixed strings keys) _ _ := lines_message flow.data
  unfold summary summaryShown
  by_cases confirm : flow.step = .confirm
  · simpa [confirm] using Message.nil
  · by_cases empty : (Messages.lines flow.data).reduceOption = []
    · rw [empty] at lines
      simpa [confirm,empty,joined] using lines
    · have whole := lines.append (code_message "\n\n" (by simp [code]))
      simpa [confirm,empty] using whole

theorem prompt_message {flow : Wizard.Flow} {lang : String} {text : Text}
    (asked : prompt strings flow lang = .ok text) :
    Message (Fixed strings keys) text (promptShown strings flow lang) := by
  unfold prompt at asked
  unfold promptShown
  cases step : flow.step with
  | confirm =>
    rw [step] at asked
    cases found : Wizard.confirmation flow.data with
    | error raised =>
      rw [found] at asked
      contradiction
    | ok data =>
      rw [found] at asked
      cases asked
      exact t_given lang (by simp [codeKeys]) (by simp [confirmKw])
  | secret =>
    rw [step] at asked
    cases asked
    dsimp only
    split
    next => exact t_plain _ lang (by simp [codeKeys])
    next => exact t_plain _ lang (by simp [codeKeys])
  | _ =>
    rw [step] at asked
    cases asked
    exact t_plain _ lang (by simp [codeKeys,stepKey])

theorem wizText_message {flow : Wizard.Flow} {lang : String} {notice : Option Text}
    {carried : List Text} {text : Text}
    (appended : ∀ text, notice = some text → Message (Fixed strings keys) text carried)
    (built : wizText strings flow lang notice = .ok text) :
    Message (Fixed strings keys) text (wizShown strings flow lang notice carried) := by
  unfold wizText at built
  cases asked : prompt strings flow lang with
  | error raised =>
    rw [asked] at built
    contradiction
  | ok prompt =>
    rw [asked] at built
    have head : Message (Fixed strings keys) (t strings "wz_head" lang (headKw flow.step)) _ :=
      t_given lang (by simp [codeKeys]) (by simp [headKw])
    have blank : Message (Fixed strings keys) "\n\n".toList [] := code_message _ (by simp [code])
    have body := ((head.append blank).append (summary_message flow)).append (prompt_message asked)
    rw [List.append_nil] at body
    cases built
    unfold wizShown
    cases shown : given notice with
    | none => simpa using body
    | some text =>
      have same := (Option.filter_eq_some_iff.mp shown).1
      have whole := (body.append blank).append (appended text same)
      rw [List.append_nil] at whole
      exact whole

/-- The wizard raises for a message exactly when its text cannot be built. -/
theorem render_eq (flow : Wizard.Flow) (lang : String) (notice : Option Text) :
    Wizard.render flow = match wizText strings flow lang notice with
      | .error raised => Wizard.raise flow raised
      | .ok _ => Wizard.stay flow := by
  unfold Wizard.render wizText prompt
  cases flow.step with
  | confirm => cases Wizard.confirmation flow.data <;> rfl
  | _ => rfl

theorem bar_message (pct : ℚ) : Message (Fixed strings keys) (bar pct) [] := by
  have full : Fixed strings keys ['▰'] := .code (by simp [code] : "▰" ∈ code)
  have rest : Fixed strings keys ['▱'] := .code (by simp [code] : "▱" ∈ code)
  exact (Message.ofReplicate full _).append (.ofReplicate rest _)

theorem tenths_message (value : ℚ) : Message (Fixed strings keys) (tenths value) [] := by
  have sign : Message (Fixed strings keys) (if value < 0 then ['-'] else []) [] := by
    split
    next => exact .ofNumber rfl
    next => exact .nil
  have number : ∀ count : Nat, (str count).all numeral = true := fun count => strInt_numeral count
  have point : ∀ count : Nat, ('.' :: str count).all numeral = true := fun count => number count
  exact (sign.append (.ofNumber (number _))).append (.ofNumber (point _))

@[simp] theorem given_nil : given (some []) = none := rfl

@[simp] theorem given_of_ne_nil {text : Text} (nonempty : text ≠ []) :
    given (some text) = some text := by
  simp [given,nonempty]

private theorem optional_message {text part : Text}
    (built : text ≠ [] → Message (Fixed strings keys) part [text]) :
    Message (Fixed strings keys) (if text = [] then [] else part) (given (some text)).toList := by
  by_cases empty : text = []
  · rw [if_pos empty,empty]
    exact .nil
  · rw [if_neg empty,given_of_ne_nil empty]
    exact built empty

theorem osRow_message (lang : String) (osname hostname : Text) :
    Row (Fixed strings keys) (osRow strings lang osname hostname)
      ((given (some osname)).toList ++ (given (some hostname)).toList) := by
  have named : Message (Fixed strings keys) (esc (if osname = [] then "—".toList else osname))
      (given (some osname)).toList := by
    by_cases empty : osname = []
    · rw [if_pos empty,empty]
      exact code_message "—" (by simp [code])
    · rw [if_neg empty,given_of_ne_nil empty]
      exact esc_message osname
  have host : Message (Fixed strings keys)
      (if hostname = [] then [] else " · <code>".toList ++ esc hostname ++ "</code>".toList)
      (given (some hostname)).toList :=
    optional_message fun _ => ((code_message " · <code>" (by simp [code])).append
      (esc_message hostname)).append (code_message "</code>" (by simp [code]))
  unfold osRow
  split
  next both =>
    rw [both.1,both.2]
    rfl
  next =>
    exact ((((code_message "🐧 <b>" (by simp [code])).append
      (t_plain "mon_os" lang (by simp [codeKeys]))).append
      (code_message ":</b> " (by simp [code]))).append named).append host

theorem loadRow_message (lang : String) (load cores : Text) :
    Row (Fixed strings keys) (loadRow strings lang load cores)
      (if load = [] then [] else load :: (given (some cores)).toList) := by
  have counted : Message (Fixed strings keys)
      (if cores = [] then [] else " · ".toList ++ t strings "mon_cores" lang [] ++
        ": <code>".toList ++ esc cores ++ "</code>".toList) (given (some cores)).toList :=
    optional_message fun _ => ((((code_message " · " (by simp [code])).append
      (t_plain "mon_cores" lang (by simp [codeKeys]))).append
        (code_message ": <code>" (by simp [code]))).append (esc_message cores)).append
          (code_message "</code>" (by simp [code]))
  unfold loadRow
  by_cases empty : load = []
  · rw [if_pos empty,if_pos empty]
    rfl
  · rw [if_neg empty,if_neg empty]
    exact (((code_message "⚙️ <b>CPU load:</b> <code>" (by simp [code])).append
      (esc_message load)).append (code_message "</code>" (by simp [code]))).append counted

theorem uptimeRow_message (lang : String) (uptime : Text) :
    Row (Fixed strings keys) (uptimeRow strings lang uptime) (given (some uptime)).toList := by
  unfold uptimeRow
  by_cases empty : uptime = []
  · rw [if_pos empty,empty]
    rfl
  · rw [if_neg empty,given_of_ne_nil empty]
    exact (((code_message "⏱ <b>" (by simp [code])).append
      (t_plain "mon_uptime" lang (by simp [codeKeys]))).append
      (code_message ":</b> " (by simp [code]))).append (esc_message uptime)

private theorem gauge_message {name unit : String} {used total : Text} (pct : ℚ)
    (first : name ∈ code) (last : unit ∈ code) (amount : Message (Fixed strings keys) used [])
    (whole : Message (Fixed strings keys) total []) :
    Message (Fixed strings keys) (name.toList ++ bar pct ++ " ".toList ++ strInt (roundEven pct) ++
      "%\n      <code>".toList ++ used ++ " / ".toList ++ total ++ unit.toList) [] := by
  have percent : Message (Fixed strings keys) (strInt (roundEven pct)) [] := strInt_message _
  have filled := (((code_message name first).append (bar_message pct)).append
    (code_message " " (by simp [code]))).append percent
  exact ((((filled.append (code_message "%\n      <code>" (by simp [code]))).append
    amount).append (code_message " / " (by simp [code]))).append whole).append
      (code_message unit last)

theorem ramText_message {used total : Int} {text : Text}
    (shown : ramText used total = some text) :
    Message (Fixed strings keys) text [] := by
  obtain ⟨pct,_,rfl⟩ := Option.map_eq_some_iff.mp shown
  exact gauge_message pct (by simp [code]) (by simp [code]) (strInt_message used)
    (strInt_message total)

theorem diskText_message {used total : Int} {text : Text}
    (shown : diskText used total = some text) :
    Message (Fixed strings keys) text [] := by
  unfold diskText at shown
  split at shown
  next pct used total _ _ _ =>
    cases shown
    exact gauge_message pct (by simp [code]) (by simp [code]) (tenths_message used)
      (tenths_message total)
  next => contradiction

theorem gaugeRow_message {row : Int → Int → Option Text} {text : Text} {gauge : Option Text}
    (plain : ∀ {used total text}, row used total = some text → Message (Fixed strings keys) text [])
    (shown : gaugeRow unicode row text = some gauge) : Row (Fixed strings keys) gauge [] := by
  unfold gaugeRow at shown
  split at shown
  next total used _ =>
    split at shown
    next =>
      obtain ⟨text,drawn,rfl⟩ := Option.map_eq_some_iff.mp shown
      exact plain drawn
    next =>
      cases shown
      rfl
  next =>
    cases shown
    rfl

theorem formatMonitor_message {out : Text} {lang : String} {text : Text}
    (shown : formatMonitor strings unicode out lang = some text) :
    Message (Fixed strings keys) text (monitorShown out).flatten := by
  unfold formatMonitor at shown
  split at shown
  next ram disk memory storage =>
    have newline : Fixed strings keys ['\n'] := .code (by simp [code] : "\n" ∈ code)
    have rows : List.Forall₂ (Row (Fixed strings keys)) _ (monitorShown out) :=
      .cons (osRow_message lang (column out 5) (column out 6))
        (.cons (gaugeRow_message ramText_message memory)
          (.cons (gaugeRow_message diskText_message storage)
            (.cons (loadRow_message lang (column out 1) (column out 0))
              (.cons (uptimeRow_message lang (column out 4)) .nil))))
    cases shown
    split
    next none =>
      rw [Message.flatten_of_no_rows rows none]
      exact t_plain "mon_no_data" lang (by simp [codeKeys])
    next => exact .rows newline rows
  next => contradiction

theorem compose_message {view : RenderedView.View} {limit : Nat}
    (terminal : Scrollback.Terminal view.toPyte limit) (brandHeader label ip : Text)
    (lang : String) :
    Message (Fixed strings keys)
      (RenderLoop.compose (caption strings brandHeader label ip lang) terminal)
      [brandHeader,label,ip,(RenderedView.render terminal).rtake 3300] := by
  have hint : Message (Fixed strings keys) (strip (t strings "terminal_hint" lang [])) [] :=
    .ofMarkup (.stripped (t_fixed "terminal_hint" lang (by simp [codeKeys])))
  unfold RenderLoop.compose
  have title : Message (Fixed strings keys) _ _ :=
    (((code_message "<b>" (by simp [code])).append (esc_message brandHeader)).append
      (code_message "</b> 🖥 " (by simp [code]))).append (esc_message label)
  have address := ((title.append (code_message "\n<code>" (by simp [code]))).append
    (esc_message ip)).append (code_message "</code>\n\n<pre>" (by simp [code]))
  exact ((address.append (esc_message _)).append (code_message "</pre>\n" (by simp [code]))).append
    hint

theorem built_message {text : Text} {values : List Text}
    (built : Built strings unicode keys text values) :
    Message (Fixed strings keys) text values := by
  induction built with
  | t asked _ ih => exact t_built _ asked ih
  | wizText _ built ih => exact wizText_message ih built
  | formatMonitor shown => exact formatMonitor_message shown
  | @compose view limit terminal brandHeader label ip lang =>
    exact compose_message terminal brandHeader label ip lang
  | followed _ _ first second =>
    have blank : Message (Fixed strings keys) "\n\n".toList [] := code_message _ (by simp [code])
    have whole := (first.append blank).append second
    rwa [List.append_nil] at whole

theorem built_given {key : String} (lang : String) (member : key ∈ codeKeys) {kw : Kw}
    (plain : ∀ name text, (name,.raw text) ∉ kw) :
    ∃ values, Built strings unicode keys (t strings key lang kw) values :=
  ⟨_,@Built.t strings unicode keys key lang kw noRaw (.inl member) fun name text raw =>
    absurd raw (plain name text)⟩

theorem statusLine_built {clock : Clock} {admin : Bool} {mode : Mode} {user : UserRow}
    {lang : String} {n : Nat} {status : Text}
    (shown : statusLine strings clock admin mode user lang n = some status) :
    ∃ values, Built strings unicode keys status values := by
  unfold statusLine at shown
  split at shown
  next =>
    cases shown
    exact built_given lang (by simp [codeKeys]) (by simp)
  next =>
    cases mode with
    | free =>
      cases shown
      exact built_given lang (by simp [codeKeys]) (by simp)
    | paid =>
      obtain ⟨_,_,rfl⟩ := Option.map_eq_some_iff.mp shown
      exact built_given lang (by simp [codeKeys]) (by simp)

theorem sub_built {clock : Clock} {user : UserRow} {lang : String} {status : Text}
    (shown : sub strings clock user lang = some status) :
    ∃ values, Built strings unicode keys status values := by
  unfold sub at shown
  dsimp only at shown
  split at shown
  next =>
    cases shown
    exact built_given lang (by simp [codeKeys]) (by simp)
  next =>
    obtain ⟨_,_,rfl⟩ := Option.map_eq_some_iff.mp shown
    split
    next => exact built_given lang (by simp [codeKeys]) (by simp)
    next => exact built_given lang (by simp [codeKeys]) (by simp)

private theorem raws_built {kw : Kw} {text : Text}
    (built : ∃ values, Built strings unicode keys text values)
    (only : ∀ name raw, (name,.raw raw) ∈ kw → raw = text) :
    RawsBuilt strings unicode keys kw := by
  obtain ⟨values,built⟩ := built
  refine ⟨fun _ => values,fun name raw member => ?_⟩
  rw [only name raw member]
  exact built

theorem mainMenuKw_built {clock : Clock} {admin : Bool} {mode : Mode} {user : UserRow}
    {lang : String} {n : Nat} {kw : Kw}
    (shown : mainMenuKw strings clock admin mode user lang n = some kw) :
    RawsBuilt strings unicode keys kw := by
  obtain ⟨status,line,rfl⟩ := Option.map_eq_some_iff.mp shown
  exact raws_built (statusLine_built line) (by simp)

theorem accountKw_built {clock : Clock} {admin : Bool} {mode : Mode} {uid : Int} {user : UserRow}
    {lang : String} {n : Nat} {kw : Kw}
    (shown : accountKw strings clock admin mode uid user lang n = some kw) :
    RawsBuilt strings unicode keys kw := by
  unfold accountKw at shown
  split at shown
  next joined status _ line =>
    cases shown
    exact raws_built (statusLine_built line) (by simp)
  next => contradiction

theorem userKw_built {clock : Clock} {uid : Int} {user : UserRow} {hostCount : Nat} {live : Bool}
    {lang : String} {kw : Kw}
    (shown : userKw strings clock uid user hostCount live lang = some kw) :
    RawsBuilt strings unicode keys kw := by
  unfold userKw at shown
  split at shown
  next status joined seen line _ _ =>
    cases shown
    exact raws_built (sub_built line) (by simp [yesNo])
  next => contradiction

theorem monitorBody_built {output : Option (Option Text)} {lang : String} {body : Text}
    (shown : monitorBody strings unicode output lang = some body) :
    ∃ values, Built strings unicode keys body values := by
  cases output with
  | none =>
    cases shown
    exact built_given lang (by simp [codeKeys]) (by simp)
  | some stdout => exact ⟨_,.formatMonitor shown⟩

theorem monitorKw_built {label : Text} {output : Option (Option Text)} {lang : String} {kw : Kw}
    (shown : monitorKw strings unicode label output lang = some kw) :
    RawsBuilt strings unicode keys kw := by
  obtain ⟨body,built,rfl⟩ := Option.map_eq_some_iff.mp shown
  exact raws_built (monitorBody_built built) (by simp)

theorem testNotice_built (lang : String) (ok : Bool) (ms : Int) (err : Option Text) :
    ∃ values, Built strings unicode keys (testNotice strings lang ok ms err) values := by
  unfold testNotice
  split
  next => exact built_given lang (by simp [codeKeys]) (by simp)
  next => exact built_given lang (by simp [codeKeys]) (by simp)

end

/-- Foreign text cannot inject markup. Every message that the builders put together, however they
nest, is markup of the tables and of the code, numbers, and forms of its values that hold no
markup, whose ampersands start references and which are read as the values. What is passed as
`Raw`, and the notice of a test, has always been built by them. -/
theorem foreign_text_inert (strings : Table) (unicode : Unicode) (keys : Set String) :
    (∀ text values, Built strings unicode keys text values →
      Message (Fixed strings keys) text values) ∧
    (∀ lang ok ms err, ∃ values,
      Built strings unicode keys (testNotice strings lang ok ms err) values) ∧
    (∀ clock admin mode user lang n kw, mainMenuKw strings clock admin mode user lang n = some kw →
      RawsBuilt strings unicode keys kw) ∧
    (∀ clock admin mode uid user lang n kw,
      accountKw strings clock admin mode uid user lang n = some kw →
        RawsBuilt strings unicode keys kw) ∧
    (∀ clock uid user hostCount live lang kw,
      userKw strings clock uid user hostCount live lang = some kw →
        RawsBuilt strings unicode keys kw) ∧
    ∀ label output lang kw, monitorKw strings unicode label output lang = some kw →
      RawsBuilt strings unicode keys kw := by
  refine ⟨fun text values => built_message,testNotice_built,?_,?_,?_,?_⟩
  · intro clock admin mode user lang n kw
    exact mainMenuKw_built
  · intro clock admin mode uid user lang n kw
    exact accountKw_built
  · intro clock uid user hostCount live lang kw
    exact userKw_built
  · intro label output lang kw
    exact monitorKw_built

end AtronixX.Messages
