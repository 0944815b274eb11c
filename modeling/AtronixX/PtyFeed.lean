import AtronixX.Library.Chunks
import AtronixX.Library.Regex

/-! The output of a terminal arrives in chunks. `TerminalSession._feed` looks for the
sequences that enter and leave the alternate screen and keeps a chunk's end in `_carry`
when it might be the beginning of one. `stream.feed` and `_on_alt_screen` are recorded as calls
that return; where pyte raises in one, the read loop ends there. -/
namespace AtronixX.PtyFeed
open Library.Regex Library.Chunks

/-- `\x1b\[\?(?:1049|1047|47)([hl])`. -/
def altRe : Pattern :=
  .seq (literal [0x1b,0x5b,0x3f])
    (.seq (.alt (literal [49,48,52,57]) (.alt (literal [49,48,52,55]) (literal [52,55])))
      (.group 1 (.one (fun byte => byte == 104 || byte == 108))))

/-- `\x1b(?:\[(?:\?\d{0,4})?)?$`. -/
def partialRe : Pattern :=
  .seq (literal [0x1b]) (.seq (.optional (.seq (literal [0x5b])
    (.optional (.seq (literal [0x3f]) (upTo digit 4))))) .dollar)

/-- The trace has the bytes given to `stream.feed` and the calls of `_on_alt_screen`, each
with its argument and the sequence it was recognised from. -/
structure Session where
  carry : List UInt8
  trace : List (Item UInt8 Bool)
  deriving DecidableEq, Repr

def slice (data : List UInt8) (start stop : Nat) : List UInt8 := (data.take stop).drop start

def streamFeed (bytes : List UInt8) (session : Session) : Session :=
  {session with trace := session.trace ++ bytes.map .plain}

def onAltScreen (sequence : List UInt8) (entering : Bool) (session : Session) : Session :=
  {session with trace := session.trace ++ [.token sequence entering]}

/-- The loop over the matches, with what is fed after it. -/
def feedFrom (data : List UInt8) : Nat → List Match → Session → Session
  | pos,[],session => streamFeed (slice data pos data.length) session
  | pos,found :: rest,session => feedFrom data found.stop rest
    (onAltScreen (slice data found.start found.stop) (found.group 1 == some [104])
      (streamFeed (slice data pos found.start) session))

def feed (session : Session) (chunk : List UInt8) : Session :=
  let data := session.carry ++ chunk
  match search partialRe data with
  | some cut =>
    let settled := data.take cut.start
    feedFrom settled 0 (finditer altRe settled) {session with carry := data.drop cut.start}
  | none => feedFrom data 0 (finditer altRe data) {session with carry := []}

def readLoop (chunks : List (List UInt8)) : Session := chunks.foldl feed ⟨[],[]⟩

def sequences : List (List UInt8 × Bool) :=
  [([27,91,63,49,48,52,57,104],true),([27,91,63,49,48,52,57,108],false),
    ([27,91,63,49,48,52,55,104],true),([27,91,63,49,48,52,55,108],false),
    ([27,91,63,52,55,104],true),([27,91,63,52,55,108],false)]

def ends (rest : List UInt8) : Bool := rest == [] || rest == [10]

/-- The data ends here, or goes on with one more byte. -/
def goesOn (accepts : UInt8 → Bool) (next : List UInt8 → Bool) (rest : List UInt8) : Bool :=
  ends rest || match rest with
    | byte :: rest => accepts byte && next rest
    | [] => false

def afterQuestion : Nat → List UInt8 → Bool
  | 0 => ends
  | count + 1 => goesOn (fun byte => 48 ≤ byte && byte ≤ 57) (afterQuestion count)

def afterBracket : List UInt8 → Bool := goesOn (· == 63) (afterQuestion 4)

def afterEscape : List UInt8 → Bool := goesOn (· == 91) afterBracket

/-- The data might be the beginning of a sequence. -/
def unfinished : List UInt8 → Bool
  | byte :: rest => byte == 27 && afterEscape rest
  | [] => false

private theorem leads_digits (count : Nat) (rest : List UInt8)
    (groups : List (Nat × List UInt8)) :
    (upTo digit count).Leads (Pattern.dollar.Leads (fun _ => True)) ⟨rest,groups⟩ ↔
      afterQuestion count rest = true := by
  induction count generalizing rest with
  | zero => simp [upTo,afterQuestion,ends]
  | succ count ih =>
    simp only [upTo,leads_optional,leads_seq,leads_digit,ih,afterQuestion,goesOn]
    cases rest with
    | nil => simp [ends]
    | cons byte rest => simp [ends,or_comm]

private theorem leads_question (rest : List UInt8) (groups : List (Nat × List UInt8)) :
    (Pattern.optional (.seq (literal [0x3f]) (upTo digit 4))).Leads
      (Pattern.dollar.Leads (fun _ => True)) ⟨rest,groups⟩ ↔ afterBracket rest = true := by
  simp only [leads_optional,leads_seq,leads_literal,leads_digits]
  cases rest with
  | nil => simp [afterBracket,goesOn,ends]
  | cons byte rest => simp [afterBracket,goesOn,ends,or_comm,and_assoc]

private theorem leads_bracket (rest : List UInt8) (groups : List (Nat × List UInt8)) :
    (Pattern.optional (.seq (literal [0x5b])
      (.optional (.seq (literal [0x3f]) (upTo digit 4))))).Leads
      (Pattern.dollar.Leads (fun _ => True)) ⟨rest,groups⟩ ↔ afterEscape rest = true := by
  rw [leads_optional,leads_seq]
  simp only [leads_literal,leads_question]
  cases rest with
  | nil => simp [afterEscape,goesOn,ends]
  | cons byte rest => simp [afterEscape,goesOn,ends,or_comm,and_assoc]

theorem partialRe_iff (data : List UInt8) (start : Nat) :
    (matchAt partialRe start data).isSome = true ↔ unfinished data = true := by
  rw [matchAt_isSome]
  simp only [partialRe,leads_seq,leads_literal,leads_bracket]
  cases data with
  | nil => simp [unfinished]
  | cons byte rest => simp [unfinished]

private theorem close_one (byte : UInt8) (rest : List UInt8) :
    Cursor.close 1 ⟨byte :: rest,[]⟩ ⟨rest,[]⟩ = ⟨rest,[(1,[byte])]⟩ := by
  simp [Cursor.close]

theorem altRe_leads (data : List UInt8) (goal : Cursor → Prop) :
    altRe.Leads goal ⟨data,[]⟩ ↔ ∃ token ∈ sequences, ∃ rest, data = token.1 ++ rest ∧
      goal ⟨rest,[(1,[if token.2 then 104 else 108])]⟩ := by
  simp only [altRe,leads_seq,leads_alt,leads_group,leads_literal,leads_one]
  simp [sequences,close_one,or_and_right,and_or_left,exists_or,or_assoc]

theorem sequences_apart : Apart sequences := by
  unfold Apart
  decide

def matched (start : Nat) (token : List UInt8 × Bool) : Match :=
  ⟨start,start + token.1.length,[(1,[if token.2 then 104 else 108])]⟩

theorem altRe_matchAt (data : List UInt8) (start : Nat) :
    matchAt altRe start data = (recognise sequences data).map (matched start) := by
  cases found : matchAt altRe start data with
  | some first =>
    obtain ⟨token,member,rest,rfl,is⟩ := (altRe_leads data _).mp (matchAt_leads found)
    have begins := (recognise_iff sequences_apart).mpr ⟨member,List.prefix_append token.1 rest⟩
    rw [begins,is]
    simp [matched,Cursor.found]
  | none =>
    cases known : recognise sequences data with
    | none => rfl
    | some token =>
      obtain ⟨member,rest,is⟩ := (recognise_iff sequences_apart).mp known
      have leads := (altRe_leads data (fun _ => True)).mpr ⟨token,member,rest,is.symm,trivial⟩
      rw [← @matchAt_isSome _ start,found] at leads
      contradiction

theorem altRe_matchesAt (data : List UInt8) (start : Nat) :
    matchesAt altRe start data = ((recognise sequences data).map (matched start)).toList := by
  unfold matchesAt
  rw [altRe_matchAt]
  cases known : recognise sequences data with
  | none => rfl
  | some token =>
    have member := ((recognise_iff sequences_apart).mp known).1
    have long : ∀ token ∈ sequences, 0 < token.1.length := by decide
    have some := long token member
    simp [matched,some]

private theorem ends_append {rest more : List UInt8} (is : ends (rest ++ more) = true) :
    ends rest = true := by
  cases rest with
  | nil => rfl
  | cons byte rest => simp_all [ends]

private theorem goesOn_append {accepts : UInt8 → Bool} {next : List UInt8 → Bool}
    (closed : ∀ rest more, next (rest ++ more) = true → next rest = true)
    (rest more : List UInt8) (is : goesOn accepts next (rest ++ more) = true) :
    goesOn accepts next rest = true := by
  cases rest with
  | nil => rfl
  | cons byte rest =>
    simp only [goesOn,List.cons_append,Bool.or_eq_true,Bool.and_eq_true] at is ⊢
    exact is.imp ends_append (And.imp_right (closed rest more))

private theorem afterQuestion_append (count : Nat) (rest more : List UInt8)
    (is : afterQuestion count (rest ++ more) = true) : afterQuestion count rest = true := by
  induction count generalizing rest more with
  | zero => exact ends_append is
  | succ count ih => exact goesOn_append ih rest more is

private theorem goesOn_length {accepts : UInt8 → Bool} {next : List UInt8 → Bool} {bound : Nat}
    (short : ∀ rest, next rest = true → rest.length ≤ bound) (rest : List UInt8)
    (is : goesOn accepts next rest = true) : rest.length ≤ bound + 1 := by
  cases rest with
  | nil => simp
  | cons byte rest =>
    simp only [goesOn,ends,Bool.or_eq_true,Bool.and_eq_true,beq_iff_eq] at is
    rcases is with (none | only) | goes
    · contradiction
    · simp [only]
    · exact Nat.succ_le_succ (short rest goes.2)

private theorem afterQuestion_length (count : Nat) (rest : List UInt8)
    (is : afterQuestion count rest = true) : rest.length ≤ count + 1 := by
  induction count generalizing rest with
  | zero =>
    simp only [afterQuestion,ends,Bool.or_eq_true,beq_iff_eq] at is
    rcases is with rfl | rfl <;> simp
  | succ count ih => exact goesOn_length ih rest is

theorem fits : Fits 27 unfinished sequences := by
  refine ⟨sequences_apart,?_,?_,by decide,?_⟩
  · intro stream more some is
    cases stream with
    | nil => contradiction
    | cons byte rest =>
      simp only [List.cons_append,unfinished,Bool.and_eq_true] at is ⊢
      exact ⟨is.1,goesOn_append (goesOn_append (afterQuestion_append 4)) rest more is.2⟩
  · intro stream is
    cases stream with
    | nil => contradiction
    | cons byte rest =>
      simp only [unfinished,Bool.and_eq_true,beq_iff_eq] at is
      rw [is.1]
      rfl
  · have beginnings : ∀ token ∈ sequences, ∀ length < token.1.length, 0 < length →
        unfinished (token.1.take length) = true := by decide
    intro token member stream more is some rest
    have proper : stream.length < token.1.length := by
      rw [is,List.length_append]
      exact Nat.lt_add_of_pos_right (List.length_pos_of_ne_nil rest)
    have pend := beginnings token member stream.length proper (List.length_pos_of_ne_nil some)
    rwa [is,List.take_left] at pend

theorem unfinished_length {data : List UInt8} (is : unfinished data = true) : data.length ≤ 8 := by
  cases data with
  | nil => simp
  | cons byte rest =>
    simp only [unfinished,Bool.and_eq_true] at is
    exact Nat.succ_le_succ (goesOn_length (goesOn_length (afterQuestion_length 4)) rest is.2)

theorem matchAt_start {pattern : Pattern} {start : Nat} {data : List UInt8} {found : Match}
    (at_ : matchAt pattern start data = some found) : found.start = start := by
  obtain ⟨_,_,rfl⟩ := matchAt_leads at_
  rfl

theorem hold_search (start : Nat) (data : List UInt8) :
    match searchFrom partialRe start data with
    | some cut => ∃ length, cut.start = start + length ∧
      hold unfinished data = (data.take length,data.drop length)
    | none => hold unfinished data = (data,[]) := by
  induction data generalizing start with
  | nil =>
    have none : matchAt partialRe start [] = none := by
      rw [← Option.not_isSome_iff_eq_none,partialRe_iff]
      exact Bool.false_ne_true
    simp only [searchFrom,none]
    rfl
  | cons byte rest ih =>
    unfold searchFrom hold
    have known := partialRe_iff (byte :: rest) start
    cases found : matchAt partialRe start (byte :: rest) with
    | some cut =>
      rw [found] at known
      rw [if_pos (known.mp rfl)]
      exact ⟨0,matchAt_start found,rfl⟩
    | none =>
      rw [found] at known
      rw [if_neg (fun pend => Bool.false_ne_true (known.mpr pend))]
      have later := ih (start + 1)
      dsimp only
      split at later
      next cut _ =>
        obtain ⟨length,is,held⟩ := later
        rw [held]
        exact ⟨length + 1,by omega,rfl⟩
      next => rw [later]

private theorem slice_empty {data : List UInt8} {start stop : Nat} (none : stop ≤ start) :
    slice data start stop = [] := by
  unfold slice
  rw [List.drop_eq_nil_iff,List.length_take]
  omega

private theorem slice_succ {data rest : List UInt8} {byte : UInt8} {pos start : Nat}
    (before : pos ≤ start) (is : data.drop start = byte :: rest) :
    slice data pos (start + 1) = slice data pos start ++ [byte] := by
  have bound : start < data.length := by
    by_contra short
    rw [List.drop_eq_nil_iff.mpr (Nat.le_of_not_lt short)] at is
    contradiction
  have here : data[start] = byte := by
    rw [List.drop_eq_getElem_cons bound] at is
    exact (List.cons.inj is).1
  unfold slice
  rw [List.take_succ_eq_append_getElem bound,here,List.drop_append_of_le_length]
  rw [List.length_take]
  omega

private theorem slice_prefix {data text after : List UInt8} {start : Nat}
    (is : data.drop start = text ++ after) : slice data start (start + text.length) = text := by
  unfold slice
  rw [List.drop_take,is]
  simp

private theorem group_matched (start : Nat) (token : List UInt8 × Bool) :
    ((matched start token).group 1 == some [104]) = token.2 := by
  obtain ⟨text,entering⟩ := token
  cases entering <;> rfl

/-- The loop cuts the data into sequences and the bytes between them. -/
theorem feedFrom_eq (data rest : List UInt8) (pos start skip : Nat) (session : Session)
    (is : data.drop start = rest) (place : skip = 0 ∧ pos ≤ start ∨ pos = start + skip) :
    feedFrom data pos (finditerFrom altRe start skip rest) session =
      ⟨session.carry,session.trace ++ ((slice data pos start).map .plain ++
        lexFrom (recognise sequences) skip rest)⟩ := by
  induction rest generalizing pos start skip session with
  | nil =>
    have passed : data.length ≤ start := List.drop_eq_nil_iff.mp is
    have none : finditerFrom altRe start skip [] = [] := by
      cases skip with
      | zero => simp [finditerFrom,altRe_matchesAt,recognise,sequences]
      | succ skip => rfl
    rw [none,feedFrom,streamFeed,slice,slice,List.take_of_length_le passed,List.take_length,lexFrom,
      List.append_nil]
  | cons byte rest ih =>
    have later : data.drop (start + 1) = rest := by
      rw [← List.tail_drop,is,List.tail_cons]
    cases skip with
    | succ skip =>
      obtain rfl : pos = start + (skip + 1) := by omega
      have next := ih (start + (skip + 1)) (start + 1) skip session later (by omega)
      rw [slice_empty (by omega)] at next ⊢
      exact next
    | zero =>
      have before : pos ≤ start := by omega
      simp only [finditerFrom,altRe_matchesAt,lexFrom]
      cases known : recognise sequences (byte :: rest) with
      | none =>
        have next := ih pos (start + 1) 0 session later (by omega)
        rw [slice_succ before is] at next
        simpa using next
      | some token =>
        obtain ⟨member,after,begins⟩ := (recognise_iff sequences_apart).mp known
        have long : ∀ token ∈ sequences, 0 < token.1.length := by decide
        have some := long token member
        have here : slice data start (start + token.1.length) = token.1 :=
          slice_prefix (is.trans begins.symm)
        have next := ih (start + token.1.length) (start + 1) (token.1.length - 1)
          (onAltScreen token.1 token.2 (streamFeed (slice data pos start) session)) later (by omega)
        rw [slice_empty (show start + 1 ≤ start + token.1.length by omega)] at next
        simp only [Option.map_some,Option.toList_some,List.cons_append,List.nil_append,feedFrom,
          List.getLast?_singleton,Option.getD_some,group_matched]
        have stop : (matched start token).stop = start + token.1.length := rfl
        have begin_ : (matched start token).start = start := rfl
        rw [stop,begin_,here,Nat.add_sub_cancel_left,next]
        simp [onAltScreen,streamFeed]

theorem feedFrom_finditer (data : List UInt8) (session : Session) :
    feedFrom data 0 (finditer altRe data) session =
      ⟨session.carry,session.trace ++ lex (recognise sequences) data⟩ := by
  have all := feedFrom_eq data data 0 0 0 session rfl (.inl ⟨rfl,Nat.le_refl 0⟩)
  rwa [slice_empty (Nat.le_refl 0)] at all

theorem feed_eq (session : Session) (chunk : List UInt8) :
    ((feed session chunk).trace,(feed session chunk).carry) =
      Library.Chunks.feed unfinished (recognise sequences) (session.trace,session.carry) chunk := by
  have cut := hold_search 0 (session.carry ++ chunk)
  unfold feed Library.Chunks.feed search
  dsimp only
  split at cut
  next found _ =>
    obtain ⟨length,start,held⟩ := cut
    rw [Nat.zero_add] at start
    rw [held]
    dsimp only
    rw [feedFrom_finditer,start]
  next =>
    rw [cut]
    dsimp only
    rw [feedFrom_finditer]

theorem readLoop_eq (chunks : List (List UInt8)) : readLoop chunks =
    ⟨(hold unfinished chunks.flatten).2,
      lex (recognise sequences) (hold unfinished chunks.flatten).1⟩ := by
  have same (session : Session) : ((chunks.foldl feed session).trace,
      (chunks.foldl feed session).carry) = chunks.foldl
        (Library.Chunks.feed unfinished (recognise sequences)) (session.trace,session.carry) := by
    induction chunks generalizing session with
    | nil => rfl
    | cons chunk rest ih =>
      rw [List.foldl_cons,List.foldl_cons,ih,feed_eq]
  have all := (same ⟨[],[]⟩).trans (fits.feed chunks)
  unfold readLoop
  generalize chunks.foldl feed ⟨[],[]⟩ = session at all
  cases session
  cases all
  rfl

/-- However a stream is cut into chunks, the trace and the carry are the same; written out
they are the stream, and the carry is short. -/
theorem readLoop_chunks (stream : List UInt8) (chunks others : List (List UInt8))
    (cut : chunks.flatten = stream) (cut_other : others.flatten = stream) :
    readLoop chunks = readLoop others ∧
      written (readLoop chunks).trace ++ (readLoop chunks).carry = stream ∧
      (readLoop chunks).carry.length ≤ 8 := by
  rw [readLoop_eq,readLoop_eq,cut,cut_other]
  refine ⟨rfl,fits.written stream,?_⟩
  rcases @hold_pending _ unfinished stream with empty | pend
  · simp [empty]
  · exact unfinished_length pend

theorem readLoop_chunks_cut :
    readLoop [[65,27,91],[63,49,48,52,57],[104,27]] =
        readLoop [[65,27,91,63,49,48,52,57,104,27]] ∧
      written (readLoop [[65,27,91],[63,49,48,52,57],[104,27]]).trace ++
        (readLoop [[65,27,91],[63,49,48,52,57],[104,27]]).carry =
          [65,27,91,63,49,48,52,57,104,27] ∧
      (readLoop [[65,27,91],[63,49,48,52,57],[104,27]]).carry.length ≤ 8 :=
  readLoop_chunks _ _ _ rfl rfl

end AtronixX.PtyFeed
