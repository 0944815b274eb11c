import Mathlib.Data.List.Basic
import Mathlib.Data.List.Infix

/-! Reading a stream in pieces. What might be the beginning of a token is held back until
the next piece arrives; the rest is cut into tokens and plain symbols. When the two fit
together the result does not depend on the pieces. -/
namespace AtronixX.Library.Chunks

variable {α β : Type}

/-- The stream up to its first suffix that is `pending`, and that suffix. -/
def hold (pending : List α → Bool) : List α → List α × List α
  | [] => ([],[])
  | symbol :: rest =>
    if pending (symbol :: rest) then ([],symbol :: rest)
    else (symbol :: (hold pending rest).1,(hold pending rest).2)

/-- A plain symbol, or a token with its text. -/
inductive Item (α β : Type)
  | plain (symbol : α)
  | token (text : List α) (tag : β)
  deriving DecidableEq, Repr

def Item.text : Item α β → List α
  | .plain symbol => [symbol]
  | .token text _ => text

def written (items : List (Item α β)) : List α := items.flatMap Item.text

/-- Cut into items from the left, with the next `skip` symbols used up already. -/
def lexFrom (recognise : List α → Option (List α × β)) : Nat → List α → List (Item α β)
  | _,[] => []
  | skip + 1,_ :: rest => lexFrom recognise skip rest
  | 0,symbol :: rest => match recognise (symbol :: rest) with
    | none => .plain symbol :: lexFrom recognise 0 rest
    | some (text,tag) => .token text tag :: lexFrom recognise (text.length - 1) rest

abbrev lex (recognise : List α → Option (List α × β)) : List α → List (Item α β) :=
  lexFrom recognise 0

/-- What has come out so far and what is held back, after one more piece. -/
def feed (pending : List α → Bool) (recognise : List α → Option (List α × β))
    (state : List (Item α β) × List α) (chunk : List α) : List (Item α β) × List α :=
  (state.1 ++ lex recognise (hold pending (state.2 ++ chunk)).1,
    (hold pending (state.2 ++ chunk)).2)

section Hold
variable {pending : List α → Bool}

theorem hold_whole (stream : List α) :
    (hold pending stream).1 ++ (hold pending stream).2 = stream := by
  induction stream with
  | nil => rfl
  | cons symbol rest ih =>
    unfold hold
    split
    · rfl
    · exact congrArg (symbol :: ·) ih

theorem hold_pending (stream : List α) :
    (hold pending stream).2 = [] ∨ pending (hold pending stream).2 = true := by
  induction stream with
  | nil => exact .inl rfl
  | cons symbol rest ih =>
    unfold hold
    split
    next is => exact .inr is
    next => exact ih

/-- The suffix that is held back is the longest one that is pending. -/
theorem hold_longest {stream before inside : List α}
    (cut : (hold pending stream).1 = before ++ inside) (some : inside ≠ []) :
    pending (inside ++ (hold pending stream).2) = false := by
  induction stream generalizing before with
  | nil => simp_all [hold]
  | cons symbol rest ih =>
    unfold hold at cut ⊢
    split at cut
    next => simp_all
    next settled =>
      rw [if_neg settled]
      cases before with
      | nil =>
        have whole := @hold_whole _ pending rest
        rw [← show _ = inside from cut]
        simpa [whole] using settled
      | cons first before => exact ih (List.cons.inj cut).2

variable (closed : ∀ stream more, stream ≠ [] → pending (stream ++ more) = true →
  pending stream = true)

include closed

theorem hold_append (stream more : List α) : hold pending (stream ++ more) =
    ((hold pending stream).1 ++ (hold pending ((hold pending stream).2 ++ more)).1,
      (hold pending ((hold pending stream).2 ++ more)).2) := by
  induction stream with
  | nil => rfl
  | cons symbol rest ih =>
    by_cases held : pending (symbol :: rest) = true
    · have is : hold pending (symbol :: rest) = ([],symbol :: rest) := by simp [hold,held]
      rw [is]
      rfl
    · have later : pending (symbol :: (rest ++ more)) = false := by
        refine Bool.eq_false_iff.mpr (fun pend => held ?_)
        exact closed (symbol :: rest) more (by simp) pend
      have is : hold pending (symbol :: rest) =
          (symbol :: (hold pending rest).1,(hold pending rest).2) := by simp [hold,held]
      rw [is,List.cons_append,hold,if_neg (by simp [later]),ih]
      rfl

end Hold

section Tokens
variable [DecidableEq α]

def recognise (tokens : List (List α × β)) (stream : List α) : Option (List α × β) :=
  tokens.find? (fun token => token.1.isPrefixOf stream)

def Apart (tokens : List (List α × β)) : Prop :=
  ∀ one ∈ tokens, ∀ other ∈ tokens, one.1 <+: other.1 → one = other

variable {tokens : List (List α × β)}

theorem recognise_iff (apart : Apart tokens) {stream : List α} {token : List α × β} :
    recognise tokens stream = some token ↔ token ∈ tokens ∧ token.1 <+: stream := by
  constructor
  · intro found
    exact ⟨List.mem_of_find?_eq_some found,
      List.isPrefixOf_iff_prefix.mp (by simpa using List.find?_some found)⟩
  · rintro ⟨member,begins⟩
    cases found : recognise tokens stream with
    | none =>
      have none := List.find?_eq_none.mp found token member
      exact absurd (List.isPrefixOf_iff_prefix.mpr begins) none
    | some other =>
      have member' := List.mem_of_find?_eq_some found
      have begins' : other.1 <+: stream :=
        List.isPrefixOf_iff_prefix.mp (by simpa using List.find?_some found)
      rcases Nat.le_total other.1.length token.1.length with shorter | longer
      · rw [apart other member' token member (List.prefix_of_prefix_length_le begins' begins shorter)]
      · rw [apart token member other member' (List.prefix_of_prefix_length_le begins begins' longer)]

/-- No token begins in `stream` and ends in what follows. -/
def Whole (tokens : List (List α × β)) (stream following : List α) : Prop :=
  ∀ token ∈ tokens, ∀ before inside more, stream = before ++ inside → inside ≠ [] →
    token.1 = inside ++ more → more <+: following → more = []

omit [DecidableEq α] in
theorem Whole.tail {symbol : α} {stream following : List α}
    (whole : Whole tokens (symbol :: stream) following) : Whole tokens stream following :=
  fun token member before inside more is some text begins =>
    whole token member (symbol :: before) inside more (by rw [is]; rfl) some text begins

theorem recognise_append (apart : Apart tokens) {symbol : α} {stream following : List α}
    (whole : Whole tokens (symbol :: stream) following) :
    recognise tokens (symbol :: (stream ++ following)) = recognise tokens (symbol :: stream) := by
  apply Option.ext
  intro token
  rw [recognise_iff apart,recognise_iff apart,← List.cons_append]
  refine and_congr_right (fun member => ⟨?_,fun begins => begins.trans (List.prefix_append _ _)⟩)
  rintro ⟨after,is⟩
  rcases List.append_eq_append_iff.mp is with ⟨rest,inside,_⟩ | ⟨more,text,following'⟩
  · exact ⟨rest,inside.symm⟩
  · have none := whole token member [] (symbol :: stream) more rfl (by simp) text
      ⟨after,following'.symm⟩
    rw [text,none,List.append_nil]

theorem lex_append (apart : Apart tokens) {stream following : List α}
    (whole : Whole tokens stream following) {skip : Nat} (short : skip ≤ stream.length) :
    lexFrom (recognise tokens) skip (stream ++ following) =
      lexFrom (recognise tokens) skip stream ++ lex (recognise tokens) following := by
  induction stream generalizing skip with
  | nil =>
    rw [Nat.le_zero.mp short]
    rfl
  | cons symbol rest ih =>
    cases skip with
    | succ skip => exact ih whole.tail (Nat.le_of_succ_le_succ short)
    | zero =>
      simp only [List.cons_append,lexFrom,recognise_append apart whole]
      cases found : recognise tokens (symbol :: rest) with
      | none => exact congrArg (Item.plain symbol :: ·) (ih whole.tail (Nat.zero_le _))
      | some token =>
        have begins := ((recognise_iff apart).mp found).2.length_le
        rw [List.length_cons] at begins
        exact congrArg (Item.token token.1 token.2 :: ·) (ih whole.tail (by omega))

/-- How tokens and what is held back fit together. Every token starts with the mark and
has it nowhere else; what is held back starts with it too, and every beginning of a token
is held back. -/
structure Fits (mark : α) (pending : List α → Bool) (tokens : List (List α × β)) : Prop where
  apart : Apart tokens
  closed : ∀ stream more, stream ≠ [] → pending (stream ++ more) = true → pending stream = true
  begins : ∀ stream, pending stream = true → stream.head? = some mark
  inner : ∀ token ∈ tokens, token.1 ≠ [] ∧ mark ∉ token.1.tail
  held : ∀ token ∈ tokens, ∀ stream more, token.1 = stream ++ more → stream ≠ [] → more ≠ [] →
    pending stream = true

variable {mark : α} {pending : List α → Bool}

omit [DecidableEq α] in
theorem Fits.whole (fits : Fits mark pending tokens) (stream : List α) {following more : List α}
    (rest : following <+: (hold pending stream).2 ++ more) :
    Whole tokens (hold pending stream).1 following := by
  intro token member before inside tail cut some text begins
  have longest := hold_longest cut some
  cases tail with
  | nil => rfl
  | cons symbol tail =>
    have waits := fits.held token member inside (symbol :: tail) text some (by simp)
    rcases @hold_pending _ pending stream with empty | pend
    · rw [empty,List.append_nil,waits] at longest
      contradiction
    · obtain ⟨first,back,is⟩ := List.exists_cons_of_ne_nil
        (show (hold pending stream).2 ≠ [] by
          intro empty
          rw [empty] at pend
          simpa using fits.begins [] pend)
      have marked := fits.begins _ pend
      rw [is] at marked
      cases Option.some.inj marked
      obtain ⟨after,whole⟩ := begins.trans rest
      rw [is] at whole
      cases (List.cons.inj whole).1
      refine absurd ?_ (fits.inner token member).2
      obtain ⟨one,others,nonempty⟩ := List.exists_cons_of_ne_nil some
      rw [text,nonempty]
      simp

/-- However the stream is cut, what comes out and what is held back depend on the
stream only. -/
theorem Fits.feed (fits : Fits mark pending tokens) (chunks : List (List α)) :
    chunks.foldl (feed pending (recognise tokens)) ([],[]) =
      (lex (recognise tokens) (hold pending chunks.flatten).1,
        (hold pending chunks.flatten).2) := by
  suffices after : ∀ stream, chunks.foldl (Chunks.feed pending (recognise tokens))
      (lex (recognise tokens) (hold pending stream).1,(hold pending stream).2) =
      (lex (recognise tokens) (hold pending (stream ++ chunks.flatten)).1,
        (hold pending (stream ++ chunks.flatten)).2) by
    exact after []
  induction chunks with
  | nil =>
    intro stream
    rw [List.flatten_nil,List.append_nil]
    rfl
  | cons chunk rest ih =>
    intro stream
    have next : Chunks.feed pending (recognise tokens)
        (lex (recognise tokens) (hold pending stream).1,(hold pending stream).2) chunk =
        (lex (recognise tokens) (hold pending (stream ++ chunk)).1,
          (hold pending (stream ++ chunk)).2) := by
      rw [hold_append fits.closed stream chunk]
      exact congrArg (·,_) (lex_append fits.apart (fits.whole stream ⟨_,hold_whole _⟩)
        (Nat.zero_le _)).symm
    rw [List.foldl_cons,next,ih,List.flatten_cons,List.append_assoc]

theorem written_lexFrom (apart : Apart tokens) (nonempty : ∀ token ∈ tokens, token.1 ≠ [])
    (stream : List α) (skip : Nat) :
    written (lexFrom (recognise tokens) skip stream) = stream.drop skip := by
  induction stream generalizing skip with
  | nil => simp [lexFrom,written]
  | cons symbol rest ih =>
    cases skip with
    | succ skip => exact ih skip
    | zero =>
      unfold lexFrom
      cases found : recognise tokens (symbol :: rest) with
      | none => exact congrArg (symbol :: ·) (ih 0)
      | some token =>
        obtain ⟨text,tag⟩ := token
        obtain ⟨member,after,is⟩ := (recognise_iff apart).mp found
        obtain ⟨first,others,same⟩ := List.exists_cons_of_ne_nil (nonempty _ member)
        dsimp only at same
        subst same
        have rest_eq : others ++ after = rest := (List.cons.inj is).2
        have later := ih others.length
        rw [← rest_eq,List.drop_left] at later
        rw [← is,← rest_eq]
        exact congrArg (fun tail => (first :: others) ++ tail) later

/-- Nothing is lost: what came out, followed by what is held back, is the stream. -/
theorem Fits.written (fits : Fits mark pending tokens) (stream : List α) :
    written (lex (recognise tokens) (hold pending stream).1) ++ (hold pending stream).2 =
      stream := by
  rw [written_lexFrom fits.apart (fun token member => (fits.inner token member).1),
    List.drop_zero,hold_whole]

end Tokens

end AtronixX.Library.Chunks
