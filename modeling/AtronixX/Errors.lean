import Mathlib.Order.Notation

/-! The exceptions that the handlers of the bot tell apart. -/
namespace AtronixX.Errors

/-- `telegram.error`. `notModified` is the `BadRequest` whose text says that the
message would not change; the handlers treat it as a success. -/
inductive TelegramError
  | notModified
  | badRequest
  | retryAfter (seconds : Nat)
  | timedOut
  | networkError
  | forbidden
  | other
  deriving DecidableEq, Repr

/-- What a call made by a handler may raise: an error of the Telegram client, or
any other exception (`sqlite3.Error`, `TypeError`, …). -/
inductive Fault
  | telegram (error : TelegramError)
  | other
  deriving DecidableEq, Repr

/-- An exception that leaves a handler: `ApplicationHandlerStop`, or the fault of
a call that nothing on the way caught. -/
inductive Interrupt
  | handlerStop
  | fault (raised : Fault)
  deriving DecidableEq, Repr

end AtronixX.Errors
