import FillFeed.Address.Feed
import FillFeed.Address.Issuer
import FillFeed.Cache.Connection
import FillFeed.Client.Run
import FillFeed.Client.Stop
import FillFeed.Program.Journal

/-!
# Keeping the feed without a network

`Feed.run` runs the client with the cache as the only collaborator that can be reached: keys cannot
be asked for and transports cannot be opened, so every call is answered at once and only the pauses
between attempts take time. A signal comes during a pause and stops the client.
-/

namespace FillFeed.Program

open Client

/-- A run of the client: what it follows, the cache, its journal, what its tasks share, and how
many pauses there were. -/
structure Feed where
  config : Config
  issuerUrl : String
  cache : Cache.Connection
  journal : Journal
  shared : Shared
  pauses : Nat

namespace Feed

/-- The beginning of a run. -/
def start (s : Settings) (cache : Cache.Connection) (journal : Journal) : Feed :=
  ⟨Config.ofSettings s, Address.issuer s.restBaseUrl, cache, journal, Shared.initial, 0⟩

/-- The answer to a call, with what is told about it. Calls that need an open transport are never
made. -/
def answer (f : Feed) : Call → Option (Feed × Reply)
  | .readCache =>
    let (cache, result) := f.cache.get
    some ({ f with cache }, .cacheRead result)
  | .writeCache key lifetime =>
    let (cache, result) := f.cache.set key.text lifetime
    some ({ f with cache }, .cacheWritten result)
  | .releaseCache =>
    let journal :=
      if f.cache.connected then f.journal.write (released f.cache.key) else f.journal
    some ({ f with cache := f.cache.release, journal }, .cacheReleased)
  | .issueKey =>
    some ({ f with journal := f.journal.write (requesting f.issuerUrl) },
      .keyIssued (.error (.http (Address.issuerRefusal f.issuerUrl))))
  | .openTransport url => some (f, .opened (.error (.connect (Address.feedRefusal url))))
  | _ => none

/-- Writes down what effects tell, and makes the call that they end with. -/
def perform (f : Feed) : List Effect → Feed × Option Reply
  | [] => (f, none)
  | .noted notice :: rest => perform { f with journal := f.journal.write notice.record } rest
  | .began call :: rest =>
    match f.answer call with
    | none => perform f rest
    | some (f, reply) => (f, some reply)
  | _ :: rest => perform f rest

/-- What a step of a task meets: the answer that it waits for, or its own next action. -/
def meets : Option Reply → Happening
  | some reply => .reply reply .zero
  | none => .proceed

/-- Stops the client. -/
def stop (f : Feed) : (fuel : Nat) → Stop → Option Reply → Feed
  | 0, _, _ => f
  | fuel + 1, s, reply =>
    match s.advance f.config f.shared (meets reply) with
    | none => f
    | some o =>
      let (f, reply) := { f with shared := o.shared }.perform o.effects
      stop f fuel o.next reply

/-- Stops the client; a call that does takes six steps at most. -/
def shutDown (f : Feed) : Feed := f.stop 6 .signalling none

/-- How a run ended: with a result, or by a signal. -/
inductive Ending where
  | returned (result : Except ClientError Unit)
  | signalled (signal : Signal) (run : Run)
  | unfinished

/-- The signal that comes during a pause, if there is one. -/
def signal? (alarm : Option Alarm) (f : Feed) : Option Signal :=
  alarm.bind fun a => if a.isDue f.journal.written then some a.signal else none

/-- Runs the client until it returns or a signal comes. -/
def advance (alarm : Option Alarm) (draw : Nat → Retry.Draw) :
    (fuel : Nat) → Feed → Run → Option Reply → Feed × Ending
  | 0, f, _, _ => (f, .unfinished)
  | fuel + 1, f, run, reply =>
    let step (f : Feed) (h : Happening) : Feed × Ending :=
      match run.advance f.config f.shared h with
      | none => (f, .unfinished)
      | some o =>
        let (f, reply) := { f with shared := o.shared }.perform o.effects
        advance alarm draw fuel f o.next reply
    match run with
    | .finished result => (f, .returned result)
    | .connecting (.deciding ..) => step f (.drawn (draw f.pauses))
    | .connecting (.pausing ..) =>
      match f.signal? alarm with
      | some signal => (f, .signalled signal run)
      | none => step { f with pauses := f.pauses + 1 } .elapsed
    | _ => step f (meets reply)

/-- An attempt takes no more than so many steps. -/
def stepsPerAttempt : Nat := 16

/-- The result of a run that a signal has stopped. -/
def resultAfterStop (f : Feed) (run : Run) : Except ClientError Unit :=
  match run.advance f.config f.shared .cancelled with
  | some ⟨_, .finished result, _⟩ => result
  | _ => .ok ()

/-- Runs the client and stops it, by itself or by a signal. -/
def run (f : Feed) (alarm : Option Alarm) (draw : Nat → Retry.Draw) :
    Feed × Except ClientError Unit :=
  let steps := stepsPerAttempt * (f.config.retry.attempts + 1)
  match advance alarm draw steps f (Run.start f.config) none with
  | (f, .returned result) => (f.shutDown, result)
  | (f, .signalled signal run) =>
    let f := { f with journal := f.journal.write (received signal) }.shutDown
    (f, f.resultAfterStop run)
  | (f, .unfinished) => (f.shutDown, .ok ())

end Feed

end FillFeed.Program
