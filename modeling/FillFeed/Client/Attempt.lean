import FillFeed.Approval.Stage
import FillFeed.Client.Shared
import FillFeed.Handshake.Rejection
import FillFeed.Handshake.Request

/-!
# Connection attempts

An attempt obtains a key, opens a transport, and sends one request after the other, reading one ack
for each before the next. `Attempt.advance` takes it on with one happening. It ends with a session
on which every subscription is confirmed, or with an error, for which the transport is closed first.
-/

namespace FillFeed.Client

/-- A transport on which some subscriptions are confirmed and the `current` one is being made. -/
structure Handshake where
  key : ApprovalKey
  transport : TransportId
  codec : Codec
  current : Subscription
  rest : List Subscription

/-- What an attempt waits for. -/
inductive Attempt where
  | credential (stage : Approval.Stage)
  | opening (key : ApprovalKey)
  | sending (h : Handshake)
  | acking (h : Handshake)
  | abandoning (transport : TransportId) (cause : ClientError)

namespace Attempt

/-- How an attempt goes on: it waits for something else, or it ends. -/
inductive Progress where
  | waits (attempt : Attempt)
  | done (result : Except ClientError Session)

/-- What a step of an attempt leads to. -/
structure Outcome where
  shared : Shared
  progress : Progress
  effects : List Effect

/-- Opens a transport for a key. -/
def dial (cfg : Config) (key : ApprovalKey) : Attempt × List Effect :=
  (.opening key, [.began (.openTransport cfg.url)])

/-- Begins an attempt with the key that is carried over, or with a request for one. -/
def begin (cfg : Config) : Option ApprovalKey → Attempt × List Effect
  | some key => dial cfg key
  | none => (.credential Approval.get, [.began Approval.get.call])

/-- Closes the transport of an attempt that failed. -/
def abandon (shared : Shared) (transport : TransportId) (cause : ClientError)
    (effects : List Effect) : Outcome :=
  ⟨shared, .waits (.abandoning transport cause), effects ++ [.began (.close transport)]⟩

/-- Makes the next subscription, or ends with the session when there is none left. -/
def subscribe (shared : Shared) (key : ApprovalKey) (transport : TransportId) (codec : Codec)
    (effects : List Effect) : List Subscription → Outcome
  | [] => ⟨shared, .done (.ok ⟨transport, codec⟩), effects⟩
  | s :: rest =>
    ⟨shared, .waits (.sending ⟨key, transport, codec, s, rest⟩),
      effects ++ [.began (.sendText transport (Request.subscribe key s).write)]⟩

/-- Judges the text that answers the current request. -/
def judge (shared : Shared) (h : Handshake) (raw : String) (effects : List Effect) : Outcome :=
  match Ack.validate h.current.streamId raw with
  | .error cause => abandon shared h.transport (.rejected cause) effects
  | .ok context =>
    subscribe shared h.key h.transport (h.codec.register h.current.streamId context)
      (effects ++ [.noted (.acknowledged h.current)]) h.rest

/-- Goes on reading the answer to the current request. -/
def await (shared : Shared) (h : Handshake) (effects : List Effect) : Outcome :=
  ⟨shared, .waits (.acking h), effects ++ [.began (.receive h.transport)]⟩

/-- Takes an attempt on with a happening. -/
def advance (cfg : Config) (shared : Shared) : Attempt → Happening → Option Outcome
  | .credential stage, .reply r _ =>
    match Approval.advance stage r with
    | none => none
    | some (.waits stage, effects) => some ⟨shared, .waits (.credential stage), effects⟩
    | some (.done (.ok key), effects) =>
      let (next, more) := dial cfg key
      some ⟨shared, .waits next, effects ++ more⟩
    | some (.done (.error e), effects) => some ⟨shared, .done (.error (.credential e)), effects⟩
  | .opening key, .reply (.opened (.ok ())) _ =>
    let (shared, transport) := shared.addTransport
    let (shared, effects) := shared.setState .subscribing
    some (subscribe shared key transport (Codec.ofSubscriptions cfg.subscriptions)
      (.opened transport :: effects) cfg.subscriptions)
  | .opening _, .reply (.opened (.error e)) _ =>
    some ⟨shared, .done (.error (.transport e)), []⟩
  | .opening _, .expired => some ⟨shared, .done (.error (.transport .connectTimeout)), []⟩
  | .sending h, .reply (.sent (.ok ())) _ => some (await shared h [])
  | .sending h, .reply (.sent (.error e)) _ =>
    some (abandon shared h.transport (.transport e) [])
  | .acking h, .reply (.received (.ok (some frame))) _ =>
    let took := [Effect.took h.transport frame]
    match frame with
    | .pong => some (await shared h took)
    | .text raw => some (judge shared h raw took)
    | .binary bytes => some (judge shared h (Utf8.decodeLossy bytes) took)
  | .acking h, .reply (.received (.ok none)) _ => some (abandon shared h.transport .closed [])
  | .acking h, .reply (.received (.error e)) _ =>
    some (abandon shared h.transport (.transport e) [])
  | .acking h, .expired =>
    some (abandon shared h.transport (.ackTimeout h.current.streamId cfg.ackTimeout) [])
  | .abandoning _ cause, .reply (.closed result) _ =>
    some ⟨shared, .done (.error cause), closeNotices result⟩
  | .abandoning _ cause, .expired =>
    some ⟨shared, .done (.error cause), [.noted (.closeTimedOut cfg.closeTimeout)]⟩
  | _, _ => none

end Attempt

end FillFeed.Client
