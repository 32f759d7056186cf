import FillFeed.Collaborator

/-!
# A cast of collaborators

To rehearse the client its collaborators follow scripts. A `Cue` says when a collaborator answers a
call and what it says; a `Cast` is what is left of all scripts, together with the value in the cache
and the transports that were opened. Moments are counted in milliseconds.
-/

namespace FillFeed.Rehearsal

/-- How one call goes: it takes a while or hangs, may stop the client from inside, and then ends
with its line. -/
structure Cue (α : Type) where
  delay : Nat
  hangs : Bool
  stops : Bool
  line : α

/-- A call that ends at once. -/
def Cue.prompt {α : Type} (line : α) : Cue α := ⟨0, false, false, line⟩

/-- The moment at which a call that begins at `now` gets to its end, if it does. -/
def Cue.due {α : Type} (c : Cue α) (now : Nat) : Option Nat :=
  if c.hangs then none else some (now + c.delay)

/-- What an issuer says: a failure, a given text, or a key of its own numbering. -/
inductive IssueLine where
  | fails (cause : IssuanceError)
  | gives (raw : String)
  | numbered

/-- The script of a transport. After the last frame the transport has ended. -/
structure TransportScript where
  frames : List (Cue (Except TransportError (Option WireFrame)))
  sends : List (Cue (Except TransportError Unit))
  pings : List (Cue (Except TransportError Unit))
  close : Cue (Except TransportError Unit)

/-- An open transport: what is left of its script, and since when its next frame is waited for. -/
structure OpenTransport where
  script : TransportScript
  waitedSince : Option Nat

/-- What is left of all scripts. -/
structure Cast where
  cached : Option String
  reads : List (Cue (Option CacheError))
  writes : List (Cue (Option CacheError))
  issues : List (Cue IssueLine)
  issued : Nat
  connections : List (Cue (Except TransportError TransportScript))
  handlings : List (Cue (Except HandlerError Unit))
  transports : List OpenTransport

/-- What a call in progress will lead to. -/
inductive Pending where
  | read (failure : Option CacheError)
  | write (value : String) (failure : Option CacheError)
  | release
  | issue (number : Nat) (line : IssueLine)
  | connect (result : Except TransportError TransportScript)
  | send (result : Except TransportError Unit)
  | frame (transport : TransportId)
  | close (result : Except TransportError Unit)
  | handle (result : Except HandlerError Unit)

/-- A call in progress: when it gets to its end, and whether it stops the client there. -/
structure Flight where
  due : Option Nat
  stops : Bool
  pending : Pending

/-- The next cue of a script, and the script after it. -/
def nextCue {α : Type} (absent : α) : List (Cue α) → Cue α × List (Cue α)
  | [] => (Cue.prompt absent, [])
  | c :: cs => (c, cs)

namespace Cast

/-- A transport that was opened. -/
def transport? (c : Cast) (t : TransportId) : Option OpenTransport := c.transports[t - 1]?

/-- Sets the state of a transport. -/
def setTransport (c : Cast) (t : TransportId) (o : OpenTransport) : Cast :=
  { c with transports := c.transports.set (t - 1) o }

/-- The call in progress that a cue makes of a call. -/
def flight {α : Type} (now : Nat) (cue : Cue α) (pending : Pending) : Flight :=
  ⟨cue.due now, cue.stops, pending⟩

/-- A call that ends at once. -/
def promptly (now : Nat) (pending : Pending) : Flight := ⟨some now, false, pending⟩

/-- A call begins. -/
def begin (c : Cast) (now : Nat) : Call → Cast × Flight
  | .readCache =>
    let (cue, rest) := nextCue none c.reads
    ({ c with reads := rest }, flight now cue (.read cue.line))
  | .writeCache key _ =>
    let (cue, rest) := nextCue none c.writes
    ({ c with writes := rest }, flight now cue (.write key.text cue.line))
  | .releaseCache => (c, promptly now .release)
  | .issueKey =>
    let (cue, rest) := nextCue .numbered c.issues
    ({ c with issues := rest, issued := c.issued + 1 },
      flight now cue (.issue (c.issued + 1) cue.line))
  | .openTransport _ =>
    let (cue, rest) := nextCue (.error (.connect "refused")) c.connections
    ({ c with connections := rest }, flight now cue (.connect cue.line))
  | .sendText t _ =>
    match c.transport? t with
    | none => (c, promptly now (.send (.ok ())))
    | some o =>
      let (cue, rest) := nextCue (.ok ()) o.script.sends
      (c.setTransport t { o with script := { o.script with sends := rest } },
        flight now cue (.send cue.line))
  | .sendPing t =>
    match c.transport? t with
    | none => (c, promptly now (.send (.ok ())))
    | some o =>
      let (cue, rest) := nextCue (.ok ()) o.script.pings
      (c.setTransport t { o with script := { o.script with pings := rest } },
        flight now cue (.send cue.line))
  | .receive t =>
    match c.transport? t with
    | none => (c, promptly now (.frame t))
    | some o =>
      match o.script.frames with
      | [] => (c, promptly now (.frame t))
      | cue :: _ =>
        let since := o.waitedSince.getD now
        (c.setTransport t { o with waitedSince := some since },
          ⟨(cue.due since).map (max now), false, .frame t⟩)
  | .close t =>
    match c.transport? t with
    | none => (c, promptly now (.close (.ok ())))
    | some o =>
      (c, { flight now o.script.close (.close o.script.close.line) with stops := false })
  | .handle _ =>
    let (cue, rest) := nextCue (.ok ()) c.handlings
    ({ c with handlings := rest }, flight now cue (.handle cue.line))

/-- A call gets its answer. -/
def finish (c : Cast) : Pending → Cast × Reply
  | .read (some e) => (c, .cacheRead (.error e))
  | .read none => (c, .cacheRead (.ok c.cached))
  | .write _ (some e) => (c, .cacheWritten (.error e))
  | .write value none => ({ c with cached := some value }, .cacheWritten (.ok ()))
  | .release => (c, .cacheReleased)
  | .issue _ (.fails e) => (c, .keyIssued (.error e))
  | .issue _ (.gives raw) => (c, .keyIssued (keyIn raw))
  | .issue n .numbered => (c, .keyIssued (keyIn ("key-" ++ Text.decimalNat n)))
  | .connect (.error e) => (c, .opened (.error e))
  | .connect (.ok script) =>
    ({ c with transports := c.transports ++ [⟨script, none⟩] }, .opened (.ok ()))
  | .send result => (c, .sent result)
  | .frame t =>
    match c.transport? t with
    | none => (c, .received (.ok none))
    | some o =>
      match o.script.frames with
      | [] => (c, .received (.ok none))
      | cue :: rest =>
        (c.setTransport t ⟨{ o.script with frames := rest }, none⟩, .received cue.line)
  | .close result => (c, .closed result)
  | .handle result => (c, .handled result)
where
  /-- The key in a text that an issuer gives. -/
  keyIn (raw : String) : Except IssuanceError ApprovalKey :=
    match ApprovalKey.parse? raw with
    | some key => .ok key
    | none => .error .missingField

end Cast

end FillFeed.Rehearsal
